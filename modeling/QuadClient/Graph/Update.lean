import QuadClient.Graph.Handle

/-!
# Update requests

An update request is a list of update texts written by the caller, run in order up to the
first failure.
-/

namespace QuadClient

/-- Updates to run one after the other. -/
structure UpdateSequence where
  /-- the texts -/
  updates : List String := []
  deriving DecidableEq, Repr

namespace UpdateSequence

/-- Puts an update at the end. -/
def add (u : UpdateSequence) (update : String) : UpdateSequence :=
  ⟨u.updates ++ [update]⟩

/-- One update a line. -/
def text (u : UpdateSequence) : String :=
  u.updates.foldr (fun update rest => update ++ "\n" ++ rest) ""

/-- Runs the updates in order up to the first failure. -/
def run {κ : Type} [Connection κ] (u : UpdateSequence) : GraphAction κ Unit := do
  let h ← get
  Handle.onConnection <| Attempt.mapError .ofQuery <|
    u.updates.forM fun update =>
      Connection.execute (Statement.header ++ update) h.sendOptions

end UpdateSequence

end QuadClient
