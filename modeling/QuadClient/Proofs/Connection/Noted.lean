import QuadClient.Connection.Within
import QuadClient.Proofs.Graph.View

/-!
# Refusals that are written down

A noted connection passes every call on and writes down the failures of those that were refused.
Nobody sees that it does. Work that belongs to someone else can be done on the connection inside,
so that only the calls of the one in question are written down.
-/

namespace QuadClient

/-- A connection that writes down its refusals. -/
structure Noted (κ : Type) where
  /-- the connection that does the work -/
  inner : κ
  /-- the failures of the calls that were refused, the oldest first -/
  refusals : List CallError := []

namespace Noted

variable {κ α : Type}

/-- A call passed on, its failure written down if it has one. -/
def note (call : Attempt CallError κ α) : Attempt CallError (Noted κ) α :=
  .of fun n =>
    match call.on n.inner with
    | (.ok x, c) => (.ok x, ⟨c, n.refusals⟩)
    | (.error e, c) => (.error e, ⟨c, n.refusals ++ [e]⟩)

/-- Whoever does not see the notes sees the call alone. -/
theorem note_looksLike (call : Attempt CallError κ α) :
    (note call).LooksLike inner call := by
  intro n
  rw [note, Attempt.on_of]
  rcases call.on n.inner with ⟨e | x, c⟩
  · rfl
  · rfl

/-- Work on the connection inside, none of whose calls is written down. -/
def unnoted (work : GraphAction κ α) : GraphAction (Noted κ) α :=
  work.zoom (Handle.seen inner) fun h n =>
    ⟨⟨h.connection, n.connection.refusals⟩, h.graphName, h.isClosed, h.options, h.resources,
      h.listeners⟩

theorem unnoted_looksLike (work : GraphAction κ α) :
    (unnoted work).LooksLike (Handle.seen inner) work :=
  fun _ => rfl

variable [Connection κ]

/-- Every call passed on. -/
@[reducible] def passing : Connection (Noted κ) :=
  .within inner fun inner n => { n with inner }

-- The calls on an answer that is being read are calls on the answer, and only passed on.
instance : Connection (Noted κ) :=
  { passing with
    execute := fun text options => note (Connection.execute text options)
    query := fun text options => note (Connection.query text options)
    prepare := fun text options => note (Connection.prepare text options)
    bind := fun statement index value => note (Connection.bind statement index value)
    putBy := fun statement => note (Connection.putBy statement)
    runBatch := fun statement => note (Connection.runBatch statement)
    executePrepared := fun statement => note (Connection.executePrepared statement)
    queryPrepared := fun statement => note (Connection.queryPrepared statement)
    autoCommit := note Connection.autoCommit
    setAutoCommit := fun on => note (Connection.setAutoCommit on)
    commit := note Connection.commit
    rollback := note Connection.rollback
    supportsTransactions := note Connection.supportsTransactions
    isolation := note Connection.isolation
    setIsolation := fun level => note (Connection.setIsolation level)
    close := note Connection.close }

end Noted

end QuadClient
