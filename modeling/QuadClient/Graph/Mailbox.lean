import QuadClient.Rdf.Triple

/-!
# Events

Every completed write on a graph is told to the listeners of its handle. A listener is a
mailbox; events sent to a mailbox that nobody reads any more are dropped.
-/

namespace QuadClient

/-- What was done to a graph. -/
inductive Event where
  /-- these triples were added -/
  | added (graph : String) (triples : List Triple)
  /-- these triples were deleted -/
  | deleted (graph : String) (triples : List Triple)
  /-- everything that the pattern accepts was deleted -/
  | removed (graph : String) (pattern : Pattern)
  /-- the graph was emptied -/
  | cleared (graph : String)
  deriving DecidableEq

/-- The graph that was written to. -/
def Event.graph : Event → String
  | added g _ | deleted g _ | removed g _ | cleared g => g

/-- A listener. -/
structure Mailbox where
  /-- the events that were not read yet, the oldest first -/
  events : List Event := []
  /-- somebody still reads -/
  isOpen : Bool := true

namespace Mailbox

/-- Puts an event at the end. -/
def send (e : Event) (m : Mailbox) : Mailbox :=
  if m.isOpen then { m with events := m.events ++ [e] } else m

/-- Reads every event. -/
def takeAll (m : Mailbox) : List Event × Mailbox :=
  (m.events, { m with events := [] })

/-- Nobody reads any more. -/
def shut (_ : Mailbox) : Mailbox :=
  ⟨[], false⟩

end Mailbox

end QuadClient
