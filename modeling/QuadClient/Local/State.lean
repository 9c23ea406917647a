import QuadClient.Connection.Basic
import QuadClient.Store.Basic

/-!
# The state of the in-process store

While autocommit is on, writes go to the committed triples. While it is off they go to a
working copy, which a commit publishes and a rollback discards. The state also records what
the store was asked and holds the faults it is told to show.
-/

namespace QuadClient

/-- The calls that are to fail. -/
structure Faults where
  /-- the batch of this number, counted from one -/
  failingBatch : Option Nat := none
  /-- every commit -/
  commit : Bool := false
  /-- every rollback -/
  rollback : Bool := false
  /-- every switch of autocommit -/
  setAutoCommit : Bool := false
  /-- every statement that answers with rows -/
  queries : Bool := false
  /-- every statement that is run on its own and answers with no rows -/
  updates : Bool := false
  /-- every release of an answer, after the answer is released -/
  closeRows : Bool := false
  deriving DecidableEq, Repr

/-- A result that was prepared for a statement the store does not understand. -/
structure ResultSet where
  /-- the names of the columns -/
  columns : List String := []
  /-- the rows -/
  rows : List (List Cell) := []

/-- A statement as the store saw it. -/
structure LogEntry where
  /-- the text -/
  text : String
  /-- the options -/
  options : SendOptions
  /-- the parameters; those of the last entry for a batch -/
  params : List Param
  deriving DecidableEq

/-- A connection to the in-process store. -/
structure LocalConnection where
  /-- the published triples -/
  committed : QuadStore := .empty
  /-- the triples of the open transaction, if there is one -/
  working : Option QuadStore := none
  /-- every write is published at once -/
  autoCommit : Bool := true
  /-- how far transactions are kept apart -/
  isolation : Isolation := .repeatableRead
  /-- transactions are offered -/
  supportsTransactions : Bool := true
  /-- the connection was released -/
  isClosed : Bool := false
  /-- the calls that are to fail -/
  faults : Faults := {}
  /-- results for statements that are not understood, the next one first -/
  scripted : List ResultSet := []
  /-- the statements that were run, the oldest first -/
  log : List LogEntry := []
  /-- the sizes of the batches that were run, the oldest first -/
  batchesRun : List Nat := []
  /-- the batches that were asked for, run or refused -/
  batchesAsked : Nat := 0
  /-- the commits so far -/
  commits : Nat := 0
  /-- the rollbacks so far -/
  rollbacks : Nat := 0
  /-- the cancelled answers so far -/
  cancels : Nat := 0
  /-- the answers that were handed out and not released -/
  openRows : Nat := 0

namespace LocalConnection

/-- The triples the connection sees. -/
def visible (c : LocalConnection) : QuadStore :=
  c.working.getD c.committed

/-- Replaces the triples the connection sees. -/
def setVisible (s : QuadStore) (c : LocalConnection) : LocalConnection :=
  match c.working with
  -- While a transaction is open its working copy alone is written to.
  | some _ => { c with working := some s }
  | none => { c with committed := s }

/-- Adds a statement to the log. -/
def record (entry : LogEntry) (c : LocalConnection) : LocalConnection :=
  { c with log := c.log ++ [entry] }

/-- Puts a result at the end of the queue. -/
def push (r : ResultSet) (c : LocalConnection) : LocalConnection :=
  { c with scripted := c.scripted ++ [r] }

/-- Publishes triples without a statement. -/
def seed (graph : String) (ts : List Triple) (c : LocalConnection) : LocalConnection :=
  { c with committed := ts.foldl (fun s t => (s.insert graph t).2) c.committed }

@[simp] theorem visible_setVisible (s : QuadStore) (c : LocalConnection) :
    (c.setVisible s).visible = s := by
  unfold setVisible visible
  split <;> simp_all

end LocalConnection

end QuadClient
