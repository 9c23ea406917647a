import QuadClient.Graph.Handle

/-!
# Transactions

A transaction on a handle's connection is begun, and then committed or aborted. When a step
fails after it began its work, the open work is rolled back; a rollback that fails as well is
part of the error. Whether the store offers transactions is asked once.
-/

namespace QuadClient

/-- The control of transactions on a handle. -/
structure Transaction (κ : Type) where
  /-- the handle -/
  handle : Handle κ
  /-- whether the store offers transactions, once it was asked -/
  supported : Option Bool := none

/-- A step of a transaction. -/
abbrev TransactionAction (κ α : Type) := Attempt Error (Transaction κ) α

namespace Transaction

variable {κ α : Type} [Connection κ]

omit [Connection κ] in
/-- An operation on the handle. -/
def onHandle (a : GraphAction κ α) : TransactionAction κ α :=
  Attempt.zoom (·.handle) (fun h t => { t with handle := h }) a

omit [Connection κ] in
/-- An action on the connection, refused by a closed handle. -/
def onConnection (a : Attempt Error κ α) : TransactionAction κ α :=
  onHandle (Handle.onConnection a)

/-- Whether the store offers transactions. -/
def supportsTransactions : TransactionAction κ Bool := do
  match (← get).supported with
  | some b => return b
  | none =>
    -- A failure to answer is not remembered, the next step asks again.
    let b ← onConnection (Attempt.mapError (.transaction .begin) Connection.supportsTransactions)
    modify fun t => { t with supported := some b }
    return b

/-- Fails if the store offers no transactions. -/
def require (name : String) : TransactionAction κ Unit := do
  if !(← supportsTransactions) then throw (.unsupported name)

/-- Rolls back after a step failed, and fails with the cause of that. -/
def failWith (phase : Phase) (cause : CallError) : TransactionAction κ α := do
  -- The cause of the failure stays in the error, whatever becomes of the rollback.
  match ← onConnection (Attempt.outcome Connection.rollback) with
  | .ok () => throw (.transaction phase cause)
  | .error refused => throw (.rollback refused phase cause)

/-- Makes calls that belong to one step; the first failure ends them and rolls back. -/
def guarded (phase : Phase) (calls : Attempt CallError κ Unit) :
    TransactionAction κ Unit := do
  match ← onConnection (Attempt.outcome calls) with
  | .ok () => return ()
  | .error cause => failWith phase cause

/-- Opens a transaction that sees committed work of others. -/
def begin : TransactionAction κ Unit := do
  require "begin transaction"
  guarded .begin do
    if (← Connection.isolation) ≠ .readCommitted then Connection.setIsolation .readCommitted
    if ← Connection.autoCommit then Connection.setAutoCommit false

/-- Publishes the open work and goes back to autocommit. -/
def commit : TransactionAction κ Unit := do
  require "commit transaction"
  guarded .commit do
    Connection.commit
    Connection.setAutoCommit true

/-- Discards the open work and goes back to autocommit. A rollback that is refused is not
tried again. -/
def abort : TransactionAction κ Unit := do
  require "abort transaction"
  onConnection (Attempt.mapError (.transaction .rollback) Connection.rollback)
  guarded .abort do
    Connection.commit
    Connection.setAutoCommit true

/-- Does some work between the begin and the commit of a transaction, and aborts it if the
work fails. -/
def execute (work : GraphAction κ α) : TransactionAction κ α := do
  begin
  match ← onHandle work.outcome with
  | .ok value =>
    commit
    return value
  | .error e =>
    -- The failure of the work is the one to learn, unless the abort fails as well.
    match ← Attempt.outcome (abort : TransactionAction κ Unit) with
    | .ok () => throw e
    | .error a => throw (.abort a e)

end Transaction

namespace Handle

/-- Does some work inside a transaction of its own. -/
def inTransaction {κ α : Type} [Connection κ] (work : GraphAction κ α) : GraphAction κ α :=
  .of fun h =>
    let (r, t) := (Transaction.execute work).on ⟨h, none⟩
    (r, t.handle)

end Handle

end QuadClient
