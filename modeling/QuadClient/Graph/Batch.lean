import QuadClient.Graph.Read

/-!
# Writing many triples

A batched write goes through one prepared statement. Triples are put by one after the other and
sent in batches; what is left at the end is sent as a smaller batch. The first failure ends
the write: batches that were sent stay sent, and nothing of the unfinished batch is sent.
-/

namespace QuadClient

/-- The triples that one batch holds. -/
def batchLimit : Nat := 5000

/-- The template of a write. -/
def WriteKind.template : WriteKind → String
  | add => Template.insert
  | delete => Template.delete

/-- What a batched write did, finished or not. -/
structure Progress where
  /-- the triples that were put by, in order -/
  queued : Array Triple := #[]
  /-- the triples that were taken from the sequence -/
  consumed : Nat := 0

/-- A batched write on its way. -/
structure BatchWrite (κ : Type) where
  /-- the connection -/
  connection : κ
  /-- the statement, with the batch that was not sent yet -/
  statement : Prepared
  /-- the triples in that batch -/
  pending : Nat := 0
  /-- the triples in the batches that were sent -/
  sent : Nat := 0
  /-- what was done so far -/
  progress : Progress := {}

namespace BatchWrite

variable {κ : Type} [Connection κ]

/-- A call on the connection. -/
def call {α : Type} (kind : WriteKind) (a : Attempt CallError κ α) :
    Attempt Error (BatchWrite κ) α :=
  (a.mapError (.ofMutation kind)).zoom (·.connection) fun c b => { b with connection := c }

/-- Sends the batch and begins a new one. -/
def flush (kind : WriteKind) : Attempt Error (BatchWrite κ) Unit := do
  let b ← get
  let _ ← call kind (Connection.runBatch b.statement)
  modify fun b =>
    { b with
      statement := b.statement.newBatch
      sent := b.sent + b.pending
      pending := 0 }

/-- Takes a triple and puts it by; sends the batch when it is full. -/
def put (kind : WriteKind) (graph : String) (t : Triple) :
    Attempt Error (BatchWrite κ) Unit := do
  -- A triple that cannot be coded was taken from the sequence all the same.
  modify fun b => { b with progress.consumed := b.progress.consumed + 1 }
  match t.encode with
  | .error m => throw (.misplaced m)
  | .ok e =>
    let statement := (← get).statement
    let statement ← call kind (Handle.bindFrom 1 statement (e.params graph))
    let statement ← call kind (Connection.putBy statement)
    modify fun b =>
      { b with
        statement
        pending := b.pending + 1
        progress.queued := b.progress.queued.push t }
    -- A full batch is sent before the next triple is taken.
    if (← get).pending = batchLimit then flush kind

/-- Takes every triple and sends what is left. Gives the number of triples sent. -/
def putAll (kind : WriteKind) (graph : String) (ts : List Triple) :
    Attempt Error (BatchWrite κ) Nat := do
  ts.forM (put kind graph)
  -- No empty batch is ever sent.
  if 0 < (← get).pending then flush kind
  return (← get).sent

end BatchWrite

namespace Handle

variable {κ α : Type} [Connection κ]

/-- Adds or deletes triples in one pass over the sequence. The result is the number of triples
sent; the progress is there whether the write succeeded or not. -/
def sendAll (kind : WriteKind) (ts : List Triple) (h : Handle κ) :
    (Except Error Nat × Progress) × Handle κ :=
  if h.isClosed then ((.error .closed, {}), h)
  else
    match (Connection.prepare kind.template h.sendOptions).on h.connection with
    | (.error e, c) => ((.error (.ofMutation kind e), {}), { h with connection := c })
    | (.ok statement, c) =>
      let (r, b) := (BatchWrite.putAll kind h.graphName ts).on ⟨c, statement, 0, 0, {}⟩
      ((r, b.progress), { h with connection := b.connection })

/-- Begins a transaction around a write, unless the caller holds one already. Says whether it
did. -/
def enterWrite (kind : WriteKind) : GraphAction κ Bool :=
  onConnection <| Attempt.mapError (.ofMutation kind) do
    let auto ← Connection.autoCommit
    if auto then Connection.setAutoCommit false
    return auto

/-- Publishes the work of a write and goes back to autocommit. -/
def publishWrite (kind : WriteKind) : GraphAction κ Unit :=
  onConnection <| Attempt.mapError (.ofMutation kind) do
    Connection.commit
    Connection.setAutoCommit true

/-- Discards the work of a write and goes back to autocommit. Failures to do so are let go. -/
def discardWrite : GraphAction κ Unit :=
  onConnection do
    let _ ← Attempt.outcome (Connection.rollback : Attempt CallError κ Unit)
    let _ ← Attempt.outcome (Connection.setAutoCommit true : Attempt CallError κ Unit)

/-- Ends a write with the outcome of its work. If the write holds the transaction itself, the
work is published; if the work or its publication failed, it is discarded. -/
def leaveWrite (kind : WriteKind) (owned : Bool) (outcome : Except Error α) :
    GraphAction κ α := do
  if owned then
    let finish : GraphAction κ α := do
      let value ← Attempt.done outcome
      publishWrite kind
      return value
    let result ← finish.outcome
    -- The outcome of the write is what the caller learns, whatever the discarding does.
    if let .error _ := result then
      let _ ← (discardWrite : GraphAction κ Unit).outcome
    Attempt.done result
  else Attempt.done outcome

/-- Does some work inside a transaction of its own, unless the caller holds one already. -/
def duringWrite (kind : WriteKind) (work : GraphAction κ α) : GraphAction κ α := do
  let owned ← enterWrite kind
  let outcome ← work.outcome
  leaveWrite kind owned outcome

/-- The event of a batched write. -/
def writeEvent (kind : WriteKind) (ts : List Triple) (graph : String) : Event :=
  match kind with
  | .add => .added graph ts
  | .delete => .deleted graph ts

/-- Adds or deletes triples inside a transaction of the write, and tells the listeners if
asked to. The result is the number of triples sent; the progress is there either way. -/
def writeAll (kind : WriteKind) (ts : List Triple) (notify : Bool) (h : Handle κ) :
    (Except Error Nat × Progress) × Handle κ :=
  match (enterWrite kind).on h with
  | (.error e, h) => ((.error e, {}), h)
  | (.ok owned, h) =>
    let ((outcome, progress), h) := sendAll kind ts h
    let (result, h) := (leaveWrite kind owned outcome).on h
    match result with
    | .error e => ((.error e, progress), h)
    | .ok n =>
      -- A write that failed is told to nobody.
      let h := if notify then h.notify (writeEvent kind ts h.graphName) else h
      ((.ok n, progress), h)

/-- The batched write as an operation, its progress forgotten. -/
def writeMany (kind : WriteKind) (ts : List Triple) (notify : Bool) : GraphAction κ Nat :=
  .of fun h =>
    let ((r, _), h) := writeAll kind ts notify h
    (r, h)

end Handle

end QuadClient
