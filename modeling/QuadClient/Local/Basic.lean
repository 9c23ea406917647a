import QuadClient.Local.Change

/-!
# The in-process store as a connection

Each call refuses a closed connection first, then shows the fault it is told to show, and then
does its work. Reading an answer needs no open connection.
-/

namespace QuadClient.LocalConnection

/-- The result of a call on a connection. -/
abbrev Call (α : Type) := LocalConnection → Except CallError α × LocalConnection

/-- Refuses a closed connection. -/
def whenOpen {α : Type} (call : Call α) : Call α := fun c =>
  if c.isClosed then (.error .closed, c) else call c

/-- Runs a statement that answers with no rows. -/
def execute (text : String) (options : SendOptions) (params : List Param) : Call Unit :=
  whenOpen fun c =>
    if c.faults.updates then (.error (.statement ("update rejected: " ++ text)), c)
    else runUpdate text params (c.record ⟨text, options, params⟩)

/-- Runs a statement and hands out its rows. -/
def query (text : String) (options : SendOptions) (params : List Param) : Call Rows :=
  whenOpen fun c =>
    match runQuery text params (c.record ⟨text, options, params⟩) with
    | (.error e, c) => (.error e, c)
    | (.ok r, c) => (.ok ⟨r.columns, r.rows, true⟩, { c with openRows := c.openRows + 1 })

/-- Prepares a statement. -/
def prepare (text : String) (options : SendOptions) : Call Prepared :=
  whenOpen fun c => (.ok { text, options }, c)

/-- Binds a parameter, counted from one. -/
def bind (statement : Prepared) (index : Nat) (value : Param) : Call Prepared := fun c =>
  match index with
  | 0 => (.error (.bind "parameter indexes start at 1"), c)
  | i + 1 => (.ok (statement.bindAt i value), c)

/-- Runs the entries of a batch in order. A failure leaves the entries before it done. -/
def runBatch (statement : Prepared) : Call Nat :=
  whenOpen fun c =>
    -- A refused batch has a number too.
    let c := { c with batchesAsked := c.batchesAsked + 1 }
    if c.faults.failingBatch = some c.batchesAsked then
      (.error (.statement ("batch " ++ Text.integer c.batchesAsked ++ " rejected by store")), c)
    else
      -- The entries before a failing one stay done until someone rolls back.
      let (r, store) := changeAll statement.text statement.batch.toList c.visible
      let c := c.setVisible store
      match r with
      | .error e => (.error e, c)
      | .ok () =>
        let size := statement.batch.size
        let c := c.record ⟨statement.text, statement.options, statement.batch.back?.getD []⟩
        (.ok size, { c with batchesRun := c.batchesRun ++ [size] })

/-- The next row of an answer that was not released. -/
def fetchRow (live : LiveRows LocalConnection) :
    Except CallError (Option (List Cell)) × LiveRows LocalConnection :=
  if live.rows.isOpen then
    match live.rows.rows with
    | [] => (.ok none, live)
    | row :: rest => (.ok (some row), { live with rows := { live.rows with rows := rest } })
  else (.error .closed, live)

/-- Drops the rows that are still to come. -/
def cancelRows (live : LiveRows LocalConnection) :
    Except CallError Unit × LiveRows LocalConnection :=
  (.ok (),
    { connection := { live.connection with cancels := live.connection.cancels + 1 }
      rows := { live.rows with rows := [] } })

/-- Releases an answer. -/
def closeRows (live : LiveRows LocalConnection) :
    Except CallError Unit × LiveRows LocalConnection :=
  let c := live.connection
  -- Only the first release counts, a second one changes nothing.
  let c := if live.rows.isOpen then { c with openRows := c.openRows - 1 } else c
  let r :=
    if c.faults.closeRows then .error (.statement "stream close refused by store") else .ok ()
  (r, ⟨c, { live.rows with isOpen := false }⟩)

/-- Switches autocommit. Switching it off opens a transaction; switching it on publishes the
open one. -/
def setAutoCommit (on : Bool) : Call Unit :=
  whenOpen fun c =>
    if c.faults.setAutoCommit then (.error (.transaction "autocommit toggle refused"), c)
    -- To switch to where the switch stands does not end a transaction.
    else if on = c.autoCommit then (.ok (), c)
    else if on then
      (.ok (), { c with committed := c.visible, working := none, autoCommit := true })
    else (.ok (), { c with working := some c.committed, autoCommit := false })

/-- Publishes the open transaction, which goes on. -/
def commit : Call Unit :=
  whenOpen fun c =>
    if c.faults.commit then (.error (.transaction "commit refused by store"), c)
    else (.ok (), { c with committed := c.visible, commits := c.commits + 1 })

/-- Discards the work of the open transaction, which goes on. -/
def rollback : Call Unit :=
  whenOpen fun c =>
    if c.faults.rollback then (.error (.transaction "rollback refused by store"), c)
    else
      (.ok (), { c with
        -- Outside of a transaction there is nothing to discard.
        working := c.working.map fun _ => c.committed
        rollbacks := c.rollbacks + 1 })

/-- Releases the connection. Work that was not published is lost. -/
def close : Call Unit := fun c =>
  (.ok (), { c with working := none, isClosed := true })

instance : Connection LocalConnection where
  execute text options := .of (execute text options [])
  query text options := .of (query text options [])
  prepare text options := .of (prepare text options)
  bind statement index value := .of (bind statement index value)
  putBy statement := pure statement.putBy
  runBatch statement := .of (runBatch statement)
  executePrepared s := .of (execute s.text s.options s.params)
  queryPrepared s := .of (query s.text s.options s.params)
  fetchRow := .of fetchRow
  cancelRows := .of cancelRows
  closeRows := .of closeRows
  autoCommit := .of (whenOpen fun c => (.ok c.autoCommit, c))
  setAutoCommit on := .of (setAutoCommit on)
  commit := .of commit
  rollback := .of rollback
  supportsTransactions := .of (whenOpen fun c => (.ok c.supportsTransactions, c))
  isolation := .of (whenOpen fun c => (.ok c.isolation, c))
  setIsolation level := .of (whenOpen fun c => (.ok (), { c with isolation := level }))
  close := .of close
  fetchRow_lt live next row h := by
    simp only [Attempt.on_of, fetchRow] at h
    split at h
    · split at h
      · simp at h
      · next he => simp only [Prod.mk.injEq] at h; rw [← h.2, he]; simp
    · simp at h

end QuadClient.LocalConnection
