import QuadClient.Connection.Within
import QuadClient.Text.Decimal

/-!
# Connections that refuse calls

A connection that passes calls on to another one, except those it was told to refuse. A
refused call does not reach the other connection.
-/

namespace QuadClient

/-- Which calls are refused. -/
structure Refusals where
  /-- the word that the text of a refusal begins with -/
  reason : String := "refused"
  /-- preparing a statement -/
  prepare : Bool := false
  /-- putting parameters by for a batch -/
  putBy : Bool := false
  /-- running a statement that answers with rows -/
  query : Bool := false
  /-- asking for autocommit -/
  autoCommit : Bool := false
  /-- asking whether transactions are offered -/
  supports : Bool := false
  /-- asking for the isolation -/
  isolation : Bool := false
  /-- changing the isolation -/
  setIsolation : Bool := false
  /-- releasing the connection -/
  close : Bool := false
  /-- asking for no more rows of an answer -/
  cancel : Bool := false
  /-- binding the parameter of this number -/
  bind : Option Nat := none
  /-- asking for a row of an answer when it was done so many times before -/
  fetchRow : Option Nat := none

/-- A connection that refuses some calls. -/
structure Refusing (κ : Type) where
  /-- the connection that does the work -/
  inner : κ
  /-- the calls that are refused now -/
  refusals : Refusals := {}
  /-- how often a row was asked for of the answer that was opened last -/
  rowCalls : Nat := 0

namespace Refusing

variable {κ σ α : Type}

/-- Refuses a call if it is to be refused. -/
def gate (refused : Refusals → Bool) (name : String) (view : σ → Refusing κ)
    (a : Attempt CallError σ α) : Attempt CallError σ α :=
  .of fun s =>
    let r := (view s).refusals
    -- A refusal leaves the connection behind it as it is.
    if refused r then (.error (.statement (r.reason ++ " " ++ name)), s) else a.on s

/-- Opens an answer; no row of it was asked for. -/
def opening (a : Attempt CallError (Refusing κ) Rows) :
    Attempt CallError (Refusing κ) Rows :=
  gate (·.query) "query" id do
    let rows ← a
    modify fun c => { c with rowCalls := 0 }
    return rows

/-- Binds a parameter unless it is the one to be refused. -/
def bind (index : Nat) (a : Attempt CallError (Refusing κ) α) :
    Attempt CallError (Refusing κ) α :=
  .of fun c =>
    if c.refusals.bind = some index then
      (.error (.bind (c.refusals.reason ++ " bind " ++ Text.integer index)), c)
    else a.on c

/-- Asks for a row unless it is the one to be refused. -/
def fetchRow (a : Attempt CallError (LiveRows (Refusing κ)) α) :
    Attempt CallError (LiveRows (Refusing κ)) α :=
  .of fun live =>
    let c := live.connection
    -- A refused call counts as well.
    let live := { live with connection := { c with rowCalls := c.rowCalls + 1 } }
    if c.refusals.fetchRow = some c.rowCalls then (.error .cancelled, live) else a.on live

/-- Every call passed on. -/
@[reducible] def passing [Connection κ] : Connection (Refusing κ) :=
  .within inner fun inner c => { c with inner }

instance [Connection κ] : Connection (Refusing κ) :=
  { passing with
    query := fun text options => opening (passing.query text options)
    prepare := fun text options => gate (·.prepare) "prepare" id (passing.prepare text options)
    bind := fun statement index value => bind index (passing.bind statement index value)
    putBy := fun statement => gate (·.putBy) "add_batch" id (passing.putBy statement)
    queryPrepared := fun statement => opening (passing.queryPrepared statement)
    fetchRow := fetchRow passing.fetchRow
    cancelRows := gate (·.cancel) "cancel" (·.connection) passing.cancelRows
    autoCommit := gate (·.autoCommit) "auto_commit" id passing.autoCommit
    supportsTransactions := gate (·.supports) "supports" id passing.supportsTransactions
    isolation := gate (·.isolation) "isolation" id passing.isolation
    setIsolation := fun level =>
      gate (·.setIsolation) "set_isolation" id (passing.setIsolation level)
    close := gate (·.close) "close" id passing.close
    fetchRow_lt := fun live next row h => by
      simp only [fetchRow, Attempt.on_of] at h
      split at h
      · simp at h
      · have shorter := passing.fetchRow_lt _ _ _ h
        exact shorter }

end Refusing

end QuadClient
