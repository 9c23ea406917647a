import QuadClient.Attempt
import QuadClient.Coding.Cell
import QuadClient.Coding.Param
import QuadClient.Connection.Error
import QuadClient.Settings.Basic

/-!
# Connections

The library opens no connections itself; it works on any type that offers the calls of
`Connection`. A connection has a state, so every call gives the state after it, whether it
failed or not. A prepared statement and the rows of an answer are values beside it: while
rows are read, the two together are a `LiveRows`.
-/

namespace QuadClient

/-- How far a transaction is kept apart from others. -/
inductive Isolation where
  /-- work of others shows before it is committed -/
  | readUncommitted
  /-- committed work of others shows -/
  | readCommitted
  /-- what was read once reads the same again -/
  | repeatableRead
  /-- as if transactions ran one after the other -/
  | serializable
  deriving DecidableEq, Repr

/-- The name of the level. -/
def Isolation.name : Isolation → String
  | readUncommitted => "ReadUncommitted"
  | readCommitted => "ReadCommitted"
  | repeatableRead => "RepeatableRead"
  | serializable => "Serializable"

/-- The level of this name. -/
def Isolation.ofName? (name : String) : Option Isolation :=
  [readUncommitted, readCommitted, repeatableRead, serializable].find? (·.name == name)

/-- A statement with open parameters, and what was bound so far. -/
structure Prepared where
  /-- the text -/
  text : String
  /-- the options it will be sent with -/
  options : SendOptions
  /-- the parameters bound now, in the order of their numbers -/
  params : List Param := []
  /-- the parameter lists put by for a batch -/
  batch : Array (List Param) := #[]

namespace Prepared

/-- Binds a parameter, counted from zero; parameters in front of it that are not bound yet
are null. -/
def bindAt (p : Prepared) (index : Nat) (value : Param) : Prepared :=
  -- Parameters may be bound in any order, so there may be holes in front.
  let padding := List.replicate (index + 1 - p.params.length) Param.null
  { p with params := (p.params ++ padding).set index value }

/-- Puts the current parameters by for the batch. -/
def putBy (p : Prepared) : Prepared :=
  { p with batch := p.batch.push p.params }

/-- Forgets what was put by. The parameters stay bound. -/
def newBatch (p : Prepared) : Prepared :=
  { p with batch := #[] }

end Prepared

/-- The rows of an answer that are still to come. -/
structure Rows where
  /-- the names of the columns -/
  columns : List String
  /-- the rows to come -/
  rows : List (List Cell)
  /-- the store still holds the answer -/
  isOpen : Bool := true

/-- A connection together with an answer that is being read. -/
structure LiveRows (κ : Type) where
  /-- the connection -/
  connection : κ
  /-- the answer -/
  rows : Rows

/-- What can be called on a connection to a store. -/
class Connection (κ : Type) where
  /-- runs a statement that answers with no rows -/
  execute (text : String) (options : SendOptions) : Attempt CallError κ Unit
  /-- runs a statement and gives its rows -/
  query (text : String) (options : SendOptions) : Attempt CallError κ Rows
  /-- prepares a statement -/
  prepare (text : String) (options : SendOptions) : Attempt CallError κ Prepared
  /-- binds a parameter, counted from one -/
  bind (statement : Prepared) (index : Nat) (value : Param) : Attempt CallError κ Prepared
  /-- puts the bound parameters by as one entry of the batch -/
  putBy (statement : Prepared) : Attempt CallError κ Prepared
  /-- runs the entries of the batch as one unit, and counts them -/
  runBatch (statement : Prepared) : Attempt CallError κ Nat
  /-- runs a prepared statement once -/
  executePrepared (statement : Prepared) : Attempt CallError κ Unit
  /-- runs a prepared statement once and gives its rows -/
  queryPrepared (statement : Prepared) : Attempt CallError κ Rows
  /-- the next row, none at the end -/
  fetchRow : Attempt CallError (LiveRows κ) (Option (List Cell))
  /-- asks the store to stop producing rows -/
  cancelRows : Attempt CallError (LiveRows κ) Unit
  /-- gives the answer back to the store -/
  closeRows : Attempt CallError (LiveRows κ) Unit
  /-- whether every statement is committed on its own -/
  autoCommit : Attempt CallError κ Bool
  /-- switches autocommit -/
  setAutoCommit (on : Bool) : Attempt CallError κ Unit
  /-- publishes the open work -/
  commit : Attempt CallError κ Unit
  /-- discards the open work -/
  rollback : Attempt CallError κ Unit
  /-- whether transactions of several statements are offered -/
  supportsTransactions : Attempt CallError κ Bool
  /-- how far transactions are kept apart -/
  isolation : Attempt CallError κ Isolation
  /-- changes how far transactions are kept apart -/
  setIsolation (level : Isolation) : Attempt CallError κ Unit
  /-- releases the connection -/
  close : Attempt CallError κ Unit
  /-- a row that was handed out is no longer to come -/
  fetchRow_lt (live next : LiveRows κ) (row : List Cell) :
    fetchRow.on live = (.ok (some row), next) → next.rows.rows.length < live.rows.rows.length

end QuadClient
