/-!
# Failures of a connection
-/

namespace QuadClient

/-- Why a call on a connection failed. The details are the store's own words. -/
inductive CallError where
  /-- the store refused or failed a statement -/
  | statement (detail : String)
  /-- a parameter does not fit -/
  | bind (detail : String)
  /-- commit, rollback or the switch of autocommit failed -/
  | transaction (detail : String)
  /-- the statement was cancelled on its way -/
  | cancelled
  /-- the connection is closed -/
  | closed
  deriving DecidableEq, Repr

/-- The wording of a failure. -/
def CallError.message : CallError → String
  | statement detail => "Statement error: " ++ detail
  | bind detail => "Bind error: " ++ detail
  | transaction detail => "Transaction error: " ++ detail
  | cancelled => "Statement cancelled"
  | closed => "Connection closed"

end QuadClient
