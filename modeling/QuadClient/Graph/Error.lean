import QuadClient.Coding.Slots
import QuadClient.Connection.Error
import QuadClient.Settings.Basic

/-!
# Failures of a graph handle

Each failure names its cause. The failure of a call on the connection is kept inside the
failure of the operation that made the call, and its wording is part of the wording of the
operation's failure.
-/

namespace QuadClient

/-- The direction of a write. -/
inductive WriteKind where
  /-- triples are inserted -/
  | add
  /-- triples are deleted -/
  | delete
  deriving DecidableEq, Repr

/-- The name of a direction in messages. -/
def WriteKind.name : WriteKind → String
  | add => "add"
  | delete => "delete"

/-- A step of a transaction. -/
inductive Phase where
  /-- the start -/
  | begin
  /-- the publication of the work -/
  | commit
  /-- the discarding of the work -/
  | abort
  /-- the rollback, whichever step called for it -/
  | rollback
  deriving DecidableEq, Repr

/-- The name of a step in messages. -/
def Phase.name : Phase → String
  | begin => "begin"
  | commit => "commit"
  | abort => "abort"
  | rollback => "rollback"

/-- Why a write failed. -/
inductive MutationCause where
  /-- a call on the connection failed -/
  | connection (e : CallError)
  /-- the address of a document holds a quote -/
  | badSource (url : String)
  deriving DecidableEq, Repr

/-- The wording of a cause. -/
def MutationCause.message : MutationCause → String
  | connection e => e.message
  | badSource url => "invalid source URL " ++ url

/-- Why a read failed. -/
inductive QueryCause where
  /-- a call on the connection failed -/
  | connection (e : CallError)
  /-- the text is no query -/
  | badSyntax
  /-- the store counted less than nothing -/
  | negativeCount (n : Int)
  /-- the caller's own reason -/
  | reported (reason : String)
  deriving DecidableEq, Repr

/-- The wording of a cause. -/
def QueryCause.message : QueryCause → String
  | connection e => e.message
  | badSyntax => "Syntax error"
  | negativeCount n => "negative count " ++ Text.integer n
  | reported reason => reason

/-- Why an operation on a graph failed. -/
inductive Error where
  /-- a term in a slot that cannot hold it -/
  | misplaced (m : Misplaced)
  /-- a write failed -/
  | mutation (kind : WriteKind) (cause : MutationCause)
  /-- a read failed -/
  | query (cause : QueryCause)
  /-- the cursor has no row left -/
  | exhausted
  /-- a step of a transaction failed -/
  | transaction (phase : Phase) (cause : CallError)
  /-- a step of a transaction failed, and so did the rollback after it -/
  | rollback (refused : CallError) (phase : Phase) (cause : CallError)
  /-- the work inside a transaction failed, and so did its abort -/
  | abort (abort work : Error)
  /-- the store does not offer this -/
  | unsupported (name : String)
  /-- the handle is closed -/
  | closed
  /-- a setting is not valid -/
  | settings (e : Settings.Invalid)
  deriving DecidableEq

namespace Error

/-- The failure of a read whose call on the connection failed. -/
def ofQuery (e : CallError) : Error := .query (.connection e)

/-- The failure of a write whose call on the connection failed. -/
def ofMutation (kind : WriteKind) (e : CallError) : Error :=
  .mutation kind (.connection e)

/-- Whether the failure is that of a transaction step. -/
def isTransaction : Error → Bool
  | transaction .. | rollback .. | abort .. => true
  | _ => false

/-- The wording of a failed transaction step. -/
def phaseMessage (phase : Phase) (cause : String) : String :=
  "Transaction " ++ phase.name ++ " failed: " ++ cause

/-- The wording of a failure. -/
def message : Error → String
  | misplaced m => m.message
  | mutation kind cause => "Mutation denied (" ++ kind.name ++ "): " ++ cause.message
  | query cause => "Query failed: " ++ cause.message
  | exhausted => "No more rows"
  | transaction phase cause => phaseMessage phase cause.message
  | rollback refused phase cause =>
    phaseMessage .rollback (refused.message ++ " (after " ++ phase.name ++ " failed: " ++
      cause.message ++ ")")
  | abort a work =>
    -- A failure of the abort names its step already, unless it comes from elsewhere.
    let failed := if a.isTransaction then a.message else phaseMessage .abort a.message
    failed ++ " (while aborting after: " ++ work.message ++ ")"
  | unsupported name => "Unsupported operation: " ++ name
  | closed => "Graph handle is closed"
  | settings e => "Configuration error: " ++ e.message

end Error

end QuadClient
