import QuadClient.Graph.Read
import QuadClient.Query.Basic

/-!
# Evaluating queries

A query that was read is sent in its canonical text. Variables that have a value are replaced
in that text, so that a value may also stand where the query does not allow it.
-/

namespace QuadClient

/-- Reads a query. -/
def Query.prepare (text : String) : Except Error Query :=
  match parse? text with
  | some q => .ok q
  | none => .error (.query .badSyntax)

/-- Opens the answer to a query and uses it. -/
def Handle.evaluateWith {κ α : Type} [Connection κ] (q : Query) (lookup : String → Option Term)
    (use : Cursor (LiveRows κ) → Except Error α × Cursor (LiveRows κ)) : GraphAction κ α :=
  selectWith q.text lookup use

end QuadClient
