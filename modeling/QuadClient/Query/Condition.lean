import QuadClient.Query.Value

/-!
# Expressions in queries

Disjunctions hold conjunctions, conjunctions hold comparisons, and a comparison stands between
two sums. A comparison is not compared again.
-/

namespace QuadClient.Query

open Reader

/-- Reads what stands in parentheses. -/
def bracketed {α : Type} (p : Reader α) : Reader α := do
  sign "("
  let a ← spaced p
  mark ")"
  return a

/-- Reads an operand: a value, or an expression in parentheses. One sign may stand in front. -/
def operand (inner : Reader Expression) : Reader Expression := do
  let signs : Reader Sign :=
    (do mark "!"; return .not) <|> (do mark "+"; return .plus) <|> (do mark "-"; return .minus)
  -- A second sign needs parentheses.
  let front ← may signs
  gap
  let e ← bracketed inner <|> .slot <$> atom
  return match front with
    | some sign => .unary sign e
    | none => e

/-- Reads the sign of a sum. -/
def sumSign : Reader Operator :=
  (do mark "+"; return .add) <|> (do mark "-"; return .subtract)

/-- Combines operands from the right. -/
def ofOperands (first : Expression) : List (Operator × Expression) → Expression
  | [] => first
  | (op, e) :: more => .binary op first (ofOperands e more)

/-- Reads an operand, or a sum or difference of some. -/
def sum (inner : Reader Expression) : Reader Expression := do
  let first ← spaced (operand inner)
  let more ← many do
    let op ← spaced sumSign
    return (op, ← spaced (operand inner))
  return ofOperands first more

/-- Reads the sign of a comparison: how the expression is made of its operands. -/
def comparison : Reader (Expression → Expression → Expression) :=
  (do mark "="; return .binary .equal) <|>
  (do mark "!="; return fun a b => .unary .not (.binary .equal a b)) <|>
  (do mark ">="; return .binary .greaterOrEqual) <|>
  (do mark ">"; return .binary .greater) <|>
  (do mark "<="; return .binary .lessOrEqual) <|>
  (do mark "<"; return .binary .less)

/-- Reads a sum, or a comparison of two. -/
def compared (inner : Reader Expression) : Reader Expression := do
  let a ← sum inner
  let against : Reader Expression := do
    let make ← spaced comparison
    return make a (← sum inner)
  against <|> return a

/-- Reads an expression, given the reader of what stands in parentheses. -/
def disjunction (inner : Reader Expression) : Reader Expression :=
  let conjunction := chain (compared inner) (sign "&&") (.binary .and)
  chain conjunction (sign "||") (.binary .or)

/-- Reads an expression. -/
def expression : Reader Expression :=
  nested disjunction

end QuadClient.Query
