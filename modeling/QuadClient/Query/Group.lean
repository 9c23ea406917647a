import QuadClient.Query.Condition
import QuadClient.Query.Triples

/-!
# Groups in queries

A group holds triples and further patterns. The conditions of a group apply to all of it,
wherever they stand.
-/

namespace QuadClient.Query

open Reader

/-- What stands in a group besides triples. -/
inductive Part where
  /-- a pattern that matches too -/
  | more (p : GraphPattern)
  /-- a pattern that matches if it can -/
  | optional (p : GraphPattern)
  /-- a condition of the group -/
  | condition (e : Expression)

/-- A group as far as it was read. -/
structure Group where
  /-- the pattern -/
  pattern : GraphPattern := .empty
  /-- the conditions -/
  condition : Option Expression := none

namespace Group

/-- Puts a part into a group. The condition of an optional group says when it is matched. -/
def add (g : Group) : Part → Group
  | .more p => { g with pattern := g.pattern.and p }
  -- The condition may speak of variables of both sides.
  | .optional (.filter e p) => { g with pattern := .optional g.pattern p (some e) }
  | .optional p => { g with pattern := .optional g.pattern p none }
  | .condition e =>
    { g with condition := some (match g.condition with
      | some d => .binary .and d e
      | none => e) }

/-- The pattern of a group that was read to the end. -/
def whole (g : Group) : GraphPattern :=
  match g.condition with
  | some e => .filter e g.pattern
  | none => g.pattern

end Group

/-- Reads a part of a group, given the reader of groups in it. -/
def part (inner : Reader GraphPattern) : Reader Part :=
  (do return .more (← chain inner (word "UNION") .union)) <|>
  (do word "OPTIONAL"; return .optional (← inner)) <|>
  (do
    word "GRAPH"
    let graph ← spaced name
    return .more (.graph graph (← inner))) <|>
  (do word "FILTER"; return .condition (← spaced (bracketed expression)))

/-- Reads a group, given the reader of groups in it. -/
def groupOf (inner : Reader GraphPattern) : Reader GraphPattern := do
  sign "\x7b"
  -- Labels in front of the brace, inside, and behind it belong to different groups.
  closeLabels
  let first ← links
  let parts ← many do
    let p ← part inner
    let _ ← may (sign ".")
    -- Triples after a part are joined to the group like a part of their own.
    return [p, .more (← links)]
  closeLabels
  sign "\x7d"
  return (parts.flatten.foldl Group.add { pattern := first }).whole

/-- Reads a group. -/
def group : Reader GraphPattern :=
  nested groupOf

end QuadClient.Query
