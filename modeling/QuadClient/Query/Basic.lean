import QuadClient.Query.Group
import QuadClient.Query.Printer

/-!
# Queries

A query is accepted if all of its text can be read. What is sent is its canonical text.
-/

namespace QuadClient.Query

open Reader

/-- Reads the declaration of a prefix. A later declaration hides an earlier one. -/
def declaration : Reader Unit := do
  word "PREFIX"
  let short ← spaced namePrefix
  let long ← spaced iriRef
  modify fun r => { r with prefixes := (short, long.text) :: r.prefixes }

/-- Reads the graphs that a query names. -/
def graphs : Reader (Option Dataset) := do
  let found ← many do
    word "FROM"
    let unnamed : Reader Dataset := return { unnamed := [← spaced iri] }
    let named : Reader Dataset := do
      word "NAMED"
      return { named := [← spaced iri] }
    unnamed <|> named
  if found.isEmpty then return none
  return some ⟨found.flatMap (·.unnamed), found.flatMap (·.named)⟩

/-- Reads the pattern of a query. -/
def body : Reader GraphPattern := do
  let _ ← may (word "WHERE")
  group

/-- Reads a condition of the order. -/
def orderKey : Reader OrderKey :=
  (do word "ASC"; return { key := ← spaced (bracketed expression) }) <|>
  (do word "DESC"; return { descending := true, key := ← spaced (bracketed expression) }) <|>
  (do return { key := ← spaced (bracketed expression) }) <|>
  (do return { key := .slot (.var (← spaced variableName)) })

/-- Reads a number of solutions after a keyword. Numbers from `2 ^ 64` on are refused. -/
def amount (keyword : String) : Reader Nat := do
  word keyword
  let digits ← spaced (atLeastOnce digit)
  let n := digits.foldl (fun n c => 10 * n + (c.toNat - 48)) 0
  if n < UInt64.size then return n else failure

/-- Reads the offset and the limit, in any order. -/
def extent : Reader (Nat × Option Nat) :=
  (do
    let limit ← amount "LIMIT"
    return ((← may (amount "OFFSET")).getD 0, some limit)) <|>
  (do
    let offset ← amount "OFFSET"
    return (offset, ← may (amount "LIMIT"))) <|>
  return (0, none)

/-- Reads what comes after the pattern of a query. -/
def modifiers : Reader Modifiers := do
  let ordered : Reader (List OrderKey) := do
    word "ORDER"
    word "BY"
    atLeastOnce orderKey
  let order ← ordered <|> return []
  let (offset, limit) ← extent
  return { order, offset, limit }

/-- Reads a query that asks for solutions. No variable may be asked for twice. -/
def selectForm : Reader Query := do
  word "SELECT"
  let repeats ← (do word "DISTINCT"; return .removed) <|> (do word "REDUCED"; return .reduced) <|>
    return Repeats.kept
  let named ← (do sign "*"; return none) <|> some <$> atLeastOnce (spaced variableName)
  let dataset ← graphs
  let pattern ← body
  let modifiers ← modifiers
  -- A star asks for every variable of the pattern.
  let wanted := named.getD pattern.sortedNames
  if !wanted.Nodup then failure
  return { form := .select, dataset, selection := { repeats, wanted, pattern, modifiers } }

/-- Reads a query that asks whether there is a solution. -/
def askForm : Reader Query := do
  word "ASK"
  let dataset ← graphs
  let pattern ← body
  return { form := .ask, dataset, selection := { pattern, modifiers := ← modifiers } }

/-- Reads a query that asks for triples. Without a template the triples of the pattern are
asked for, and the pattern holds nothing else. -/
def constructForm : Reader Query :=
  (do
    word "CONSTRUCT"
    let template ← template
    let dataset ← graphs
    let pattern ← body
    return {
      form := .construct template, dataset
      selection := { pattern, modifiers := ← modifiers } }) <|>
  (do
    word "CONSTRUCT"
    let dataset ← graphs
    word "WHERE"
    let template ← tripleGroup
    return {
      form := .construct template, dataset
      selection := { pattern := .basic template, modifiers := ← modifiers } })

/-- Reads a query that asks for triples about terms. The pattern may be left out. -/
def describeForm : Reader Query := do
  word "DESCRIBE"
  let wanted ← (do sign "*"; return []) <|> atLeastOnce (spaced variableName)
  let dataset ← graphs
  let pattern := (← may body).getD .empty
  let modifiers ← modifiers
  if !wanted.Nodup then failure
  return { form := .describe, dataset, selection := { wanted, pattern, modifiers } }

/-- Reads a query to the end of its text. -/
def whole : Reader Query := do
  gap
  let _ ← many declaration
  let q ← selectForm <|> constructForm <|> describeForm <|> askForm
  finish
  return q

/-- The query that a text writes. -/
def parse? (text : String) : Option Query :=
  (whole.run { rest := text.toList }).map Prod.fst

end QuadClient.Query
