import QuadClient.Query.Value

/-!
# Triples in queries

Triples with one subject are set apart by semicolons, objects of one subject and predicate by
commas. What stands between a subject and an object says what is made of the two: a triple in a
template, a triple or a path in a pattern. Both are read alike but for that.
-/

namespace QuadClient.Query

open Reader

section

variable {α : Type} (verb : Reader (Slot → Slot → α))

/-- Reads a predicate and its objects. -/
def property (subject : Slot) : Reader (List α) := do
  let make ← spaced verb
  let objects ← separated (spaced node) (sign ",")
  return objects.map (make subject)

/-- Reads a subject, its predicates and their objects. -/
def sentence : Reader (List α) := do
  let subject ← spaced node
  let first ← property verb subject
  let more ← many do
    sign ";"
    return (← may (property verb subject)).getD []
  return first ++ more.flatten

/-- Reads sentences with points between them. -/
def sentences : Reader (List α) := do
  return (← separated (sentence verb) (sign ".")).flatten

/-- Reads sentences with a point behind the last one or not, if there are any. -/
def block : Reader (List α) :=
  (do
    let found ← sentences verb
    let _ ← may (sign ".")
    return found) <|>
  return []

end

/-- Reads a property: an IRI or the short name of the type. -/
def propertyName : Reader Iri :=
  iri <|> (do mark "a"; return .rdfType)

/-- Reads the predicate of a triple. -/
def predicate : Reader Slot :=
  (.term ∘ .iri) <$> propertyName <|> .var <$> variableName

/-- Reads what links the subject and the object of a triple. -/
def tripleVerb : Reader (Slot → Slot → TriplePattern) := do
  let p ← predicate
  return (⟨·, p, ·⟩)

/-- Reads the mark of a path. A question mark in front of a name begins a variable. -/
def steps : Reader Steps :=
  (do mark "*"; return .anyNumber) <|> (do mark "+"; return .atLeastOne) <|>
  (do
    mark "?"
    if (← get).rest.head?.any isLabelStart then failure
    return .atMostOne)

/-- Reads what links the subject and the object of a pattern. The sign of a number behind a
property is the mark of a path. -/
def patternVerb : Reader (Slot → Slot → GraphPattern) :=
  (do
    let p ← spaced propertyName
    let s ← steps
    return (.path · p s ·)) <|>
  (do
    let make ← tripleVerb
    return fun subject object => .basic [make subject object])

/-- Reads the triples and the paths of a pattern, if there are any. -/
def links : Reader GraphPattern :=
  GraphPattern.all <$> block patternVerb

/-- Reads the template of triples, in braces. A point may stand alone. -/
def template : Reader (List TriplePattern) := do
  sign "\x7b"
  let found ← sentences tripleVerb <|> return []
  let _ ← may (sign ".")
  sign "\x7d"
  return found

/-- Reads triples in braces that are a template and a pattern at once. -/
def tripleGroup : Reader (List TriplePattern) := do
  sign "\x7b"
  let found ← block tripleVerb
  sign "\x7d"
  return found

end QuadClient.Query
