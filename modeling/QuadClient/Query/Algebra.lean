import QuadClient.Rdf.Term

/-!
# The algebra of queries

A query is read into patterns over triples. Triple patterns that stand side by side are one
basic pattern; a path, which may lead through many triples, is a pattern of its own. Variables
are named without their mark.
-/

namespace QuadClient.Query

/-- What stands in a slot of a triple pattern. -/
inductive Slot where
  /-- a variable -/
  | var (name : String)
  /-- a term -/
  | term (t : Term)
  deriving DecidableEq

/-- A triple with open slots. -/
structure TriplePattern where
  /-- the subject -/
  subject : Slot
  /-- the predicate -/
  predicate : Slot
  /-- the object -/
  object : Slot
  deriving DecidableEq

/-- How many triples a path leads through. -/
inductive Steps where
  /-- any number -/
  | anyNumber
  /-- one at least -/
  | atLeastOne
  /-- one at most -/
  | atMostOne
  deriving DecidableEq, Repr

/-- An operator between two expressions. -/
inductive Operator where
  /-- at least one holds -/
  | or
  /-- both hold -/
  | and
  /-- the values are equal -/
  | equal
  /-- the first value is less -/
  | less
  /-- the first value is less or equal -/
  | lessOrEqual
  /-- the first value is greater -/
  | greater
  /-- the first value is greater or equal -/
  | greaterOrEqual
  /-- the sum of the values -/
  | add
  /-- the difference of the values -/
  | subtract
  deriving DecidableEq, Repr

/-- An operator in front of an expression. -/
inductive Sign where
  /-- it does not hold -/
  | not
  /-- the value itself -/
  | plus
  /-- the value with the other sign -/
  | minus
  deriving DecidableEq, Repr

/-- An expression. -/
inductive Expression where
  /-- a variable or a term -/
  | slot (s : Slot)
  /-- an operator and its operand -/
  | unary (sign : Sign) (e : Expression)
  /-- an operator and its operands -/
  | binary (op : Operator) (left right : Expression)
  deriving DecidableEq

/-- A pattern over the triples of a graph. -/
inductive GraphPattern where
  /-- triple patterns that all match -/
  | basic (triples : List TriplePattern)
  /-- triples of one property lead from the subject to the object -/
  | path (subject : Slot) (property : Iri) (steps : Steps) (object : Slot)
  /-- both patterns match -/
  | join (left right : GraphPattern)
  /-- the second pattern matches, and the condition holds, if they can -/
  | optional (left right : GraphPattern) (condition : Option Expression)
  /-- one of the patterns matches -/
  | union (left right : GraphPattern)
  /-- the pattern matches and the condition holds -/
  | filter (condition : Expression) (inner : GraphPattern)
  /-- the pattern matches in a named graph -/
  | graph (name : Slot) (inner : GraphPattern)
  deriving DecidableEq

namespace GraphPattern

/-- The pattern that matches without a condition. -/
def empty : GraphPattern := .basic []

/-- Joins two patterns. Basic patterns are put together, and the pattern without a condition adds
nothing. -/
def and (left right : GraphPattern) : GraphPattern :=
  match left, right with
  | .basic [], p => p
  | p, .basic [] => p
  | .basic l, .basic r => .basic (l ++ r)
  | l, r => .join l r

/-- Makes one pattern of basic patterns that follow each other. -/
def merged : List GraphPattern → List GraphPattern
  | [] => []
  | p :: ps =>
    match p, merged ps with
    | .basic l, .basic r :: rest => .basic (l ++ r) :: rest
    | p, rest => p :: rest

/-- Joins patterns from the left, after basic patterns that follow each other were put
together. -/
def all (ps : List GraphPattern) : GraphPattern :=
  (merged ps).foldl and empty

/-- The variables of a slot. -/
def slotNames : Slot → List String
  | .var name => [name]
  | .term _ => []

/-- The variables that a match binds, some more than once. A condition binds none. -/
def names : GraphPattern → List String
  | .basic triples => triples.flatMap fun t =>
    slotNames t.subject ++ slotNames t.predicate ++ slotNames t.object
  | .path subject _ _ object => slotNames subject ++ slotNames object
  | .join l r | .optional l r _ | .union l r => l.names ++ r.names
  | .filter _ p => p.names
  | .graph name p => slotNames name ++ p.names

/-- The variables that a match binds, sorted by name. -/
def sortedNames (p : GraphPattern) : List String :=
  p.names.eraseDups.mergeSort fun a b => decide (a ≤ b)

end GraphPattern

/-- The graphs that a query names. -/
structure Dataset where
  /-- the graphs that make up the unnamed graph -/
  unnamed : List Iri := []
  /-- the named graphs -/
  named : List Iri := []
  deriving DecidableEq

/-- How repeated solutions are treated. -/
inductive Repeats where
  /-- they are kept -/
  | kept
  /-- they go -/
  | removed
  /-- some of them may go -/
  | reduced
  deriving DecidableEq, Repr

/-- A condition of the order of solutions. -/
structure OrderKey where
  /-- the greatest value comes first -/
  descending : Bool := false
  /-- the value -/
  key : Expression
  deriving DecidableEq

/-- What comes after the pattern of a query. -/
structure Modifiers where
  /-- the order of the solutions; none if it is open -/
  order : List OrderKey := []
  /-- the solutions passed over -/
  offset : Nat := 0
  /-- the most solutions that are wanted -/
  limit : Option Nat := none
  deriving DecidableEq

/-- The solutions that a query is about. -/
structure Selection where
  /-- how repeated solutions are treated -/
  repeats : Repeats := .kept
  /-- the variables wanted; none for all of them -/
  wanted : List String := []
  /-- the pattern -/
  pattern : GraphPattern
  /-- order and number of the solutions -/
  modifiers : Modifiers := {}
  deriving DecidableEq

/-- What a query asks for. -/
inductive Form where
  /-- the solutions -/
  | select
  /-- triples made from the solutions -/
  | construct (template : List TriplePattern)
  /-- triples about the terms of the solutions -/
  | describe
  /-- whether there is a solution -/
  | ask
  deriving DecidableEq

/-- The name of a form. -/
def Form.name : Form → String
  | select => "Select"
  | construct _ => "Construct"
  | describe => "Describe"
  | ask => "Ask"

end QuadClient.Query

namespace QuadClient

/-- A query. -/
structure Query where
  /-- what it asks for -/
  form : Query.Form
  /-- the graphs it names, if it names any -/
  dataset : Option Query.Dataset := none
  /-- the solutions it is about -/
  selection : Query.Selection
  deriving DecidableEq

end QuadClient
