import QuadClient.Coding.Inline
import QuadClient.Statement.Basic
import QuadClient.Statement.Template

/-!
# Statements for a pattern

What is asked about a pattern becomes a statement: how many triples match, whether any does,
which ones, and that they are to be deleted. Open slots are the variables `?s ?p ?o`, bound
slots stand in the text.
-/

namespace QuadClient

/-- A text and the parameters to bind into it, in order. -/
structure TextWithParams where
  /-- the text -/
  text : String
  /-- the parameters -/
  params : List Param
  deriving DecidableEq

namespace Pattern

/-- The text of a slot: a term, or a variable. -/
def slotText (slot : Option Term) (name : String) : String :=
  match slot with
  | some t => t.inline
  | none => "?" ++ name

/-- The three slots with a blank between them. -/
def text (p : Pattern) : String :=
  slotText p.subject "s" ++ " " ++ slotText p.predicate "p" ++ " " ++ slotText p.object "o"

end Pattern

/-- The graph a pattern is compiled for, and how reads are answered. -/
structure Scope where
  /-- the graph -/
  graph : String
  /-- how reads are answered -/
  options : ReadOptions
  deriving DecidableEq

namespace Scope

/-- Every match in every graph. -/
def selectAnywhere (p : Pattern) : String :=
  "select * where \x7b " ++ p.text ++ " \x7d"

/-- Every match in the scope, the graph named in the text. -/
def select (s : Scope) (p : Pattern) : String :=
  if s.options.everyGraph then selectAnywhere p
  else "select * where \x7b graph <" ++ s.graph ++ "> \x7b " ++ p.text ++ " \x7d \x7d"

/-- The number of matches; the graph is the first parameter. -/
def count (s : Scope) (p : Pattern) : TextWithParams :=
  -- The graph is bound as a parameter here, so its name needs no escape.
  let (body, params) :=
    if s.options.everyGraph then (selectAnywhere p, [])
    else
      ("select * where \x7b " ++ Template.graphScope ++ " \x7b " ++ p.text ++ " \x7d \x7d",
        [.text s.graph])
  { text := ((Statement.ofBody body).add (.storage "")).reading s.options |>.countText
    params := params }

/-- At most one matching row. -/
def any (s : Scope) (p : Pattern) : String :=
  ((Statement.ofBody (s.select p ++ " limit 1")).add (.storage "")).reading s.options |>.text

/-- Every match; the columns are the open slots. -/
def enumerate (s : Scope) (p : Pattern) : String :=
  let body :=
    if s.options.everyGraph then selectAnywhere p
    else "select * from <" ++ s.graph ++ "> where \x7b " ++ p.text ++ " \x7d"
  (Statement.ofBody body).reading s.options |>.text

/-- Deletes every match from the graph. -/
def erase (s : Scope) (p : Pattern) : String :=
  Statement.header ++ "delete from graph <" ++ s.graph ++ "> \x7b " ++ p.text ++
    " \x7d from <" ++ s.graph ++ "> where \x7b " ++ p.text ++ " \x7d"

/-- The statement of a query written by the caller: the graph is the default one, unless every
graph is read. -/
def adhoc (s : Scope) (body : String) : Statement :=
  let statement := (Statement.ofBody body).reading s.options
  if s.options.everyGraph then statement else statement.add (.implicitGraph s.graph)

end Scope

end QuadClient
