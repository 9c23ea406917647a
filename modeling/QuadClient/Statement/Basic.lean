import QuadClient.Settings.Basic

/-!
# Statements

A statement is a header line, a block of directives with one line each, and a body. The
directives stand in a fixed order whatever the order they were added in; directives of the
same rank keep the order of their addition.
-/

namespace QuadClient

/-- One line of the block. -/
inductive Directive where
  /-- the storage to read from -/
  | storage (name : String)
  /-- the rule set whose inferences are added -/
  | inference (ruleSet : String)
  /-- nodes stated to be the same are taken together -/
  | sameAs
  /-- the graph that is read where no other is named -/
  | implicitGraph (graph : String)
  deriving DecidableEq, Repr

namespace Directive

/-- The place of a directive in the block. -/
def rank : Directive → Nat
  | storage _ => 0
  | inference _ => 1
  | sameAs => 2
  | implicitGraph _ => 3

/-- The line of a directive. -/
def text : Directive → String
  | storage name => "define input:storage \"" ++ name ++ "\""
  | inference rules => "define input:inference '" ++ rules ++ "'"
  | sameAs => "define input:same-as \"yes\""
  | implicitGraph graph => "define input:default-graph-uri <" ++ graph ++ ">"

/-- Puts a directive in front of the first one of a higher rank. -/
def insert (d : Directive) : List Directive → List Directive
  | [] => [d]
  -- Directives of the same rank stay in front, so they keep their order.
  | e :: es => if d.rank < e.rank then d :: e :: es else e :: insert d es

end Directive

/-- A statement under construction. -/
structure Statement where
  /-- the directives, in the order of their lines -/
  directives : List Directive := []
  /-- what follows the directives -/
  body : String
  deriving DecidableEq, Repr

namespace Statement

/-- The line every statement starts with. -/
def header : String := "sparql\n"

/-- What stands in front of a statement whose rows are counted. -/
def countOpening : String := "select count(*) from ("

/-- What stands behind a statement whose rows are counted. -/
def countClosing : String := ")f"

/-- The statement with this body and no directives. -/
def ofBody (body : String) : Statement := ⟨[], body⟩

/-- Adds a directive. -/
def add (s : Statement) (d : Directive) : Statement :=
  { s with directives := d.insert s.directives }

/-- Adds the directives that a handle's options ask for. -/
def reading (s : Statement) (o : ReadOptions) : Statement :=
  let s :=
    match o.ruleSet with
    | some rules => s.add (.inference rules)
    | none => s
  if o.sameAs then s.add .sameAs else s

/-- The lines of the directives. -/
def block (ds : List Directive) : String :=
  ds.foldr (fun d rest => d.text ++ "\n" ++ rest) ""

/-- The text sent to the store. -/
def text (s : Statement) : String :=
  header ++ block s.directives ++ s.body

/-- The text that asks for the number of rows. -/
def countText (s : Statement) : String :=
  countOpening ++ s.text ++ countClosing

end Statement

end QuadClient
