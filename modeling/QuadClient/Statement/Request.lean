import QuadClient.Coding.Inline
import QuadClient.Connection.Error
import QuadClient.Statement.Basic
import QuadClient.Statement.Template
import QuadClient.Text.Blank
import QuadClient.Text.Lines
import QuadClient.Text.Search

/-!
# Reading statements

The in-process store reads back the statements that patterns are compiled to, and the
templates. A statement of any other form is the request `other`.
-/

namespace QuadClient

open QuadClient.Text

/-- What a statement asks for. -/
inductive Request where
  /-- the template that inserts a triple -/
  | insert
  /-- the template that deletes a triple -/
  | delete
  /-- the template that clears a graph -/
  | clear
  /-- the number of matches, in one graph or in all -/
  | count (graph : Option String) (pattern : Pattern)
  /-- the matches, in one graph or in all; at most `limit` of them -/
  | select (graph : Option String) (pattern : Pattern) (limit : Option Nat)
  /-- the deletion of the matches in a graph -/
  | erase (graph : String) (pattern : Pattern)
  /-- anything else -/
  | other
  deriving DecidableEq

namespace Request

/-- The inside of a quoted literal and what follows its closing quote. -/
def quoted? : List Char → Option (List Char × List Char)
  | [] => none
  -- A backslash is special in front of a quote only.
  | '\\' :: '\'' :: r => (quoted? r).map fun (v, rest) => ('\'' :: v, rest)
  | '\'' :: r => some ([], r)
  | c :: r => (quoted? r).map fun (v, rest) => (c :: v, rest)

/-- A literal whose quoted part was read: a language, a datatype or neither may follow. -/
def literal? (value : String) (s : List Char) : Option (Term × List Char) :=
  match s with
  | '@' :: r =>
    let (tag, rest) := splitAtBlank r
    (Term.ofTagged value (String.ofList tag)).toOption.map (·, rest)
  | '^' :: '^' :: '<' :: r => do
    let (datatype, rest) ← cutAt? '>' r
    (Term.ofTyped value (String.ofList datatype)).toOption.map (·, rest)
  | s => some (.literal (.plain value), s)

/-- One slot of a pattern and what follows it. -/
def slot? (s : List Char) : Option (Option Term × List Char) :=
  match trimStart s with
  | '?' :: r => some (none, (splitAtBlank r).2)
  | '<' :: r => do
    let (node, rest) ← cutAt? '>' r
    (Term.ofNodeText (String.ofList node)).toOption.map (some ·, rest)
  | '\'' :: r => do
    let (value, rest) ← quoted? r
    (literal? (String.ofList value) rest).map fun (t, rest) => (some t, rest)
  | _ => none

/-- Three slots; what follows the third one is not looked at. -/
def pattern? (s : List Char) : Option Pattern := do
  let (subject, s) ← slot? s
  let (predicate, s) ← slot? s
  let (object, _) ← slot? s
  return ⟨subject, predicate, object⟩

/-- Whether a line is one of the block of directives. -/
def isDirective (line : List Char) : Bool :=
  "define ".toList.isPrefixOf (trimStart line)

/-- The body of a statement: its lines without the directives, joined by blanks. -/
def body (s : List Char) : List Char :=
  trim ([' '].intercalate ((lines s).filter fun line => !isDirective line))

/-- The text of a parameter, counted from zero. -/
def textParam (params : List Param) (index : Nat) : Except CallError String :=
  match params[index]?.bind Param.text? with
  | some s => .ok s
  | none =>
    .error (.bind ("parameter " ++ Text.integer (index + 1) ++ " is not bound to a string"))

/-- A deletion of matches; `s` follows the opening of the statement up to the graph. -/
def deletion (s : List Char) : Request :=
  match cutAt? '>' s with
  | none => .other
  | some (graph, _) =>
    match (afterFirst? "where \x7b".toList s).bind pattern? with
    | some p => .erase (String.ofList graph) p
    | none => .other

/-- The scope of a selection, a graph or all of them, and the text of its pattern. -/
def scope? (params : List Param) (body : List Char) :
    Except CallError (Option (Option String × List Char)) :=
  let parameterOpening := ("select * where \x7b " ++ Template.graphScope ++ " \x7b").toList
  -- The forms share their first words, so the more special ones come first.
  match parameterOpening.isPrefixOf? body with
  | some r => (textParam params 0).map fun graph => some (some graph, r)
  | none =>
    match "select * where \x7b graph <".toList.isPrefixOf? body with
    | some r => .ok <| do
      let (graph, r) ← cutAt? '>' r
      let r ← ['\x7b'].isPrefixOf? (trimStart r)
      return (some (String.ofList graph), r)
    | none =>
      match "select * from <".toList.isPrefixOf? body with
      | some r => .ok <| do
        let (graph, r) ← cutAt? '>' r
        let r ← "where \x7b".toList.isPrefixOf? (trimStart r)
        return (some (String.ofList graph), r)
      | none => .ok <| do
        let r ← "select * where \x7b".toList.isPrefixOf? body
        return (none, r)

/-- The body of a selection. -/
def selection (counting : Bool) (params : List Param) (body : List Char) :
    Except CallError Request := do
  match ← scope? params body with
  | none => return .other
  | some (graph, r) =>
    match pattern? r with
    | none => return .other
    | some p =>
      if counting then return .count graph p
      else
        let limit := if "limit 1".toList.isSuffixOf body then some 1 else none
        return .select graph p limit

/-- The statement inside the text of a count; the text itself if it is no count. -/
def counted (s : List Char) : Bool × List Char :=
  match (Statement.countOpening.toList.isPrefixOf? s).bind
      (Statement.countClosing.toList.isSuffixOf? ·) with
  | some inner => (true, inner)
  | none => (false, s)

/-- What a text asks for. It fails only where the text needs a parameter that is missing. -/
def ofText (text : String) (params : List Param) : Except CallError Request :=
  if text = Template.insert then .ok .insert
  else if text = Template.delete then .ok .delete
  else if text = Template.clear then .ok .clear
  else
    let (counting, inner) := counted text.toList
    match Statement.header.toList.isPrefixOf? inner with
    | none => .ok .other
    | some lines =>
      let body := body lines
      match "delete from graph <".toList.isPrefixOf? body with
      | some r => .ok (deletion r)
      | none => selection counting params body

end Request

end QuadClient
