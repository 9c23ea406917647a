import QuadClient.Query.Algebra
import QuadClient.Text.Decimal

/-!
# The canonical text of a query

Keywords are in capitals, prefixes are written out, and operators stand in parentheses with
their operands, sums and differences apart.
-/

namespace QuadClient.Query

/-- A character of a literal. -/
def escapedChar (c : Char) : List Char :=
  match c with
  | '\x08' => ['\\', 'b']
  | '\t' => ['\\', 't']
  | '\n' => ['\\', 'n']
  | '\x0c' => ['\\', 'f']
  | '\r' => ['\\', 'r']
  | '"' => ['\\', '"']
  | '\\' => ['\\', '\\']
  | c =>
    if c.toNat < 0x20 || c.toNat = 0x7F then
      let digits := (Nat.toDigits 16 c.toNat).map Char.toUpper
      '\\' :: 'u' :: List.replicate (4 - digits.length) '0' ++ digits
    else [c]

/-- A text between double quotes. -/
def quoted (s : String) : String :=
  String.ofList ('"' :: s.toList.flatMap escapedChar ++ ['"'])

/-- A literal. -/
def literalText : Literal → String
  | .plain v => quoted v
  | .tagged v tag => quoted v ++ "@" ++ tag.text
  | .typed v dt _ => quoted v ++ "^^" ++ dt.display

/-- A slot. -/
def Slot.text : Slot → String
  | .var name => "?" ++ name
  | .term (.iri i) => i.display
  | .term (.blank b) => b.display
  | .term (.literal l) => literalText l

/-- A triple pattern. -/
def TriplePattern.text (t : TriplePattern) : String :=
  t.subject.text ++ " " ++ t.predicate.text ++ " " ++ t.object.text

/-- An operator between two expressions. -/
def Operator.text : Operator → String
  | or => "||"
  | and => "&&"
  | equal => "="
  | less => "<"
  | lessOrEqual => "<="
  | greater => ">"
  | greaterOrEqual => ">="
  | add => "+"
  | subtract => "-"

/-- The operator and its operands stand in parentheses. -/
def Operator.isEnclosed : Operator → Bool
  | add | subtract => false
  | _ => true

/-- An operator in front of an expression. -/
def Sign.text : Sign → String
  | not => "!"
  | plus => "+"
  | minus => "-"

/-- An expression. -/
def Expression.text : Expression → String
  | slot s => s.text
  | unary sign e => sign.text ++ e.text
  | binary op l r =>
    let inner := l.text ++ " " ++ op.text ++ " " ++ r.text
    if op.isEnclosed then "(" ++ inner ++ ")" else inner

/-- The mark of a path behind its property. -/
def Steps.text : Steps → String
  | anyNumber => "*"
  | atLeastOne => "+"
  | atMostOne => "?"

/-- A text in braces. -/
def braced (s : String) : String :=
  "\x7b " ++ s ++ " \x7d"

/-- A condition. -/
def condition (e : Expression) : String :=
  " FILTER(" ++ e.text ++ ")"

namespace GraphPattern

/-- The text of the pattern would belong to a pattern in front of it. -/
def isModifier : GraphPattern → Bool
  | optional .. | filter .. => true
  | _ => false

/-- A pattern. -/
def text : GraphPattern → String
  | basic triples => String.join (triples.map fun t => t.text ++ " .")
  | path subject property steps object =>
    subject.text ++ " (" ++ property.display ++ ")" ++ steps.text ++ " " ++ object.text ++ " ."
  -- Without braces the text of the second pattern would apply to the first one.
  | join l r => l.text ++ " " ++ (if r.isModifier then braced r.text else r.text)
  | optional l r none => l.text ++ " OPTIONAL " ++ braced r.text
  | optional l r (some e) => l.text ++ " OPTIONAL " ++ braced (r.text ++ condition e)
  | union l r => braced l.text ++ " UNION " ++ braced r.text
  | filter e p => p.text ++ condition e
  | graph name p => "GRAPH " ++ name.text ++ " " ++ braced p.text

end GraphPattern

/-- The graphs that a query names. -/
def Dataset.text (d : Dataset) : String :=
  String.join (d.unnamed.map fun i => " FROM " ++ i.display) ++
    String.join (d.named.map fun i => " FROM NAMED " ++ i.display)

/-- A condition of the order. -/
def OrderKey.text (k : OrderKey) : String :=
  (if k.descending then " DESC(" else " ASC(") ++ k.key.text ++ ")"

/-- Order and number of the solutions. -/
def Modifiers.text (m : Modifiers) : String :=
  (if m.order.isEmpty then "" else " ORDER BY" ++ String.join (m.order.map (·.text))) ++
    (if m.offset = 0 then "" else " OFFSET " ++ Text.integer m.offset) ++
    match m.limit with
    | some n => " LIMIT " ++ Text.integer n
    | none => ""

/-- How repeated solutions are treated. -/
def Repeats.text : Repeats → String
  | kept => ""
  | removed => " DISTINCT"
  | reduced => " REDUCED"

/-- A selection. The graphs are set off by a blank. -/
def Selection.text (s : Selection) (dataset : Option Dataset) : String :=
  let wanted :=
    if s.wanted.isEmpty then " *" else String.join (s.wanted.map fun name => " ?" ++ name)
  let graphs :=
    match dataset with
    | some d => " " ++ d.text
    | none => ""
  "SELECT" ++ s.repeats.text ++ wanted ++ graphs ++ " WHERE " ++ braced s.pattern.text ++
    s.modifiers.text

/-- The beginning of the text of a query that asks for no solutions. -/
def Form.opening : Form → String
  | select => ""
  | construct template =>
    "CONSTRUCT \x7b " ++ String.join (template.map fun t => t.text ++ " . ") ++ "\x7d"
  | describe => "DESCRIBE *"
  | ask => "ASK"

end Query

namespace Query

/-- The canonical text. -/
def text (q : Query) : String :=
  match q.form with
  | .select => q.selection.text q.dataset
  | form =>
    form.opening ++ ((q.dataset.map (·.text)).getD "") ++ " WHERE " ++
      braced (q.selection.text none)

end QuadClient.Query
