import QuadClient.Calendar.Timestamp
import QuadClient.Coding.Slots
import QuadClient.Decimal.Shortest

/-!
# Cells of a result row

A store answers with rows of cells, a closed set of scalar kinds. Each kind has one rule that
turns it into a term; some cells stand for no term. A term has a cell too, which the
in-process store answers with.
-/

namespace QuadClient

/-- What a store says about an extended text. -/
inductive TextKind where
  /-- a text like any other -/
  | ordinary
  /-- an IRI, or a marked label, if the flag says so as well -/
  | iri
  /-- the store's own identifier of a blank node -/
  | blank
  deriving DecidableEq, Repr

/-- The name of the kind. -/
def TextKind.name : TextKind → String
  | ordinary => "none"
  | iri => "iri"
  | blank => "bnode"

/-- The kind of this name. -/
def TextKind.ofName? (name : String) : Option TextKind :=
  [ordinary, iri, blank].find? (·.name == name)

/-- One value of a result row. -/
inductive Cell where
  /-- no value -/
  | null
  /-- a text -/
  | text (s : String)
  /-- a whole number of any width -/
  | integer (n : Int)
  /-- the word of a binary number of 32 bits -/
  | single (bits : UInt32)
  /-- the word of a binary number of 64 bits -/
  | double (bits : UInt64)
  /-- a fixed-point number in its lexical form -/
  | decimal (s : String)
  /-- a day -/
  | date (d : Date)
  /-- a time of day -/
  | time (t : Time)
  /-- a date with a time of day -/
  | timestamp (ts : Timestamp)
  /-- bytes -/
  | binary (bytes : List UInt8)
  /-- a text with what the store knows about it -/
  | extended (value : String) (kind : TextKind) (flags : UInt8)
  /-- a lexical form with a language, or with a datatype -/
  | boxed (value : String) (language datatype : Option String)
  /-- a value of a type without a rule, and the name of that type -/
  | unsupported (typeName : String)
  deriving DecidableEq

namespace Cell

/-- The names of the special numbers in text for people. -/
def displayNames : Decimal.SpecialNames := ⟨"NaN", "inf"⟩

/-- The names of the special numbers in lexical forms. -/
def lexicalNames : Decimal.SpecialNames := ⟨"NaN", "INF"⟩

/-- The number of a cell that holds a whole number. -/
def integer? : Cell → Option Int
  | integer n => some n
  | _ => none

/-- The name of the kind. -/
def kindWord : Cell → String
  | null => "null"
  | text _ => "string"
  | integer _ => "integer"
  | single _ => "float"
  | double _ => "double"
  | decimal _ => "decimal"
  | date _ => "date"
  | time _ => "time"
  | timestamp _ => "timestamp"
  | binary _ => "binary"
  | extended .. => "ext"
  | boxed .. => "box"
  | unsupported _ => "unsupported"

/-- The form for people. -/
def display : Cell → String
  | null => "NULL"
  | text s => s
  | integer n => Text.integer n
  | single bits => Decimal.single.text displayNames bits.toNat
  | double bits => Decimal.double.text displayNames bits.toNat
  | decimal s => s
  | date d => d.display
  | time t => t.display
  | timestamp ts => ts.display
  | binary bytes => Text.hexUpper bytes
  | extended value _ _ => value
  | boxed value _ _ => value
  | unsupported name => "<" ++ name ++ ">"

/-- The mark of the store's own blank node identifiers. -/
def nodeMark : String := "nodeID://"

/-- The flag of an extended text that is an IRI. -/
def flaggedIri : UInt8 := 1

/-- The term of an extended text. -/
def extendedTerm (value : String) (kind : TextKind) (flags : UInt8) : Except TermError Term :=
  match kind with
  | .iri =>
    -- The kind alone does not make it an IRI: the flag has to agree.
    if flags &&& flaggedIri = flaggedIri then Term.ofNodeText value
    else .ok (.literal (.plain value))
  | .blank =>
    match nodeMark.toList.isPrefixOf? value.toList with
    -- The mark of the store is no part of the label.
    | some label => Term.ofLabel (String.ofList label)
    | none => Term.ofLabel value
  | .ordinary => .ok (.literal (.plain value))

/-- The term of a lexical form with a language or a datatype; the language wins. A datatype
that is no IRI is a name in the schema namespace. -/
def boxedTerm (value : String) (language datatype : Option String) : Except TermError Term :=
  match language, datatype with
  | some tag, _ => Term.ofTagged value tag
  | none, some dt =>
    if Iri.isAbsolute dt then Term.ofTyped value dt
    else Term.ofTyped value (Iri.schemaNamespace ++ dt)
  | none, none => .ok (.literal (.plain value))

/-- A literal of a schema datatype. -/
def schemaLiteral (lexical : String) (datatype : Iri) : Term :=
  .literal (.ofTyped lexical datatype)

/-- The term a cell stands for; none for no value, for a type without a rule, and for metadata
that cannot be read. -/
def term? : Cell → Option Term
  | null => none
  -- A text that reads as an absolute IRI is taken for one.
  | text s =>
    match Iri.parse s with
    | .ok i => some (.iri i)
    | .error _ => some (.literal (.plain s))
  | integer n => some (schemaLiteral (Text.integer n) .xsdInteger)
  | single bits =>
    some (schemaLiteral (Decimal.single.text lexicalNames bits.toNat) .xsdFloat)
  | double bits =>
    some (schemaLiteral (Decimal.double.text lexicalNames bits.toNat) .xsdDouble)
  | decimal s => some (schemaLiteral s .xsdDecimal)
  | date d => some (schemaLiteral d.display .xsdDate)
  | time t => some (schemaLiteral t.display .xsdTime)
  | timestamp ts => some (schemaLiteral ts.lexical .xsdDateTime)
  | binary bytes => some (schemaLiteral (Text.hexUpper bytes) .xsdHexBinary)
  -- Metadata that cannot be read leaves the cell without a term.
  | extended value kind flags => (extendedTerm value kind flags).toOption
  | boxed value language datatype => (boxedTerm value language datatype).toOption
  | unsupported _ => none

/-- The cell a store answers with for a term. -/
def ofTerm : Term → Cell
  | .iri i => .extended i.text .iri flaggedIri
  | .blank b => .extended (blankMark ++ b.text) .iri flaggedIri
  | .literal l =>
    match l.language?, l.shownDatatype? with
    | some tag, _ => .boxed l.value (some tag.text) none
    | none, some dt => .boxed l.value none (some dt.text)
    | none, none => .boxed l.value none none

end Cell

end QuadClient
