import QuadClient.Coding.Param
import QuadClient.Rdf.TermError
import QuadClient.Rdf.Triple

/-!
# Terms in slots

A subject or predicate takes one text slot; an object takes three: its kind, its text, and a
datatype or a language. Reading the slots of an object gives the object back.
-/

namespace QuadClient

/-- A slot of a triple. -/
inductive Position where
  /-- what the triple is about -/
  | subject
  /-- the property -/
  | predicate
  /-- the value of the property -/
  | object
  deriving DecidableEq, Repr

/-- The name of a position in messages. -/
def Position.name : Position → String
  | subject => "subject"
  | predicate => "predicate"
  | object => "object"

/-- A term in a position that cannot hold it. -/
structure Misplaced where
  /-- the position -/
  position : Position
  /-- the term -/
  term : Term
  deriving DecidableEq

/-- The wording of the error. -/
def Misplaced.message (m : Misplaced) : String :=
  "Unsupported term in " ++ m.position.name ++ " position: " ++ m.term.kindWord ++ " " ++
    m.term.display

/-- The three slots of an object. -/
structure ObjectCode where
  /-- what the other slots hold -/
  kind : SlotKind
  /-- the IRI, the marked label or the lexical form -/
  value : String
  /-- the datatype or the language -/
  extra : Option String
  deriving DecidableEq

/-- A triple as the insert and delete templates take it. -/
structure TripleCode where
  /-- the slot of the subject -/
  subject : String
  /-- the slot of the predicate -/
  predicate : String
  /-- the slots of the object -/
  object : ObjectCode
  deriving DecidableEq

/-- The mark of a blank node label in a slot that may also hold an IRI. -/
def blankMark : String := "_:"

namespace Term

/-- The slot of a subject or predicate: subjects are named or blank nodes, predicates are
named nodes. -/
def nodeText (t : Term) (position : Position) : Except Misplaced String :=
  match t, position with
  | .iri i, _ => .ok i.text
  -- A predicate is a named node; a literal is no node at all.
  | .blank b, .subject | .blank b, .object => .ok (blankMark ++ b.text)
  | t, position => .error ⟨position, t⟩

/-- The slots of an object. -/
def objectCode : Term → ObjectCode
  | .iri i => ⟨.node, i.text, none⟩
  | .blank b => ⟨.node, blankMark ++ b.text, none⟩
  | .literal l =>
    match l.language?, l.shownDatatype? with
    | some tag, _ => ⟨.tagged, l.value, some tag.text⟩
    | none, some dt => ⟨.typed, l.value, some dt.text⟩
    | none, none => ⟨.plain, l.value, none⟩

/-- Reads the slot of a node: a marked label, or an IRI. -/
def ofNodeText (text : String) : Except TermError Term :=
  match text.toList with
  | '_' :: ':' :: label => ofLabel (String.ofList label)
  | _ => ofIri text

/-- Reads the three slots of an object. -/
def ofSlots (code : Int) (value : String) (extra : Option String) : Except TermError Term :=
  match SlotKind.ofCode? code with
  | none => .error (.slotKind code)
  | some kind =>
    match kind, extra with
    | .node, _ => ofNodeText value
    | .plain, _ => .ok (.literal (.plain value))
    | .typed, some dt => ofTyped value dt
    | .tagged, some tag => ofTagged value tag
    | kind, none => .error (.emptySlot kind)

end Term

/-- The three parameters of an object. -/
def ObjectCode.params (o : ObjectCode) : List Param :=
  [.int o.kind.code, .text o.value, .ofText? o.extra]

/-- Codes a triple, or names its first misplaced term. -/
def Triple.encode (t : Triple) : Except Misplaced TripleCode := do
  return {
    subject := ← t.subject.nodeText .subject
    predicate := ← t.predicate.nodeText .predicate
    object := t.object.objectCode }

/-- The six parameters of a template: graph, subject, predicate, object. -/
def TripleCode.params (e : TripleCode) (graph : String) : List Param :=
  .text graph :: .text e.subject :: .text e.predicate :: e.object.params

/-- Whether the subject and the predicate are of kinds that a stored triple may have. -/
def Triple.isStorable (t : Triple) : Bool :=
  !t.subject.isLiteral && t.predicate.isIri

namespace Term

theorem no_blankMark {s : List Char} (h : Iri.Syntax.check s = .ok ()) (r : List Char) :
    s ≠ '_' :: ':' :: r := by
  rintro rfl
  have : Iri.Syntax.check ('_' :: ':' :: r) = .error (.codePoint ':') := by
    -- An underscore begins no scheme, and a first segment holds no colon.
    have h1 : Iri.Syntax.afterScheme? ('_' :: ':' :: r) = none := rfl
    have h2 : Iri.Syntax.scan Iri.Syntax.endsAuthority Iri.Syntax.isFirstSegment
        ('_' :: ':' :: r) = .error (.codePoint ':') := rfl
    simp [Iri.Syntax.check, Iri.Syntax.relative, h1, h2, bind, Except.bind]
  rw [this] at h
  cases h

@[simp] theorem ofNodeText_iri (i : Iri) : ofNodeText i.text = .ok (.iri i) := by
  unfold ofNodeText
  split
  · next h => exact absurd h (no_blankMark i.valid _)
  · simp

@[simp] theorem ofNodeText_blank (b : BlankLabel) :
    ofNodeText (blankMark ++ b.text) = .ok (.blank b) := by
  simp [ofNodeText, blankMark]

end Term

end QuadClient
