import QuadClient.Coding.SlotKind
import QuadClient.Text.Decimal
import QuadClient.Rdf.Term

/-!
# Texts that are no terms
-/

namespace QuadClient

/-- Why a text, or a group of slots, is no term. -/
inductive TermError where
  /-- not an absolute IRI -/
  | iri (text : String) (fault : Iri.Fault)
  /-- not the label of a blank node -/
  | blankLabel (text : String)
  /-- not a language tag -/
  | language (fault : LanguageTag.Fault)
  /-- no kind of object has this number -/
  | slotKind (code : Int)
  /-- the extra slot of this kind is empty -/
  | emptySlot (kind : SlotKind)
  deriving DecidableEq, Repr

/-- The wording of an error. -/
def TermError.message : TermError → String
  | iri text fault => "Invalid IRI: " ++ text ++ ": " ++ fault.message
  | blankLabel text => "Invalid blank node: " ++ text ++ ": The blank node identifier is invalid"
  | language fault => "Invalid literal: " ++ fault.message
  | slotKind code => "Invalid literal: unknown object kind code " ++ Text.integer code
  | emptySlot kind =>
    "Invalid literal: object kind " ++ kind.name ++ " without datatype or language slot"

namespace Term

/-- The named node of a text. -/
def ofIri (text : String) : Except TermError Term :=
  match Iri.parse text with
  | .ok i => .ok (.iri i)
  | .error fault => .error (.iri text fault)

/-- The blank node of a label. -/
def ofLabel (text : String) : Except TermError Term :=
  match BlankLabel.parse? text with
  | some b => .ok (.blank b)
  | none => .error (.blankLabel text)

/-- The literal of a text in a language. -/
def ofTagged (value tag : String) : Except TermError Term :=
  match LanguageTag.parse tag with
  | .ok t => .ok (.literal (.tagged value t))
  | .error fault => .error (.language fault)

/-- The literal of a lexical form and a datatype. -/
def ofTyped (value datatype : String) : Except TermError Term :=
  match Iri.parse datatype with
  | .ok dt => .ok (.literal (.ofTyped value dt))
  | .error fault => .error (.iri datatype fault)

@[simp] theorem ofIri_text (i : Iri) : ofIri i.text = .ok (.iri i) := by
  simp [ofIri]

@[simp] theorem ofLabel_text (b : BlankLabel) : ofLabel b.text = .ok (.blank b) := by
  simp [ofLabel]

@[simp] theorem ofTagged_text (v : String) (t : LanguageTag) :
    ofTagged v t.text = .ok (.literal (.tagged v t)) := by
  simp [ofTagged]

@[simp] theorem ofTyped_text (v : String) (dt : Iri) :
    ofTyped v dt.text = .ok (.literal (.ofTyped v dt)) := by
  simp [ofTyped]

end Term

end QuadClient
