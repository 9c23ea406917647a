import QuadClient.Rdf.LanguageTag
import QuadClient.Rdf.Vocabulary

/-!
# Literals

A literal is a plain text, a text in a language, or a text with a datatype. A text with the
string datatype is the plain text, so that datatype does not occur among the typed literals.
-/

namespace QuadClient

/-- A literal value. -/
inductive Literal where
  /-- a text alone -/
  | plain (value : String)
  /-- a text in a language -/
  | tagged (value : String) (tag : LanguageTag)
  /-- a lexical form with its datatype -/
  | typed (value : String) (datatype : Iri) (notString : datatype ≠ Iri.xsdString)
  deriving DecidableEq

namespace Literal

instance : Hashable Literal where
  hash
    | plain value => mixHash 3 (hash value)
    | tagged value tag => mixHash 5 (mixHash (hash value) (hash tag))
    | typed value datatype _ => mixHash 4 (mixHash (hash value) (hash datatype))

/-- The literal of a lexical form and a datatype; plain for the string datatype. -/
def ofTyped (value : String) (datatype : Iri) : Literal :=
  if h : datatype = Iri.xsdString then plain value else typed value datatype h

/-- The lexical form. -/
def value : Literal → String
  | plain v | tagged v _ | typed v _ _ => v

/-- The language, if there is one. -/
def language? : Literal → Option LanguageTag
  | tagged _ tag => some tag
  | _ => none

/-- The datatype; plain and tagged literals have one too. -/
def datatype : Literal → Iri
  | plain _ => Iri.xsdString
  | tagged _ _ => Iri.langString
  | typed _ dt _ => dt

/-- The datatype to write next to the lexical form. None is written for plain and tagged
literals, nor for the datatype of tagged literals. -/
def shownDatatype? : Literal → Option Iri
  | typed _ dt _ => if dt = Iri.langString then none else some dt
  | _ => none

/-- The form for people: the lexical form in quotes as it is, and the tag or the datatype. -/
def display (l : Literal) : String :=
  match l.language? with
  | some tag => "\"" ++ l.value ++ "\"@" ++ tag.text
  | none => "\"" ++ l.value ++ "\"^^" ++ l.datatype.display

/-- A literal without a tag that has the datatype of tagged literals. No text form tells it
from the plain literal. -/
def IsUntaggedLangString (l : Literal) : Prop :=
  match l with
  | typed _ dt _ => dt = Iri.langString
  | _ => False

instance (l : Literal) : Decidable l.IsUntaggedLangString := by
  unfold IsUntaggedLangString; cases l <;> exact inferInstance

@[simp] theorem ofTyped_xsdString (v : String) : ofTyped v Iri.xsdString = plain v := by
  simp [ofTyped]

@[simp] theorem ofTyped_of_ne {v : String} {dt : Iri} (h : dt ≠ Iri.xsdString) :
    ofTyped v dt = typed v dt h := by
  simp [ofTyped, h]

@[simp] theorem value_ofTyped (v : String) (dt : Iri) : (ofTyped v dt).value = v := by
  unfold ofTyped; split <;> rfl

end Literal

end QuadClient
