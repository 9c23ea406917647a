import QuadClient.Rdf.BlankLabel
import QuadClient.Rdf.Literal

/-!
# Terms
-/

namespace QuadClient

/-- What stands in a slot of a triple. -/
inductive Term where
  /-- a named node -/
  | iri (i : Iri)
  /-- a blank node -/
  | blank (b : BlankLabel)
  /-- a literal -/
  | literal (l : Literal)
  deriving DecidableEq

namespace Term

instance : Hashable Term where
  hash
    | iri i => mixHash 1 (hash i)
    | blank b => mixHash 2 (hash b)
    | literal l => mixHash 3 (hash l)

/-- Whether the term is a named node. -/
def isIri : Term → Bool
  | iri _ => true
  | _ => false

/-- Whether the term is a blank node. -/
def isBlank : Term → Bool
  | blank _ => true
  | _ => false

/-- Whether the term is a literal. -/
def isLiteral : Term → Bool
  | literal _ => true
  | _ => false

/-- The kind of the term in words. -/
def kindWord : Term → String
  | iri _ => "IRI"
  | blank _ => "blank node"
  | literal _ => "literal"

/-- The form for people. -/
def display : Term → String
  | iri i => i.display
  | blank b => b.display
  | literal l => l.display

/-- The term is a literal that no text form tells from a plain one. -/
def IsUntaggedLangString : Term → Prop
  | literal l => l.IsUntaggedLangString
  | _ => False

instance (t : Term) : Decidable t.IsUntaggedLangString := by
  unfold IsUntaggedLangString; cases t <;> exact inferInstance

end Term

end QuadClient
