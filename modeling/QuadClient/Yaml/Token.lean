import QuadClient.Yaml.Tag

/-!
# Tokens of YAML text

The marks that a text is made of. The structure that indentation gives a text is made of marks
as well: a block collection has a token for its start and one for its end.
-/

namespace QuadClient.Yaml

/-- How a scalar is written. -/
inductive ScalarStyle where
  /-- without marks -/
  | plain
  /-- between single quotes -/
  | single
  /-- between double quotes -/
  | double
  /-- as lines that keep their breaks -/
  | literal
  /-- as lines that are joined -/
  | folded
  deriving DecidableEq, Repr

/-- A mark of the text. -/
inductive Token where
  /-- the version that the text is written for -/
  | version (major minor : Nat)
  /-- the meaning of a tag handle -/
  | tagHandle (handle : String) (meaning : Tag)
  /-- three hyphens -/
  | documentStart
  /-- three dots -/
  | documentEnd
  /-- the start of a sequence by indentation -/
  | blockSequenceStart
  /-- the start of a mapping by indentation -/
  | blockMappingStart
  /-- the end of a collection by indentation -/
  | blockEnd
  /-- an opening bracket -/
  | flowSequenceStart
  /-- a closing bracket -/
  | flowSequenceEnd
  /-- an opening brace -/
  | flowMappingStart
  /-- a closing brace -/
  | flowMappingEnd
  /-- the hyphen in front of an item -/
  | blockEntry
  /-- the comma after an item -/
  | flowEntry
  /-- the start of a key, written or not -/
  | key
  /-- the colon in front of a value -/
  | value
  /-- a reference to an anchor -/
  | alias (name : String)
  /-- a name for the node that follows -/
  | anchor (name : String)
  /-- the kind of the node that follows -/
  | tag (name : TagName)
  /-- a scalar -/
  | scalar (style : ScalarStyle) (text : String)
  deriving DecidableEq, Repr

end QuadClient.Yaml
