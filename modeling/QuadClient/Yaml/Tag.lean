/-!
# Tags

A tag says what kind of thing a node is. Tags are strings of bytes, as what is escaped in them
need not be text. A zero byte ends a tag.
-/

namespace QuadClient.Yaml

/-- A tag. -/
structure Tag where
  /-- the bytes in order -/
  bytes : List UInt8
  deriving DecidableEq, Repr

namespace Tag

instance : Append Tag := ⟨fun a b => ⟨a.bytes ++ b.bytes⟩⟩

/-- The bytes that characters are encoded in. -/
def encode (s : List Char) : List UInt8 :=
  s.flatMap String.utf8EncodeChar

/-- The tag of a text. -/
def ofText (s : String) : Tag :=
  ⟨encode s.toList⟩

/-- The tag that begins these bytes. -/
def ofBytes (bytes : List UInt8) : Tag :=
  ⟨bytes.takeWhile (· ≠ 0)⟩

/-- The tag of no bytes. -/
def empty : Tag := ⟨[]⟩

/-- The tag that says nothing about a scalar that is written. -/
def bare : Tag := ofText "!"

/-- What the tags of the known kinds of nodes begin with. -/
def coreStart : Tag := ofText "tag:yaml.org,2002:"

/-- The tag of a known kind of scalar. -/
def core (kind : String) : Tag :=
  coreStart ++ ofText kind

end Tag

/-- A tag as it is written: the handle names a tag to put in front, an empty one stands for
none. -/
structure TagName where
  /-- the handle -/
  handle : String
  /-- what follows -/
  suffix : Tag
  deriving DecidableEq, Repr

end QuadClient.Yaml
