import QuadClient.Text.Hex

/-!
# The characters of an IRI

The character classes of RFC 3987, component by component. Each class is the class of
ordinary characters with a few delimiters added.
-/

namespace QuadClient.Iri.Syntax

/-- Characters beyond ASCII that an IRI may hold anywhere. -/
def isWide (c : Char) : Bool :=
  let n := c.toNat
  (0xA0 ≤ n && n ≤ 0xD7FF) || (0xF900 ≤ n && n ≤ 0xFDCF) || (0xFDF0 ≤ n && n ≤ 0xFFEF) ||
  (0x10000 ≤ n && n ≤ 0xDFFFD && n % 0x10000 ≤ 0xFFFD) || (0xE1000 ≤ n && n ≤ 0xEFFFD)

/-- Letters, digits and the marks and delimiters that any component may hold. -/
def isPlain (c : Char) : Bool :=
  c.isAlphanum || c ∈ ['!', '$', '&', '\'', '(', ')', '*', '+', ',', '-', '.', ';', '=', '_', '~']

/-- Plain or wide: what a host name may hold. -/
def isName (c : Char) : Bool :=
  isPlain c || isWide c

/-- Characters of the user information. -/
def isUserInfo (c : Char) : Bool :=
  isName c || c == ':'

/-- Characters of the first segment of a reference without a scheme. -/
def isFirstSegment (c : Char) : Bool :=
  isName c || c == '@'

/-- Characters of a path. -/
def isPath (c : Char) : Bool :=
  isName c || c == ':' || c == '@' || c == '/'

/-- Characters of a fragment. -/
def isFragment (c : Char) : Bool :=
  isPath c || c == '?'

/-- The private-use characters, which only a query may hold. -/
def isPrivate (c : Char) : Bool :=
  let n := c.toNat
  (0xE000 ≤ n && n ≤ 0xF8FF) || (0xF0000 ≤ n && n ≤ 0xFFFFD) || (0x100000 ≤ n && n ≤ 0x10FFFD)

/-- Characters of a query. -/
def isQuery (c : Char) : Bool :=
  isFragment c || isPrivate c

/-- Characters of a scheme after its first letter. -/
def isScheme (c : Char) : Bool :=
  c.isAlphanum || c == '+' || c == '-' || c == '.'

/-- Characters that end a host: what follows is a path, a query or a fragment. -/
def endsAuthority (c : Char) : Bool :=
  c == '/' || c == '?' || c == '#'

end QuadClient.Iri.Syntax
