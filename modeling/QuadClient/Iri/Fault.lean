/-!
# What can be wrong with an IRI
-/

namespace QuadClient.Iri

/-- The first thing that is wrong with a text that should be an absolute IRI. -/
inductive Fault where
  /-- no scheme and a colon at its start -/
  | noScheme
  /-- a character that its component may not hold -/
  | codePoint (c : Char)
  /-- a percent sign that two hexadecimal digits do not follow; the characters that do -/
  | percent (next : List Char)
  /-- a character that a bracketed host, or what follows it, may not hold -/
  | host (c : Char)
  /-- the text in brackets is no address -/
  | address
  /-- a character in the number behind a host that is no digit -/
  | hostNumber (c : Char)
  deriving DecidableEq, Repr

/-- The wording of a fault. -/
def Fault.message : Fault → String
  | noScheme => "No scheme found in an absolute IRI"
  | codePoint c => "Invalid IRI code point '" ++ c.toString ++ "'"
  | percent next => "Invalid IRI percent encoding '%" ++ String.ofList next ++ "'"
  | host c => "Invalid character '" ++ c.toString ++ "' in host"
  | address => "Invalid host IP (invalid IPv6 address syntax)"
  | hostNumber c => "Invalid character '" ++ c.toString ++ "'"

end QuadClient.Iri
