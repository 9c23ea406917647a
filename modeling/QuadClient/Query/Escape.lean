import QuadClient.Text.Hex

/-!
# Escapes in queries

A backslash starts an escape: a letter for a control character, or the number of a character in
four or eight hexadecimal digits.
-/

namespace QuadClient.Query

/-- The character of a number; none for numbers that are no characters. -/
def charOfNumber? (n : Nat) : Option Char :=
  if n.isValidChar then some (Char.ofNat n) else none

/-- The character that hexadecimal digits write. -/
def charOfHex? (digits : List Char) : Option Char :=
  (Text.hexNumber? digits).bind charOfNumber?

/-- The character that a hexadecimal number writes. A plus may stand for its first digit. -/
def charOfSigned? : List Char → Option Char
  | '+' :: digits => charOfHex? digits
  | digits => charOfHex? digits

/-- The character that a letter after a backslash stands for in a text. -/
def escapeLetter? : Char → Option Char
  | 't' => some '\t'
  | 'b' => some '\x08'
  | 'n' => some '\n'
  | 'r' => some '\r'
  | 'f' => some '\x0c'
  | '"' => some '"'
  | '\'' => some '\''
  | '\\' => some '\\'
  | _ => none

/-- Puts characters in place of their escapes. The arguments say what numbers and letters stand
for. -/
def unescape (number? : List Char → Option Char) (letter? : Char → Option Char) :
    List Char → Option (List Char)
  | [] => some []
  | '\\' :: 'u' :: a :: b :: c :: d :: r => do
    return (← number? [a, b, c, d]) :: (← unescape number? letter? r)
  | '\\' :: 'U' :: a :: b :: c :: d :: e :: f :: g :: h :: r => do
    return (← number? [a, b, c, d, e, f, g, h]) :: (← unescape number? letter? r)
  | '\\' :: c :: r => do return (← letter? c) :: (← unescape number? letter? r)
  | ['\\'] => none
  | c :: r => (unescape number? letter? r).map (c :: ·)

/-- Puts characters in place of their escapes in a text between quotes. -/
def unescapeText : List Char → Option (List Char) :=
  unescape charOfHex? escapeLetter?

/-- Puts characters in place of their escapes in an IRI, where letters stand for nothing. -/
def unescapeIri : List Char → Option (List Char) :=
  unescape charOfSigned? fun _ => none

/-- Takes what stands before a quote on the same line. -/
def takeShort (quote : Char) : List Char → Option (List Char × List Char)
  | [] => none
  | '\\' :: c :: r => (takeShort quote r).map fun (text, rest) => ('\\' :: c :: text, rest)
  | c :: r =>
    if c == quote then some ([], r)
    else if c == '\n' || c == '\r' then none
    else (takeShort quote r).map fun (text, rest) => (c :: text, rest)

/-- Takes what stands before three quotes. -/
def takeLong (quote : Char) : List Char → Option (List Char × List Char)
  | [] => none
  | '\\' :: c :: r => (takeLong quote r).map fun (text, rest) => ('\\' :: c :: text, rest)
  | c :: r =>
    if [quote, quote, quote].isPrefixOf (c :: r) then some ([], r.drop 2)
    else (takeLong quote r).map fun (text, rest) => (c :: text, rest)

end QuadClient.Query
