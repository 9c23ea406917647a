import QuadClient.Text.Hex
import QuadClient.Yaml.Place
import QuadClient.Yaml.Token

/-!
# Names, tags and directives

Anchors and aliases are words. A tag is a handle and a suffix, or the whole tag between angle
brackets. Bytes of a tag may be escaped.
-/

namespace QuadClient.Yaml

/-- Takes the word at the start of a text. -/
def word (s : List Char) : List Char × List Char :=
  s.span isWordChar

/-- The character may follow the name of an anchor. -/
def endsName : List Char → Bool
  | [] => true
  | c :: _ => isGap c || "?:,]\x7d%@\x60".toList.contains c

/-- Reads the name of an anchor or an alias. -/
def anchorName? (s : List Char) : Option (String × List Char) :=
  let (name, rest) := word s
  if name.isEmpty || !endsName rest then none else some (String.ofList name, rest)

/-- A character of a tag outside angle brackets. -/
def isTagChar (c : Char) : Bool :=
  isWordChar c || ";/?:@&=+$.!~*'()".toList.contains c

/-- A character of a tag between angle brackets. -/
def isVerbatimChar (c : Char) : Bool :=
  isTagChar c || c == ',' || c == '[' || c == ']'

/-- The byte of an escape at the start of a text. -/
def escapedByte? : List Char → Option (UInt8 × List Char)
  | '%' :: a :: b :: r => (Text.hexNumber? [a, b]).map fun n => (UInt8.ofNat n, r)
  | _ => none

/-- The number of bytes of a character that begins with this byte; zero if none does. -/
def encodedSize (first : UInt8) : Nat :=
  if first < 0x80 then 1
  else if 0xC0 ≤ first && first < 0xE0 then 2
  else if 0xE0 ≤ first && first < 0xF0 then 3
  else if 0xF0 ≤ first && first < 0xF8 then 4
  else 0

/-- The byte may stand behind the first one of a character. -/
def isTrailing (b : UInt8) : Bool :=
  0x80 ≤ b && b < 0xC0

/-- Reads so many escaped bytes. -/
def escapedBytes? : Nat → List Char → Option (List UInt8 × List Char)
  | 0, s => some ([], s)
  | n + 1, s => do
    let (b, r) ← escapedByte? s
    let (bs, r) ← escapedBytes? n r
    return (b :: bs, r)

/-- Reads the bytes of an escaped character. They are laid out like those of a character, but
need not stand for one. -/
def escapedChar? (s : List Char) : Option (List UInt8 × List Char) := do
  let (first, r) ← escapedByte? s
  -- The first byte says how many bytes there are.
  match encodedSize first with
  | 0 => none
  | n + 1 =>
    let (more, rest) ← escapedBytes? n r
    if more.all isTrailing then return (first :: more, rest) else none

/-- Takes the bytes of a tag; nothing if an escape is not well formed. -/
def tagBytes? (verbatim : Bool) (s : List Char) : Option (List UInt8 × List Char) :=
  match s with
  | [] => some ([], [])
  | c :: r =>
    if c = '%' then
      match escapedChar? s with
      | none => none
      | some (bytes, rest) =>
        -- An escape takes characters, so this test does not fail.
        if rest.length ≤ r.length then
          (tagBytes? verbatim rest).map fun (more, rest) => (bytes ++ more, rest)
        else none
    else if (if verbatim then isVerbatimChar c else isTagChar c) then
      (tagBytes? verbatim r).map fun (more, rest) => (String.utf8EncodeChar c ++ more, rest)
    else some ([], s)
termination_by s.length

/-- Takes a tag, for which something has to be written. -/
def tag? (verbatim : Bool) (s : List Char) : Option (Tag × List Char) := do
  let (bytes, rest) ← tagBytes? verbatim s
  -- An escaped zero byte is something, though the tag ends in front of it.
  if bytes.isEmpty then none else return (Tag.ofBytes bytes, rest)

/-- Reads a handle: an exclamation mark, the word after it, and another exclamation mark if
one follows. -/
def handle? : List Char → Option (List Char × List Char)
  | '!' :: r =>
    match word r with
    | (name, '!' :: rest) => some ('!' :: name ++ ['!'], rest)
    | (name, rest) => some ('!' :: name, rest)
  | _ => none

/-- A handle that is closed by a second exclamation mark. -/
def isClosedHandle (handle : List Char) : Bool :=
  2 ≤ handle.length && handle.getLast? == some '!'

/-- Reads a tag, from its exclamation mark on. -/
def tagName? (s : List Char) : Option (TagName × List Char) := do
  match s with
  | '!' :: '<' :: r =>
    match ← tag? true r with
    | (tag, '>' :: rest) => return (⟨"", tag⟩, rest)
    | _ => none
  | _ =>
    let (handle, r) ← handle? s
    if isClosedHandle handle then
      let (suffix, rest) ← tag? false r
      return (⟨String.ofList handle, suffix⟩, rest)
    else
      let (bytes, rest) ← tagBytes? false r
      -- What was read as a handle without a second mark is the start of the suffix.
      let suffix := Tag.ofBytes (Tag.encode handle.tail ++ bytes)
      -- The mark alone is a tag of its own.
      if suffix = Tag.empty then return (⟨"", Tag.bare⟩, rest) else return (⟨"!", suffix⟩, rest)

/-- Reads a number of a version. -/
def versionNumber? (s : List Char) : Option (Nat × List Char) :=
  let (digits, rest) := s.span (·.isDigit)
  if digits.isEmpty || 9 < digits.length then none
  else some (digits.foldl (fun n c => 10 * n + (c.toNat - 48)) 0, rest)

/-- Passes over blanks. -/
def skipBlanks (s : List Char) : List Char :=
  s.dropWhile isBlank

/-- Reads a directive, from after its percent sign up to the end of its line. -/
def directive? (s : List Char) : Option (Token × List Char) := do
  let (name, rest) := word s
  if !gapNext rest then none
  let (token, rest) ←
    match String.ofList name with
    | "YAML" => do
      match ← versionNumber? (skipBlanks rest) with
      | (major, '.' :: r) =>
        let (minor, r) ← versionNumber? r
        pure (Token.version major minor, r)
      | _ => none
    | "TAG" => do
      let (handle, r) ← handle? (skipBlanks rest)
      if handle ≠ ['!'] && !isClosedHandle handle then none
      match r with
      | [] => none
      | c :: _ => if !isBlank c then none
      let (meaning, r) ← tag? true (skipBlanks r)
      if !gapNext r then none
      pure (Token.tagHandle (String.ofList handle) meaning, r)
    | _ => none
  let rest := skipBlanks rest
  let rest := if rest.head? == some '#' then rest.dropWhile fun c => !isBreak c else rest
  if rest.head?.all isBreak then return (token, rest) else none

end QuadClient.Yaml
