import QuadClient.Text.Hex

/-!
# Addresses in brackets

The textual form of an address of eight groups: up to four hexadecimal digits each, one
run of zero groups may be left out as `::`, and the last two groups may be written as four
decimal numbers. Each reader takes a text and gives what follows the part it read.
-/

namespace QuadClient.Iri.Address

open QuadClient.Text

/-- At most four hexadecimal digits, at least one. -/
def group? (s : List Char) : Option (List Char) :=
  let digits := s.takeWhile isHexDigit
  if 1 ≤ digits.length && digits.length ≤ 4 then some (s.dropWhile isHexDigit) else none

/-- A decimal number below 256 without a leading zero. -/
def octet? (s : List Char) : Option (List Char) :=
  let digits := s.takeWhile Char.isDigit
  let value := digits.foldl (fun n c => 10 * n + (c.toNat - 48)) 0
  if digits.isEmpty || 3 < digits.length || 255 < value then none
  else if digits.head? == some '0' && 1 < digits.length then none
  else some (s.dropWhile Char.isDigit)

/-- The next character, if it is `mark`. -/
def mark? (mark : Char) : List Char → Option (List Char)
  | [] => none
  | c :: r => if c = mark then some r else none

/-- Four decimal numbers with points between them. -/
def dotted? (s : List Char) : Option (List Char) := do
  let s ← octet? s
  let s ← mark? '.' s
  let s ← octet? s
  let s ← mark? '.' s
  let s ← octet? s
  let s ← mark? '.' s
  octet? s

/-- What a run of groups came to. -/
structure Groups where
  /-- how many groups were read -/
  count : Nat
  /-- whether the last two were written as four decimal numbers -/
  dotted : Bool
  /-- what follows -/
  rest : List Char

/-- Reads up to `room` more groups, with a colon between groups; `count` were read before. -/
def groups (count : Nat) (s : List Char) : (room : Nat) → Groups
  | 0 => ⟨count, false, s⟩
  | room + 1 =>
    match if count = 0 then some s else mark? ':' s with
    | none => ⟨count, false, s⟩
    | some t =>
      -- Four decimal numbers take the room of two groups.
      match if room = 0 then none else dotted? t with
      | some r => ⟨count + 2, true, r⟩
      | none =>
        match group? t with
        | some r => groups (count + 1) r room
        | none => ⟨count, false, s⟩

/-- Whether the text is an address of eight groups. -/
def isValid (s : List Char) : Bool :=
  let head := groups 0 s 8
  if head.count = 8 then head.rest.isEmpty
  -- Decimal numbers end an address, so nothing can be left out after them.
  else if head.dotted then false
  else
    match head.rest with
    -- The two colons stand for one group at least.
    | ':' :: ':' :: r => (groups 0 r (7 - head.count)).rest.isEmpty
    | _ => false

end QuadClient.Iri.Address
