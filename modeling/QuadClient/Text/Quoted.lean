import QuadClient.Text.Blank
import QuadClient.Text.Combining
import QuadClient.Text.Hex
import QuadClient.Text.Unassigned

/-!
# Quoted text for people

A text between double quotes in which quotes, backslashes and characters that do not show are
escaped.
-/

namespace QuadClient.Text

/-- The digits of a number in lower-case hexadecimal. -/
def hexLower (n : Nat) : List Char :=
  Nat.toDigits 16 n

/-- A format control: the general category Cf. -/
def isFormat (c : Char) : Bool :=
  let n := c.toNat
  n == 0xAD || (0x600 ≤ n && n ≤ 0x605) || n == 0x61C || n == 0x6DD || n == 0x70F ||
  (0x890 ≤ n && n ≤ 0x891) || n == 0x8E2 || n == 0x180E || (0x200B ≤ n && n ≤ 0x200F) ||
  (0x202A ≤ n && n ≤ 0x202E) || (0x2060 ≤ n && n ≤ 0x2064) || (0x2066 ≤ n && n ≤ 0x206F) ||
  n == 0xFEFF || (0xFFF9 ≤ n && n ≤ 0xFFFB) || n == 0x110BD || n == 0x110CD ||
  (0x13430 ≤ n && n ≤ 0x1343F) || (0x1BCA0 ≤ n && n ≤ 0x1BCA3) ||
  (0x1D173 ≤ n && n ≤ 0x1D17A) || n == 0xE0001 || (0xE0020 ≤ n && n ≤ 0xE007F)

/-- A letter that only fills a place: it is ignored where it cannot be shown. -/
def isFiller (c : Char) : Bool :=
  let n := c.toNat
  n == 0x115F || n == 0x1160 || n == 0x3164 || n == 0xFFA0

/-- A character that is kept for private use: the general category Co. -/
def isPrivate (c : Char) : Bool :=
  let n := c.toNat
  (0xE000 ≤ n && n ≤ 0xF8FF) || (0xF0000 ≤ n && n ≤ 0xFFFFD) || (0x100000 ≤ n && n ≤ 0x10FFFD)

/-- Characters that do not show: controls, blanks other than the space, format controls,
fillers, characters for private use, and numbers that no character has. -/
def isHidden (c : Char) : Bool :=
  let n := c.toNat
  n < 0x20 || (0x7F ≤ n && n ≤ 0x9F) || (isBlank c && n != 0x20) || isFormat c || isFiller c ||
  isPrivate c || isUnassigned c

/-- A character inside the quotes. -/
def quotedChar (c : Char) : List Char :=
  match c with
  | '"' => ['\\', '"']
  | '\\' => ['\\', '\\']
  | '\n' => ['\\', 'n']
  | '\r' => ['\\', 'r']
  | '\t' => ['\\', 't']
  | '\x00' => ['\\', '0']
  | c =>
    if isHidden c || isCombining c then
      '\\' :: 'u' :: '\x7b' :: hexLower c.toNat ++ ['\x7d']
    else [c]

/-- A text between double quotes. -/
def quoted (s : String) : String :=
  String.ofList ('"' :: s.toList.flatMap quotedChar ++ ['"'])

end QuadClient.Text
