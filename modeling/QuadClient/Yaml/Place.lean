import QuadClient.Yaml.Chars

/-!
# Places in a text

A place is what is left of a text together with how far the reading has come: in bytes, and in
lines and columns. A carriage return and a line feed make one break.
-/

namespace QuadClient.Yaml

/-- A place in a text. -/
structure Place where
  /-- the characters to come -/
  rest : List Char
  /-- the size of the text in front -/
  index : Nat := 0
  /-- the lines in front -/
  line : Nat := 0
  /-- the characters in front on the same line -/
  column : Nat := 0

namespace Place

/-- The size of a text: the number of bytes it is encoded in. -/
def size (s : List Char) : Nat :=
  s.foldl (fun n c => n + c.utf8Size) 0

/-- The first character to come. -/
def head? (p : Place) : Option Char :=
  p.rest.head?

/-- The first character to come is of this kind. -/
def starts (p : Place) (f : Char → Bool) : Bool :=
  p.rest.head?.any f

/-- The place so many characters further on the same line. -/
def forward (p : Place) (n : Nat) : Place :=
  { p with
    rest := p.rest.drop n
    index := p.index + size (p.rest.take n)
    column := p.column + n }

/-- The place on the same line where this is left of the text. -/
def upTo (p : Place) (rest : List Char) : Place :=
  { p.forward (p.rest.length - rest.length) with rest }

/-- Takes characters of a kind that breaks are not of. -/
def takeWhile (p : Place) (f : Char → Bool) : List Char × Place :=
  (p.rest.takeWhile f, p.upTo (p.rest.dropWhile f))

/-- Passes over characters of a kind that breaks are not of. -/
def dropWhile (p : Place) (f : Char → Bool) : Place :=
  (p.takeWhile f).2

/-- What a break at this place adds to a text; nothing if there is none. -/
def breakText (p : Place) : List Char :=
  match p.rest with
  | [] => []
  | c :: _ => if isWideBreak c then [c] else if isBreak c then ['\n'] else []

/-- The place after the break here. -/
def nextLine (p : Place) : Place :=
  match p.rest with
  -- A carriage return and a line feed are one break of two characters.
  | '\r' :: '\n' :: r => ⟨r, p.index + 2, p.line + 1, 0⟩
  | r => ⟨r.tail, p.index + size (r.take 1), p.line + 1, 0⟩

/-- Three hyphens or three dots at the start of a line, on their own. -/
def atDocumentMark (p : Place) : Bool :=
  p.column = 0 &&
    match p.rest with
    | a :: b :: c :: r => (a == '-' || a == '.') && b == a && c == a && gapNext r
    | _ => false

theorem length_dropWhile_le (p : Place) (f : Char → Bool) :
    (p.dropWhile f).rest.length ≤ p.rest.length :=
  (List.dropWhile_suffix f).length_le

theorem length_nextLine_lt (p : Place) (h : p.rest ≠ []) :
    p.nextLine.rest.length < p.rest.length := by
  unfold nextLine
  split
  · next r hr =>
    rw [hr]
    show r.length < r.length + 1 + 1
    omega
  · next r hr =>
    cases h' : p.rest with
    | nil => exact absurd h' h
    | cons c t => simp

theorem length_forward_lt (p : Place) (h : p.rest ≠ []) :
    (p.forward 1).rest.length < p.rest.length := by
  cases h' : p.rest with
  | nil => exact absurd h' h
  | cons c t => simp [forward, h']

end Place

end QuadClient.Yaml
