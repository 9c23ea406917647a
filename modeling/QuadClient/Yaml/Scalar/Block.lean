import QuadClient.Yaml.Place

/-!
# Block scalars

A block scalar is a run of lines that are indented more than the block around them. A literal
one keeps its line breaks. A folded one joins lines with a space, unless one of them begins
with a blank. What happens to the breaks at the end is said in the header.
-/

namespace QuadClient.Yaml.Block

/-- What happens to the breaks at the end. -/
inductive Chomping where
  /-- all go -/
  | strip
  /-- one stays -/
  | clip
  /-- all stay -/
  | keep
  deriving DecidableEq, Repr

/-- What the header says. -/
structure Header where
  /-- what happens to the breaks at the end -/
  chomping : Chomping := .clip
  /-- by how much the lines are indented; zero if that is to be found out -/
  increment : Nat := 0

/-- The chomping that a character stands for. -/
def chomping? : Char → Option Chomping
  | '-' => some .strip
  | '+' => some .keep
  | _ => none

/-- Reads a digit other than zero, if there is a digit. -/
def increment? : List Char → Option (Nat × List Char)
  | [] => some (0, [])
  | c :: r =>
    if c == '0' then none
    else if c.isDigit then some (c.toNat - 48, r)
    else some (0, c :: r)

/-- Reads the sign of the chomping, if there is one. -/
def sign (increment : Nat) : List Char → Header × List Char
  | [] => (⟨.clip, increment⟩, [])
  | c :: r =>
    match chomping? c with
    | some chomping => (⟨chomping, increment⟩, r)
    | none => (⟨.clip, increment⟩, c :: r)

/-- Reads the signs of a header, in either order. -/
def header? (s : List Char) : Option (Header × List Char) :=
  match sign 0 s with
  | (⟨.clip, _⟩, _) => (increment? s).map fun (increment, rest) => sign increment rest
  | (⟨chomping, _⟩, rest) =>
    (increment? rest).map fun (increment, rest) => (⟨chomping, increment⟩, rest)

/-- The breaks in front of a line, the greatest column of those lines, and the place where the
line begins. Lines are indented up to a column; zero means any. -/
structure Margin where
  /-- the breaks -/
  breaks : List Char
  /-- the greatest column that was reached -/
  widest : Nat
  /-- where the line begins -/
  place : Place

/-- Passes over the indentation of a line. -/
def indented (indent : Nat) (p : Place) : Place :=
  let spaces := (p.rest.takeWhile (· == ' ')).length
  p.forward (if indent = 0 then spaces else min spaces (indent - p.column))

theorem length_indented_le (indent : Nat) (p : Place) :
    (indented indent p).rest.length ≤ p.rest.length := by
  simp [indented, Place.forward]

/-- Passes over empty lines and the indentation of the line after them. A tab in place of
indentation is a fault. -/
def margin (indent widest : Nat) (p : Place) : Option Margin :=
  let q := indented indent p
  let widest := max widest q.column
  if (indent = 0 || q.column < indent) && q.starts (· == '\t') then none
  else if _h : q.starts isBreak then
    (margin indent widest q.nextLine).map fun m =>
      { m with breaks := q.breakText ++ m.breaks }
  else some ⟨[], widest, q⟩
termination_by p.rest.length
decreasing_by
  have hne : q.rest ≠ [] := by
    intro e
    simp [Place.starts, e] at _h
  exact Nat.lt_of_lt_of_le (q.length_nextLine_lt hne) (length_indented_le indent p)

/-- What was read in front of a line. -/
structure Seam where
  /-- the break of the line before -/
  first : List Char := []
  /-- the breaks of the empty lines -/
  more : List Char := []
  /-- the line before begins with a blank -/
  afterBlank : Bool := false

/-- What a seam is read as, in front of a line that begins with a blank or does not. -/
def Seam.text (literal : Bool) (s : Seam) (beforeBlank : Bool) : List Char :=
  -- One break between two lines of text is a space; more of them lose one.
  if !literal && s.first = ['\n'] && !s.afterBlank && !beforeBlank then
    if s.more.isEmpty then [' '] else s.more
  else s.first ++ s.more

/-- What the last seam is read as. -/
def Seam.tail (chomping : Chomping) (s : Seam) : List Char :=
  match chomping with
  | .strip => []
  | .clip => s.first
  | .keep => s.first ++ s.more

/-- Reads lines that are indented to the column given. -/
def lines (literal : Bool) (chomping : Chomping) (indent : Nat) (seam : Seam) (p : Place) :
    Option (List Char × Place) :=
  if p.column = indent ∧ !p.rest.isEmpty then
    let blank := p.starts isBlank
    let (line, q) := p.takeWhile fun c => !isBreak c
    let next := if q.starts isBreak then q.nextLine else q
    match margin indent 0 next with
    | none => none
    | some m =>
      if m.place.rest.length < p.rest.length then
        match lines literal chomping indent ⟨q.breakText, m.breaks, blank⟩ m.place with
        | none => none
        | some (more, r) => some (seam.text literal blank ++ line ++ more, r)
      else none
  else some (seam.tail chomping, p)
termination_by p.rest.length

/-- Reads a block scalar from its indicator on. The column is the least one that lines inside
the block around it may begin at. -/
def read (literal : Bool) (column : Nat) (p : Place) : Option (List Char × Place) := do
  let (header, rest) ← header? (p.forward 1).rest
  let p := (p.upTo rest).dropWhile isBlank
  let p := if p.starts (· == '#') then p.dropWhile fun c => !isBreak c else p
  if !p.rest.isEmpty && !p.starts isBreak then none
  else
    let p := if p.starts isBreak then p.nextLine else p
    -- An indentation that is given counts from the block around the scalar.
    let given := if header.increment = 0 then 0 else (column - 1) + header.increment
    let m ← margin given 0 p
    -- Else the first line shows it, or an empty line that is wider.
    let indent := if given = 0 then max m.widest (max column 1) else given
    lines literal header.chomping indent { more := m.breaks } m.place

end QuadClient.Yaml.Block
