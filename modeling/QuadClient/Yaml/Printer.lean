import QuadClient.Text.Hex
import QuadClient.Yaml.Chars
import QuadClient.Yaml.Scalar.Kind
import QuadClient.Yaml.Scalar.Quoted
import QuadClient.Yaml.Token

/-!
# Writing YAML text

Mappings of scalars are written as blocks, two columns for each level. A text is written plain
if it reads back so, else between single quotes, else between double quotes; a text with line
feeds is written as literal lines if it can be.
-/

namespace QuadClient.Yaml

/-- What is written. -/
inductive Outline where
  /-- a word that is no text -/
  | word (w : String)
  /-- a text -/
  | text (s : String)
  /-- keys and values in order -/
  | mapping (entries : List (String × Outline))

/-- What a text allows. -/
structure Traits where
  /-- it can be written plain -/
  plain : Bool
  /-- it can be written between single quotes -/
  single : Bool
  /-- it can be written as literal lines -/
  literal : Bool
  deriving DecidableEq, Repr

namespace Traits

/-- The characters that a plain text does not begin with. -/
def openers : List Char :=
  "#,[]\x7b\x7d&*!|>'\"%@\x60".toList

/-- A colon that a gap follows, or a number sign that a gap precedes. -/
def hasMark : List Char → Bool
  | a :: b :: r => (a == ':' && isGap b) || (isGap a && b == '#') || hasMark (b :: r)
  | [a] => a == ':'
  | [] => false

/-- The text begins with a mark of the layout. -/
def opensMark (s : List Char) : Bool :=
  match s with
  | [] => false
  | c :: r =>
    openers.contains c || ((c == '?' || c == ':' || c == '-') && gapNext r) ||
      ['-', '-', '-'].isPrefixOf s || ['.', '.', '.'].isPrefixOf s

/-- Two characters of these kinds stand side by side. -/
def hasPair (f g : Char → Bool) : List Char → Bool
  | a :: b :: r => (f a && g b) || hasPair f g (b :: r)
  | _ => false

/-- What a text that is not empty allows. -/
def of (s : List Char) : Traits :=
  let space (c : Char) : Bool := c == ' '
  let edge (c : Option Char) : Bool := c.any fun c => space c || isBreak c
  let special := !s.all isPrintable
  let spaceBreak := hasPair space isBreak s
  let breakSpace := hasPair isBreak space s
  { plain := !special && !spaceBreak && !s.any isBreak && !edge s.head? && !edge s.getLast? &&
      !opensMark s && !hasMark s
    single := !special && !spaceBreak && !breakSpace
    literal := !special && !spaceBreak && !s.getLast?.any space }

end Traits

/-- The style that a text is written in. -/
def styleOf (s : String) : ScalarStyle :=
  let traits := Traits.of s.toList
  -- A text of several lines is easier to read as lines.
  if s.toList.contains '\n' then (if traits.literal then .literal else .double)
  else if s.isEmpty then .single
  else if !needsQuotes s && traits.plain then .plain
  else if traits.single then .single
  else .double

/-- A number as upper-case hexadecimal digits, padded with zeros to a width. -/
def hexPadded (width n : Nat) : List Char :=
  let digits := (Nat.toDigits 16 n).map Char.toUpper
  List.replicate (width - digits.length) '0' ++ digits

/-- A character between double quotes. -/
def doubleChar (c : Char) : List Char :=
  if isPrintable c && c != '\n' && !isWideBreak c && c != '"' && c != '\\' then [c]
  else
    -- A letter is preferred to a number; a character that stands for itself is no letter.
    match Quoted.letterEscapes.find? fun (e, x) => x == c && e != x with
    | some (e, _) => ['\\', e]
    | none =>
      if c = '"' || c = '\\' then ['\\', c]
      else
        let n := c.toNat
        if n ≤ 0xFF then '\\' :: 'x' :: hexPadded 2 n
        else if n ≤ 0xFFFF then '\\' :: 'u' :: hexPadded 4 n
        else '\\' :: 'U' :: hexPadded 8 n

/-- Lines that begin at a column, the first one if `fresh`. -/
def margined (indent : Nat) (fresh : Bool) : List Char → List Char
  | [] => []
  | c :: r =>
    if isBreak c then c :: margined indent true r
    else (if fresh then List.replicate indent ' ' else []) ++ c :: margined indent false r

/-- A character between single quotes. -/
def singleChar (c : Char) : List Char :=
  if c = '\'' then ['\'', '\''] else [c]

/-- The text ends a line. -/
def endsLine (s : List Char) : Bool :=
  s.getLast?.any isBreak

/-- The signs of a literal text: its indentation, if it does not show, and what happens to the
breaks at its end. -/
def literalSigns (s : List Char) : List Char :=
  -- A blank at the start would be taken for indentation.
  let hint := if s.head?.any fun c => c == ' ' || isBreak c then ['2'] else []
  let chomping :=
    if !endsLine s then ['-']
    else if s.dropLast.isEmpty || endsLine s.dropLast then ['+']
    else []
  hint ++ chomping

/-- A text as the value of a key whose value is indented to a column. -/
def scalarText (indent : Nat) (s : String) : List Char :=
  let chars := s.toList
  match styleOf s with
  | .plain | .folded => chars
  | .single =>
    let body := margined indent false chars
    let tail := if endsLine chars then List.replicate indent ' ' else []
    '\'' :: body.flatMap singleChar ++ tail ++ ['\'']
  | .double => '"' :: chars.flatMap doubleChar ++ ['"']
  | .literal => '|' :: literalSigns chars ++ '\n' :: margined indent true chars

/-- Ends a line, unless it was ended. -/
def endLine (s : List Char) : List Char :=
  if endsLine s then s else s ++ ['\n']

mutual

/-- The lines of a value behind its key. -/
def Outline.value (indent : Nat) : Outline → List Char
  | .word w => ' ' :: endLine w.toList
  | .text s => ' ' :: endLine (scalarText (indent + 2) s)
  | .mapping entries => '\n' :: Outline.lines (indent + 2) entries

/-- The lines of entries at a column. -/
def Outline.lines (indent : Nat) : List (String × Outline) → List Char
  | [] => []
  | (key, o) :: rest =>
    List.replicate indent ' ' ++ key.toList ++ ':' :: o.value indent ++ Outline.lines indent rest

end

end QuadClient.Yaml
