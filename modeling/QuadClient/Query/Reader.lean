import QuadClient.Rdf.BlankLabel

/-!
# Reading queries

Queries are read from left to right without a step that cuts them into words: blanks and
comments may stand between any two of them, and need not. A choice takes the first alternative
that can be read.
-/

namespace QuadClient.Query

/-- How far the reading has come. -/
structure Reading where
  /-- the characters to come -/
  rest : List Char
  /-- the prefixes and what they stand for, the newest first -/
  prefixes : List (String × String) := []
  /-- the labels of groups that were read or left for another one -/
  used : List BlankLabel := []
  /-- the labels of the group that is read -/
  current : List BlankLabel := []

/-- A step of the reading, which may fail. -/
abbrev Reader := StateT Reading Option

namespace Reader

variable {α β : Type}

/-- Takes characters off the rest; fails if they are not there. -/
def cut (f : List Char → Option (α × List Char)) : Reader α := fun r =>
  (f r.rest).map fun (a, rest) => (a, { r with rest })

/-- Reads a mark. -/
def mark (s : String) : Reader Unit :=
  cut fun rest => (s.toList.isPrefixOf? rest).map ((), ·)

/-- Reads a character of a kind. -/
def one (kind : Char → Bool) : Reader Char :=
  cut fun rest =>
    match rest with
    | c :: r => if kind c then some (c, r) else none
    | [] => none

/-- Reads a keyword in small letters or capitals. -/
def keyword (w : String) : Reader Unit :=
  cut fun rest =>
    -- Keywords are ASCII, so the length of the word is that of its match.
    let n := w.length
    if (rest.take n).map Char.toUpper = w.toList then some ((), rest.drop n) else none

/-- A blank. -/
def isBlank (c : Char) : Bool :=
  c == ' ' || c == '\t' || c == '\n' || c == '\r'

/-- Passes over blanks and comments. The second argument says that a comment is open. -/
def dropGap : List Char → Bool → List Char
  | [], _ => []
  -- A comment ends with its line.
  | c :: r, true => dropGap r (c != '\n' && c != '\r')
  | c :: r, false =>
    if c == '#' then dropGap r true else if isBlank c then dropGap r false else c :: r

/-- Reads blanks and comments. -/
def gapText : Reader (List Char) :=
  cut fun rest =>
    let after := dropGap rest false
    some (rest.take (rest.length - after.length), after)

/-- Passes over blanks and comments. -/
def gap : Reader Unit :=
  cut fun rest => some ((), dropGap rest false)

/-- Reads a mark and the gap after it. -/
def sign (s : String) : Reader Unit := do
  mark s
  gap

/-- Reads a keyword and the gap after it. -/
def word (w : String) : Reader Unit := do
  keyword w
  gap

/-- Reads something and the gap after it. -/
def spaced (p : Reader α) : Reader α := do
  let a ← p
  gap
  return a

/-- Reads something as often as it stands here, but not more often than a number says. -/
def upTo : Nat → Reader α → Reader (List α)
  | 0, _ => return []
  | n + 1, p => (do return (← p) :: (← upTo n p)) <|> return []

/-- Reads something as often as it stands here. As it takes a character each time, the
characters to come bound the number of times. -/
def many (p : Reader α) : Reader (List α) := do
  upTo (← get).rest.length p

/-- Reads something at least once. -/
def atLeastOnce (p : Reader α) : Reader (List α) := do
  return (← p) :: (← many p)

/-- Reads something at least once, with a separator in between. -/
def separated (p : Reader α) (separator : Reader Unit) : Reader (List α) := do
  return (← p) :: (← many (do separator; p))

/-- Reads something at least once, and combines what was read from the left. -/
def chain (p : Reader α) (separator : Reader Unit) (f : α → α → α) : Reader α := do
  let first ← p
  return (← many (do separator; p)).foldl f first

/-- Reads something if it stands here. -/
def may (p : Reader α) : Reader (Option α) :=
  some <$> p <|> return none

/-- Gives a reader to itself for what is nested in it, so many times. -/
def nestedTo (f : Reader α → Reader α) : Nat → Reader α
  | 0 => failure
  | n + 1 => f (nestedTo f n)

/-- Reads something that may be nested in itself. As a bracket stands in front of what is
nested, the characters to come bound the depth. -/
def nested (f : Reader α → Reader α) : Reader α := do
  nestedTo f (← get).rest.length

/-- Nothing is left. -/
def finish : Reader Unit := do
  if !(← get).rest.isEmpty then failure

end Reader

end QuadClient.Query
