import QuadClient.Yaml.Property
import QuadClient.Yaml.Scalar.Block
import QuadClient.Yaml.Scalar.Plain
import QuadClient.Yaml.Scalar.Quoted

/-!
# The layout of a text

A text is cut into tokens from left to right. Outside of flow collections the column of a token
opens and closes block collections. A node on one line becomes a key when a colon follows it;
its key token is put in front of it then. A node that begins a line of an open block mapping
has to become one.
-/

namespace QuadClient.Yaml

/-- A node that becomes a key if a colon follows it. -/
structure PossibleKey where
  /-- the number of tokens in front of it -/
  tokens : Nat
  /-- where it begins -/
  place : Place
  /-- it has to become a key -/
  required : Bool

/-- How far the cutting has come. -/
structure Layout where
  /-- the place -/
  place : Place
  /-- the tokens so far -/
  tokens : Array Token := #[]
  /-- the columns of the open block collections, the innermost first -/
  columns : List Nat := []
  /-- a node here may become a key -/
  keyAllowed : Bool := true
  /-- the node that may become a key outside of flow collections -/
  blockKey : Option PossibleKey := none
  /-- the node that may become a key in each open flow collection, the innermost first -/
  flowKeys : List (Option PossibleKey) := []

namespace Layout

/-- The place is in a flow collection. -/
def inFlow (l : Layout) : Bool :=
  !l.flowKeys.isEmpty

/-- The least column that lines inside the open blocks may begin at. -/
def innerColumn (l : Layout) : Nat :=
  match l.columns with
  | [] => 0
  | c :: _ => c + 1

/-- Adds a token. -/
def push (t : Token) (l : Layout) : Layout :=
  { l with tokens := l.tokens.push t }

/-- Puts a token in front of the others from this number on. -/
def insert (number : Nat) (t : Token) (l : Layout) : Layout :=
  let before := l.tokens.toList.take number
  { l with tokens := (before ++ t :: l.tokens.toList.drop number).toArray }

/-- The node that may become a key here. -/
def possibleKey (l : Layout) : Option PossibleKey :=
  match l.flowKeys with
  | [] => l.blockKey
  | k :: _ => k

/-- Changes the node that may become a key here. -/
def setKey (k : Option PossibleKey) (l : Layout) : Layout :=
  match l.flowKeys with
  | [] => { l with blockKey := k }
  | _ :: ks => { l with flowKeys := k :: ks }

/-- The node here becomes no key. It is a fault if it has to. -/
def dropKey (l : Layout) : Option Layout :=
  if l.possibleKey.any (·.required) then none else some (l.setKey none)

/-- The token here is a node that may become a key, if one may be here. -/
def saveKey (l : Layout) : Option Layout :=
  if l.keyAllowed then do
    -- A node that begins a line of a block mapping can be nothing but a key.
    let required := !l.inFlow && l.columns.head? == some l.place.column
    let k : PossibleKey := ⟨l.tokens.size, l.place, required⟩
    return (← l.dropKey).setKey (some k)
  else some l

/-- The length a key may have. -/
def keyLimit : Nat := 1024

/-- A key ends on its line and within its length. -/
def outlived (p : Place) (k : PossibleKey) : Bool :=
  k.place.line < p.line || k.place.index + keyLimit < p.index

/-- Nodes that are left too far behind become no keys. -/
def expire (l : Layout) : Option Layout :=
  let late (k : Option PossibleKey) : Bool := k.any (outlived l.place)
  let keys := l.blockKey :: l.flowKeys
  -- The colon did not come in time.
  if keys.any fun k => late k && k.any (·.required) then none
  else
    let keep (k : Option PossibleKey) := if late k then none else k
    some { l with blockKey := keep l.blockKey, flowKeys := l.flowKeys.map keep }

/-- Opens a block collection at a column that is further in than the others. Its token is put
in front of the token of the number given. -/
def openBlock (column number : Nat) (t : Token) (l : Layout) : Layout :=
  if l.inFlow || column < l.innerColumn then l
  else { l.insert number t with columns := column :: l.columns }

/-- Closes the innermost block collections that are not kept. -/
def closeWhile (inside : Nat → Bool) (l : Layout) : Layout :=
  if l.inFlow then l
  else
    -- Columns grow inwards, so the blocks to close are the first ones.
    let closed := (l.columns.takeWhile inside).length
    { l with
      columns := l.columns.drop closed
      tokens := l.tokens ++ Array.replicate closed Token.blockEnd }

/-- Closes the block collections further in than a column. -/
def closeBlocks (column : Nat) (l : Layout) : Layout :=
  l.closeWhile (column < ·)

/-- Closes every block collection. -/
def closeAll (l : Layout) : Option Layout :=
  (l.closeWhile fun _ => true).dropKey

/-- Passes over a byte order mark at the start of a line. -/
def skipMark (p : Place) : Place :=
  if p.column = 0 && p.starts (· == '\uFEFF') then p.forward 1 else p

/-- Passes over a comment. -/
def skipComment (p : Place) : Place :=
  if p.starts (· == '#') then p.dropWhile fun c => !isBreak c else p

/-- Passes over the blanks and the comment of a line. A tab is no blank where it would stand
for indentation. -/
def skipLine (tabs : Bool) (p : Place) : Place :=
  skipComment ((skipMark p).dropWhile fun c => c == ' ' || (c == '\t' && tabs))

theorem length_skipLine_le (tabs : Bool) (p : Place) :
    (skipLine tabs p).rest.length ≤ p.rest.length := by
  have mark : (skipMark p).rest.length ≤ p.rest.length := by
    unfold skipMark
    split <;> simp [Place.forward]
  have blanks := (skipMark p).length_dropWhile_le fun c => c == ' ' || (c == '\t' && tabs)
  have comment (q : Place) : (skipComment q).rest.length ≤ q.rest.length := by
    unfold skipComment
    split
    · exact q.length_dropWhile_le _
    · exact Nat.le_refl _
  exact Nat.le_trans (comment _) (Nat.le_trans blanks mark)

/-- Passes over blanks, comments and breaks up to the next token. Says whether a node there may
become a key. -/
def skipGap (flow keyAllowed : Bool) (p : Place) : Bool × Place :=
  -- Where a key may stand a tab could be taken for indentation.
  let q := skipLine (flow || !keyAllowed) p
  if _h : q.starts isBreak then skipGap flow (!flow || keyAllowed) q.nextLine
  else (keyAllowed, q)
termination_by p.rest.length
decreasing_by
  have hne : q.rest ≠ [] := by
    intro e
    simp [Place.starts, e] at _h
  exact Nat.lt_of_lt_of_le (q.length_nextLine_lt hne) (length_skipLine_le _ p)

/-- Passes over so many characters and adds a token. -/
def take (n : Nat) (t : Token) (l : Layout) : Layout :=
  { l.push t with place := l.place.forward n }

/-- Adds a scalar that ends at this place. -/
def scalar (style : ScalarStyle) (text : List Char) (p : Place) (l : Layout) : Layout :=
  { l.push (.scalar style (String.ofList text)) with place := p }

/-- The start of a flow collection. -/
def openFlow (t : Token) (l : Layout) : Option Layout := do
  let l ← l.saveKey
  return { l.take 1 t with flowKeys := none :: l.flowKeys, keyAllowed := true }

/-- The end of a flow collection. -/
def closeFlow (t : Token) (l : Layout) : Option Layout := do
  let l ← l.dropKey
  return { l.take 1 t with flowKeys := l.flowKeys.tail, keyAllowed := false }

/-- A comma. -/
def flowEntry (l : Layout) : Option Layout := do
  return { (← l.dropKey).take 1 .flowEntry with keyAllowed := true }

/-- A hyphen in front of an item. -/
def blockEntry (l : Layout) : Option Layout := do
  -- In a block an item begins a line or follows another mark of the layout.
  if !l.inFlow && !l.keyAllowed then none
  let l ← (l.openBlock l.place.column l.tokens.size .blockSequenceStart).dropKey
  return { l.take 1 .blockEntry with keyAllowed := true }

/-- A question mark in front of a key. -/
def key (l : Layout) : Option Layout := do
  if !l.inFlow && !l.keyAllowed then none
  let l ← (l.openBlock l.place.column l.tokens.size .blockMappingStart).dropKey
  return { l.take 1 .key with keyAllowed := !l.inFlow }

/-- A colon in front of a value. -/
def value (l : Layout) : Option Layout :=
  match l.possibleKey with
  -- The node in front is a key after all: its token goes in front of the node.
  | some k =>
    let l := (l.insert k.tokens .key).openBlock k.place.column k.tokens .blockMappingStart
    some { (l.setKey none).take 1 .value with keyAllowed := false }
  | none =>
    if !l.inFlow && !l.keyAllowed then none
    else
      let l := l.openBlock l.place.column l.tokens.size .blockMappingStart
      some { l.take 1 .value with keyAllowed := !l.inFlow }

/-- A token that is or belongs to a node which may become a key. -/
def property (t : Token) (rest : List Char) (l : Layout) : Option Layout := do
  let l ← l.saveKey
  return { l.push t with place := l.place.upTo rest, keyAllowed := false }

/-- Three hyphens or dots. -/
def documentMark (t : Token) (l : Layout) : Option Layout := do
  return { (← l.closeAll).take 3 t with keyAllowed := false }

/-- A directive. -/
def directive (l : Layout) : Option Layout := do
  let l ← l.closeAll
  let (t, rest) ← directive? l.place.rest.tail
  return { l.push t with place := l.place.upTo rest, keyAllowed := false }

/-- A tag. A gap follows it, or a comma in a flow collection. -/
def tag (l : Layout) : Option Layout := do
  let (name, rest) ← tagName? l.place.rest
  if gapNext rest || (l.inFlow && rest.head? == some ',') then l.property (.tag name) rest
  else none

/-- A block scalar. -/
def blockScalar (style : ScalarStyle) (l : Layout) : Option Layout := do
  let l ← l.dropKey
  let (text, p) ← Block.read (style = .literal) l.innerColumn l.place
  return { l.scalar style text p with keyAllowed := true }

/-- A quoted scalar. -/
def quotedScalar (style : ScalarStyle) (mark : Quoted.Mark) (l : Layout) : Option Layout := do
  let l ← l.saveKey
  let (text, p) ← Quoted.read mark l.place
  return { l.scalar style text p with keyAllowed := false }

/-- A plain scalar. -/
def plainScalar (l : Layout) : Option Layout := do
  let l ← l.saveKey
  let (text, broken, p) ← Plain.read l.inFlow l.innerColumn l.place
  return { l.scalar .plain text p with keyAllowed := broken }

/-- The characters that a plain scalar does not begin with. -/
def indicators : List Char :=
  "-?:,[]\x7b\x7d#&*!|>'\"%@\x60".toList

/-- A plain scalar may begin with these characters. -/
def beginsPlain (flow : Bool) (c : Char) (r : List Char) : Bool :=
  (!isGap c && !indicators.contains c) || (c == '-' && !r.head?.any isBlank) ||
    (!flow && (c == '?' || c == ':') && !gapNext r)

/-- The token at this place, which is not the end. -/
def token (l : Layout) : Option Layout :=
  match l.place.rest with
  | [] => none
  | c :: r =>
    -- A mark of the document wins over the same characters in any other role.
    if l.place.column = 0 && c == '%' then l.directive
    else if l.place.atDocumentMark then
      l.documentMark (if c == '-' then .documentStart else .documentEnd)
    else if c == '[' then l.openFlow .flowSequenceStart
    else if c == '\x7b' then l.openFlow .flowMappingStart
    else if c == ']' then l.closeFlow .flowSequenceEnd
    else if c == '\x7d' then l.closeFlow .flowMappingEnd
    else if c == ',' then l.flowEntry
    else if c == '-' && gapNext r then l.blockEntry
    else if c == '?' && (l.inFlow || gapNext r) then l.key
    else if c == ':' && (l.inFlow || gapNext r) then l.value
    else if c == '*' then do
      let (name, rest) ← anchorName? r
      l.property (.alias name) rest
    else if c == '&' then do
      let (name, rest) ← anchorName? r
      l.property (.anchor name) rest
    else if c == '!' then l.tag
    else if c == '|' && !l.inFlow then l.blockScalar .literal
    else if c == '>' && !l.inFlow then l.blockScalar .folded
    else if c == '\'' then l.quotedScalar .single .single
    else if c == '"' then l.quotedScalar .double .double
    else if beginsPlain l.inFlow c r then l.plainScalar
    else none

/-- The place of the next token, with the keys and the blocks that end before it ended. -/
def toToken (l : Layout) : Option Layout := do
  let (keyAllowed, place) := skipGap l.inFlow l.keyAllowed l.place
  let l ← { l with keyAllowed, place }.expire
  return l.closeBlocks place.column

/-- Cuts the rest of the text. Each token takes a character at least. -/
def run (l : Layout) : Option (Array Token) :=
  match l.toToken with
  | none => none
  | some m =>
    -- At the end everything that is open in a block ends.
    if m.place.rest.isEmpty then m.closeAll.map (·.tokens)
    else
      match m.token with
      | none => none
      | some next =>
        -- Every token takes a character, so this test does not fail.
        if next.place.rest.length < l.place.rest.length then next.run else none
termination_by l.place.rest.length

end Layout

/-- The tokens of a text; none if it cannot be cut into tokens. -/
def tokens? (text : String) : Option (List Token) :=
  let start : Layout := { place := ⟨text.toList, 0, 0, 0⟩ }
  if text.toList.all isAllowed then start.run.map (·.toList) else none

end QuadClient.Yaml
