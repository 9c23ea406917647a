import QuadClient.Query.Escape
import QuadClient.Query.Reader
import QuadClient.Rdf.TermError

/-!
# Names in queries

Variables, labels, prefixes and IRIs.
-/

namespace QuadClient.Query

open Reader

/-- A character that a name may begin with. Names have no characters from `2 ^ 16` on, though
labels may have them elsewhere. -/
def isNameStart (c : Char) : Bool :=
  BlankLabel.isFirst c && !c.isDigit && c != '_' && c != ':' && c.toNat < 0x10000

/-- A character of a name. -/
def isNameChar (c : Char) : Bool :=
  BlankLabel.isRest c && c != '.' && c != ':' && c.toNat < 0x10000

/-- A character that a label or a variable may begin with. -/
def isLabelStart (c : Char) : Bool :=
  isNameStart c || c == '_' || c.isDigit

/-- A character of a variable. -/
def isVariableChar (c : Char) : Bool :=
  isNameChar c && c != '-'

/-- Takes points that characters of a kind follow. The points to come are kept apart until such
a character comes. -/
def takeInner (inner : Char → Bool) (points : List Char) :
    List Char → List Char × List Char
  | [] => ([], points)
  | c :: r =>
    if c == '.' then takeInner inner (c :: points) r
    else if inner c then
      let (name, rest) := takeInner inner [] r
      (points ++ c :: name, rest)
    -- Points that no character follows belong to what comes after the name.
    else ([], points ++ c :: r)

/-- Takes a name: a first character, and others with points between them. -/
def takeName (first inner : Char → Bool) : List Char → Option (String × List Char)
  | [] => none
  | c :: r =>
    if first c then
      let (name, rest) := takeInner inner [] r
      some (String.ofList (c :: name), rest)
    else none

/-- Reads a variable; its name goes without the mark. -/
def variableName : Reader String := do
  mark "?" <|> mark "$"
  cut fun rest =>
    match rest with
    | [] => none
    | c :: r =>
      if isLabelStart c then
        some (String.ofList (c :: r.takeWhile isVariableChar), r.dropWhile isVariableChar)
      else none

/-- Reads a label. It belongs to one group alone. -/
def label : Reader BlankLabel := do
  mark "_:"
  let text ← cut (takeName isLabelStart isNameChar)
  let r ← get
  match BlankLabel.parse? text with
  | none => failure
  | some b =>
    -- The label was read in another group before.
    if r.used.contains b then failure
    set { r with current := b :: r.current }
    return b

/-- Begins or ends a group: labels that were read are not read again. -/
def closeLabels : Reader Unit :=
  modify fun r => { r with used := r.current ++ r.used, current := [] }

/-- Reads the prefix of a name, with its colon. -/
def namePrefix : Reader String := do
  let name ← cut (takeName isNameStart isNameChar) <|> return ""
  mark ":"
  return name

/-- The characters that a backslash may stand in front of in a local name. -/
def localEscapes : List Char :=
  "_~.-!$&'()*+,;=/?#@%".toList

/-- Takes a character of a local name, or an escape. The second part is what it stands for. -/
def takeLocalChar (plain : Char → Bool) : List Char → Option (List Char × List Char)
  | '%' :: a :: b :: r =>
    if Text.isHexDigit a && Text.isHexDigit b then some (['%', a, b], r) else none
  | '\\' :: c :: r => if localEscapes.contains c then some ([c], r) else none
  | c :: r => if plain c then some ([c], r) else none
  | [] => none

/-- A character of a local name. -/
def isLocalChar (c : Char) : Bool :=
  isNameChar c || c == ':'

/-- Reads a local name. Points may stand in one place inside of it. -/
def localName : Reader String := do
  let one := cut (takeLocalChar isLocalChar)
  let first ← cut (takeLocalChar fun c => isLabelStart c || c == ':')
  let more ← many one
  let tail : Reader (List (List Char)) := do
    let points ← atLeastOnce (do mark "."; return '.')
    return points :: (← atLeastOnce one)
  -- A second point ends the name.
  let pointed ← tail <|> return []
  return String.ofList (first ++ more.flatten ++ pointed.flatten)

/-- The IRI of a text; fails if it is none. -/
def checkedIri (text : String) : Reader Iri :=
  match Iri.parse text with
  | .ok i => return i
  | .error _ => failure

/-- Reads an IRI that is written out. -/
def iriRef : Reader Iri := do
  mark "<"
  let text ← cut fun rest =>
    match rest.dropWhile (· != '>') with
    | _ :: after => some (rest.takeWhile (· != '>'), after)
    | [] => none
  checkedIri (String.ofList (← unescapeIri text))

/-- Reads an IRI with a prefix, or a prefix alone. -/
def prefixedName : Reader Iri := do
  let name ← namePrefix
  match (← get).prefixes.lookup name with
  | none => failure
  -- A local name that makes no IRI is left to what comes next.
  | some start => (do checkedIri (start ++ (← localName))) <|> checkedIri start

/-- Reads an IRI. -/
def iri : Reader Iri :=
  iriRef <|> prefixedName

end QuadClient.Query
