import QuadClient.Yaml.Layout

/-!
# Documents

A document is one node: a scalar, a sequence or a mapping. A node may have a name, and the name
has a number; an alias stands for the node that was given the number of its name last. As an alias
may stand inside of its own node, the named nodes are kept beside the document in a table.
-/

namespace QuadClient.Yaml

/-- A node. -/
inductive Node where
  /-- a text, with its tag if it has one -/
  | scalar (tag : Option Tag) (style : ScalarStyle) (text : String)
  /-- items in order -/
  | sequence (items : List Node)
  /-- keys and values in order -/
  | mapping (entries : List (Node × Node))
  /-- the named node of this number -/
  | alias (number : Nat)

/-- A scalar that was left out. -/
def Node.empty : Node := .scalar none .plain ""

/-- A document. -/
structure Document where
  /-- the node -/
  root : Node
  /-- the numbers of the named nodes, and the nodes, the one that began last first -/
  named : List (Nat × Node) := []

/-- The node that a node stands for. -/
def Document.resolve (d : Document) : Node → Option Node
  | .alias number => d.named.lookup number
  | node => some node

/-- How far the reading of the tokens has come. -/
structure Reading where
  /-- the tokens to come -/
  tokens : List Token
  /-- the meanings of the tag handles -/
  handles : List (String × Tag)
  /-- the names given so far and the numbers they were given last -/
  names : List (String × Nat) := []
  /-- the named nodes that are complete, the one that began last first -/
  named : List (Nat × Node) := []

/-- A step of the reading, which may find a fault. -/
abbrev Reader := StateT Reading Option

namespace Reader

/-- The next token. -/
def peek : Reader (Option Token) := do
  return (← get).tokens.head?

/-- Passes over the next token. -/
def skip : Reader Unit :=
  modify fun r => { r with tokens := r.tokens.tail }

/-- Finds a fault. -/
def fault {α : Type} : Reader α := fun _ => none

/-- Takes the next token, which has to be this one. -/
def expect (t : Token) : Reader Unit := do
  if (← peek) = some t then skip else fault

/-- Takes the next token if it is this one. -/
def accept (t : Token) : Reader Bool := do
  if (← peek) = some t then
    skip
    return true
  else return false

/-- The next token is one of these, or there is none. -/
def nextIn (ts : List Token) : Reader Bool := do
  return (← peek).all ts.contains

/-- What is written in front of a node. -/
structure Properties where
  /-- its name -/
  anchor : Option String := none
  /-- its tag -/
  tag : Option TagName := none

/-- Reads a name and a tag, in either order. -/
def properties : Reader Properties := do
  match (← get).tokens with
  | .anchor a :: .tag t :: rest | .tag t :: .anchor a :: rest =>
    modify fun r => { r with tokens := rest }
    return ⟨some a, some t⟩
  | .anchor a :: rest =>
    modify fun r => { r with tokens := rest }
    return ⟨some a, none⟩
  | .tag t :: rest =>
    modify fun r => { r with tokens := rest }
    return ⟨none, some t⟩
  | _ => return {}

/-- The whole of a tag. -/
def resolveTag (t : TagName) : Reader Tag := do
  if t.handle.isEmpty then return t.suffix
  match (← get).handles.lookup t.handle with
  | some meaning => return meaning ++ t.suffix
  | none => fault

/-- Gives a number to a name: how many names there are so far. A name that is given again makes
no new one, so another name may get its number. -/
def declare (name : String) : Reader Nat := do
  let names := (← get).names
  modify fun r => { r with names := (name, names.length) :: names.filter (·.1 ≠ name) }
  return names.length

/-- Reads a node and keeps it under a number, if there is one. -/
def keep (number : Option Nat) (read : Reader Node) : Reader Node := do
  let before := (← get).named.length
  let n ← read
  if let some number := number then
    modify fun r =>
      -- The nodes inside of this one began later, so they stay in front of it.
      let inside := r.named.length - before
      { r with named := r.named.take inside ++ (number, n) :: r.named.drop inside }
  return n

/-- The tag of a scalar that is written. -/
def scalarTag (tag : Option Tag) : Option Tag :=
  tag.filter (· ≠ Tag.bare)

/-- Where a node is read: block collections may stand there, or the items of a sequence that is
not indented, or neither. -/
inductive Context where
  /-- in a block -/
  | block
  /-- a key or a value of a block mapping -/
  | entry
  /-- in a flow collection -/
  | flow
  deriving DecidableEq, Repr

mutual

/-- Reads a node. Of four calls inside of each other one takes a token, so the number of tokens
bounds the depth. -/
def node (depth : Nat) (context : Context) : Reader Node := do
  match depth with
  | 0 => fault
  | depth + 1 =>
    match ← peek with
    | some (.alias name) =>
      skip
      match (← get).names.lookup name with
      | some number => return .alias number
      | none => fault
    | _ =>
      let props ← properties
      -- A tag whose handle has no meaning is a fault before the node is read.
      let tag ← props.tag.mapM resolveTag
      -- The name is known inside of its own node already.
      let number ← props.anchor.mapM declare
      keep number (content depth context (props.anchor.isSome || tag.isSome) tag)

/-- Reads a node after its name and its tag. A node that has one of them may be left out. -/
def content (depth : Nat) (context : Context) (mayBeEmpty : Bool) (tag : Option Tag) :
    Reader Node := do
  match depth with
  | 0 => fault
  | depth + 1 =>
    -- Only a value or a key may be a sequence that is not indented.
    match ← peek, context with
    | some .blockEntry, .entry => .sequence <$> looseItems depth
    | some (.scalar style text), _ =>
      skip
      return .scalar (scalarTag tag) style text
    | some .flowSequenceStart, _ =>
      skip
      .sequence <$> flowItems depth true
    | some .flowMappingStart, _ =>
      skip
      .mapping <$> flowEntries depth true
    | some .blockSequenceStart, .block | some .blockSequenceStart, .entry =>
      skip
      .sequence <$> items depth
    | some .blockMappingStart, .block | some .blockMappingStart, .entry =>
      skip
      .mapping <$> entries depth
    | _, _ => if mayBeEmpty then return .scalar tag .plain "" else fault

/-- Reads a node unless one of these tokens, or the end, comes first. -/
def nodeUnless (depth : Nat) (context : Context) (ts : List Token) : Reader Node := do
  match depth with
  | 0 => fault
  | depth + 1 => if ← nextIn ts then return .empty else node depth context

/-- Reads the items of a block sequence. -/
def items (depth : Nat) : Reader (List Node) := do
  match depth with
  | 0 => fault
  | depth + 1 =>
    if ← accept .blockEntry then
      let item ← nodeUnless depth .block [.blockEntry, .blockEnd]
      return item :: (← items depth)
    else
      expect .blockEnd
      return []

/-- Reads the items of a block sequence that is not indented. -/
def looseItems (depth : Nat) : Reader (List Node) := do
  match depth with
  | 0 => fault
  | depth + 1 =>
    if ← accept .blockEntry then
      let item ← nodeUnless depth .block [.blockEntry, .key, .value, .blockEnd]
      return item :: (← looseItems depth)
    else return []

/-- Reads the entries of a block mapping. -/
def entries (depth : Nat) : Reader (List (Node × Node)) := do
  match depth with
  | 0 => fault
  | depth + 1 =>
    if ← accept .key then
      let stops := [Token.key, .value, .blockEnd]
      let k ← nodeUnless depth .entry stops
      let v ← if ← accept .value then nodeUnless depth .entry stops else pure .empty
      return (k, v) :: (← entries depth)
    else
      expect .blockEnd
      return []

/-- Reads the items of a flow sequence. An item may be a single entry of a mapping. A key that is
left out uses up the mark in its place, so what follows needs a mark of its own. -/
def flowItems (depth : Nat) (first : Bool) : Reader (List Node) := do
  match depth with
  | 0 => fault
  | depth + 1 =>
    if ← accept .flowSequenceEnd then return []
    if !first then expect .flowEntry
    if ← accept .flowSequenceEnd then return []
    let stops := [Token.flowEntry, .flowSequenceEnd]
    let item ←
      if ← accept .key then
        let k ←
          if ← nextIn (.value :: stops) then
            skip
            pure .empty
          else node depth .flow
        let v ← if ← accept .value then nodeUnless depth .flow stops else pure .empty
        pure (.mapping [(k, v)])
      else node depth .flow
    return item :: (← flowItems depth false)

/-- Reads the entries of a flow mapping. A key may stand without a value. -/
def flowEntries (depth : Nat) (first : Bool) : Reader (List (Node × Node)) := do
  match depth with
  | 0 => fault
  | depth + 1 =>
    if ← accept .flowMappingEnd then return []
    if !first then expect .flowEntry
    if ← accept .flowMappingEnd then return []
    let stops := [Token.flowEntry, .flowMappingEnd]
    let entry ←
      if ← accept .key then
        let k ← nodeUnless depth .flow (.value :: stops)
        let v ← if ← accept .value then nodeUnless depth .flow stops else pure .empty
        pure (k, v)
      else pure (← node depth .flow, .empty)
    return entry :: (← flowEntries depth false)

end

/-- Reads directives. There is one version at most, and one meaning for a handle. -/
def directives : List Token → Bool → List (String × Tag) →
    Option (List (String × Tag) × List Token)
  | .version major minor :: rest, seen, handles =>
    -- Two versions are known, and they read alike.
    if seen || major ≠ 1 || (minor ≠ 1 && minor ≠ 2) then none else directives rest true handles
  | .tagHandle handle meaning :: rest, seen, handles =>
    if (handles.lookup handle).isSome then none
    else directives rest seen ((handle, meaning) :: handles)
  | rest, _, handles => some (handles, rest)

/-- The handles that need no directive. -/
def knownHandles : List (String × Tag) :=
  [("!", Tag.bare), ("!!", Tag.coreStart)]

/-- The token cannot begin the node of a document. -/
def endsDocument : Token → Bool
  | .version .. | .tagHandle .. | .documentStart | .documentEnd => true
  | _ => false

/-- Reads a document. After directives three hyphens have to stand. A document that begins with
them may be empty. -/
def document (depth : Nat) : Reader Document := do
  let start := (← get).tokens
  let explicit :=
    match start with
    | .documentEnd :: _ => false
    | t :: _ => endsDocument t
    | [] => false
  let empty ←
    if explicit then
      match directives start false [] with
      | none => fault
      | some (handles, rest) =>
        modify fun r => { r with tokens := rest, handles := handles ++ knownHandles }
        expect .documentStart
        pure ((← peek).all endsDocument)
    else pure false
  let root ← if empty then pure .empty else node depth .block
  return ⟨root, (← get).named⟩

/-- Reads three dots as often as they stand here. -/
def documentEnds : List Token → List Token
  | .documentEnd :: rest => documentEnds rest
  | rest => rest

end Reader

/-- The only document of a text, if it has one at all. Nothing if the text is not well formed or
has more than one document. -/
def read? (text : String) : Option (Option Document) := do
  let tokens ← tokens? text
  if tokens.isEmpty then return none
  let start : Reading := { tokens, handles := Reader.knownHandles }
  -- Four calls for each token, and a few more to find out that no token is left.
  let (d, after) ← (Reader.document (4 * tokens.length + 4)).run start
  if (Reader.documentEnds after.tokens).isEmpty then return some d else none

end QuadClient.Yaml
