import QuadClient.Settings.Basic
import QuadClient.Text.Decimal
import QuadClient.Yaml.Node
import QuadClient.Yaml.Printer

/-!
# Settings as a document

Settings are kept as a YAML document. Everything may be left out of it and is then as usual;
what is not known is passed over. A key that is known stands once at most.
-/

namespace QuadClient

namespace Yaml

/-- A node read as something; none if it is no such thing. -/
abbrev Decoder (α : Type) := Document → Node → Option α

namespace Decoder

/-- The scalar that a node stands for: tag, style and text. -/
def scalar? : Decoder (Option Tag × ScalarStyle × String) := fun d n => do
  match ← d.resolve n with
  | .scalar tag style text => return (tag, style, text)
  | _ => none

/-- Any scalar as a text. -/
def text : Decoder String := fun d n => do
  return (← scalar? d n).2.2

/-- The text of a scalar that may say more than itself: a plain one, or a literal one that has
the tag of the kind. -/
def bare (kind : String) : Decoder String := fun d n => do
  let (tag, style, text) ← scalar? d n
  if style = .plain || (style = .literal && tag == some (Tag.core kind)) then return text else none

/-- A truth value. -/
def truth : Decoder Bool := fun d n => do
  truth? (← bare "bool" d n)

/-- A whole number up to a limit. -/
def natural (limit : Nat) : Decoder Nat := fun d n => do
  (natural? (← bare "int" d n).toList).filter (· ≤ limit)

/-- A text, or no value: a plain scalar that is left out or says so. A plain scalar with the
tag of null has to say so. -/
def optionalText : Decoder (Option String) := fun d n => do
  match ← scalar? d n with
  | (none, .plain, text) => return if text.isEmpty || isNull text then none else some text
  | (some tag, .plain, text) =>
    -- Any other tag says that the scalar is a text.
    if tag ≠ Tag.core "null" then return some text
    else if isNull text then return none
    else none
  | (_, _, text) => return some text

/-- The keys and the values of a mapping. A scalar that is left out is a mapping without
keys. -/
def entries : Decoder (List (String × Node)) := fun d n => do
  match ← d.resolve n with
  | .mapping es => es.mapM fun (k, v) => return (← text d k, v)
  -- A key without a value stands for a mapping in which everything is as usual.
  | .scalar _ .plain "" => return []
  | _ => none

/-- The value of a key, which stands once at most; something else if it is not there. -/
def member {α : Type} (key : String) (decode : Decoder α) (otherwise : α)
    (es : List (String × Node)) (d : Document) : Option α :=
  match es.filter (·.1 == key) with
  | [] => some otherwise
  | [(_, v)] => decode d v
  | _ => none

end Decoder

end Yaml

namespace Settings

open Yaml Yaml.Decoder

/-- The greatest fetch size. -/
def fetchLimit : Nat := UInt32.size - 1

/-- The greatest number of seconds. -/
def timeoutLimit : Nat := UInt64.size - 1

/-- How reads are answered. -/
def decodeOptions : Decoder ReadOptions := fun d n => do
  let es ← entries d n
  return {
    ruleSet := ← member "rule_set" optionalText none es d
    sameAs := ← member "same_as" truth false es d
    everyGraph := ← member "read_all_graphs" truth false es d }

/-- What one statement may use. -/
def decodeResources : Decoder Resources := fun d n => do
  let es ← entries d n
  let usual : Resources := {}
  return {
    fetchSize := ← member "fetch_size" (natural fetchLimit) usual.fetchSize es d
    timeoutSecs := ← member "query_timeout_secs" (natural timeoutLimit) usual.timeoutSecs es d }

/-- Settings, valid or not. -/
def decode : Decoder Settings := fun d n => do
  let es ← entries d n
  let usual : Settings := {}
  return {
    graphName := ← member "graph_name" text usual.graphName es d
    options := ← member "options" decodeOptions usual.options es d
    resources := ← member "resources" decodeResources usual.resources es d }

/-- Why settings cannot be read. -/
inductive Fault where
  /-- there is no text -/
  | unreadable
  /-- the text is no document, or not one of settings -/
  | malformed
  /-- a setting is not valid -/
  | invalid (e : Invalid)
  deriving DecidableEq, Repr

/-- Reads settings. A text without a document gives the usual ones. -/
def parse? (text : String) : Option Settings := do
  match ← Yaml.read? text with
  | none => return {}
  | some d => decode d d.root

/-- Reads settings and refuses those that are not valid. -/
def ofText (text : String) : Except Fault Settings :=
  match parse? text with
  | none => .error .malformed
  | some s =>
    match s.validate with
    | .ok () => .ok s
    | .error e => .error (.invalid e)

/-- Reads settings from the bytes of a file, if there is one. -/
def ofBytes (bytes : Option ByteArray) : Except Fault Settings :=
  match bytes.bind String.fromUTF8? with
  | none => .error .unreadable
  | some text => ofText text

/-- A truth value as it is written. -/
def truthText (b : Bool) : Outline :=
  .word (if b then "true" else "false")

/-- A number as it is written. -/
def numberText (n : Nat) : Outline :=
  .word (Text.integer n)

/-- What is written. -/
def outline (s : Settings) : List (String × Outline) :=
  let rules :=
    match s.options.ruleSet with
    | some r => Outline.text r
    | none => .word "null"
  [("graph_name", .text s.graphName),
    ("options", .mapping [("rule_set", rules), ("same_as", truthText s.options.sameAs),
      ("read_all_graphs", truthText s.options.everyGraph)]),
    ("resources", .mapping [("fetch_size", numberText s.resources.fetchSize),
      ("query_timeout_secs", numberText s.resources.timeoutSecs)])]

/-- The document of settings. -/
def text (s : Settings) : String :=
  String.ofList (Outline.lines 0 s.outline)

end Settings

end QuadClient
