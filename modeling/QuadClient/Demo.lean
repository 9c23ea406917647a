import QuadClient.Graph.Batch
import QuadClient.Graph.Read
import QuadClient.Graph.Transaction
import QuadClient.Graph.Write
import QuadClient.Local.Basic
import QuadClient.Settings.Document

/-!
# Demonstration

A tour of a handle on the in-process store: a few triples about people are written, found by
pattern, removed and queried. What is shown is a text; it is kept when a step fails.
-/

namespace QuadClient

/-- The number of this version. -/
def version : String := "0.1.0"

namespace Demo

/-- A person. -/
def alice : Term := .iri ⟨"http://example.org/alice", by decide +kernel⟩

/-- A person. -/
def bob : Term := .iri ⟨"http://example.org/bob", by decide +kernel⟩

/-- A person. -/
def carol : Term := .iri ⟨"http://example.org/carol", by decide +kernel⟩

/-- One person knows another one. -/
def knows : Term := .iri ⟨"http://xmlns.com/foaf/0.1/knows", by decide +kernel⟩

/-- A person has a name. -/
def name : Term := .iri ⟨"http://xmlns.com/foaf/0.1/name", by decide +kernel⟩

/-- The triples to start with. -/
def people : List Triple :=
  [⟨alice, name, .literal (.plain "alice")⟩, ⟨bob, name, .literal (.plain "bob")⟩,
    ⟨carol, name, .literal (.plain "carol")⟩, ⟨alice, knows, bob⟩, ⟨bob, knows, carol⟩]

/-- The settings when none are given. -/
def usualSettings : Settings :=
  { graphName := "http://example.org/people" }

/-- The tour so far. -/
structure Tour where
  /-- the handle -/
  handle : Handle LocalConnection
  /-- what was shown -/
  shown : String := ""

/-- A step of the tour. -/
abbrev Step := Attempt Error Tour

/-- Shows a text and ends the line. -/
def say (text : String) : Step Unit :=
  modify fun t => { t with shown := t.shown ++ text ++ "\n" }

/-- A step on the handle. -/
def onHandle {α : Type} (a : GraphAction LocalConnection α) : Step α :=
  a.zoom (·.handle) fun handle t => { t with handle }

/-- Adds a triple in a transaction, if the store offers them. Says whether it does. -/
def addIfSupported (t : Triple) : TransactionAction LocalConnection Bool := do
  if ← Transaction.supportsTransactions then
    Transaction.execute (Handle.add t)
    return true
  return false

/-- Writes triples. -/
def writes : Step Unit := do
  say ("=== Demo 1: Mutations on <" ++ (← get).handle.graphName ++ "> ===")
  let _ ← onHandle (Handle.writeMany .add people true)
  say ("✓ Added " ++ Text.integer people.length ++ " triples")
  if ← onHandle ((addIfSupported ⟨carol, knows, alice⟩).zoom (⟨·, none⟩) fun t _ => t.handle) then
    say "✓ Added carol -> alice in a transaction"
  say ("  Size: " ++ Text.integer (← onHandle Handle.size))

/-- A truth value. -/
def truth (b : Bool) : String :=
  if b then "true" else "false"

/-- Finds and removes triples. -/
def patterns : Step Unit := do
  say "\n=== Demo 2: Pattern Matching ==="
  for t in ← onHandle (Handle.find { predicate := some knows }) do
    say ("  " ++ t.display)
  let known ← onHandle (Handle.holds ⟨alice, knows, bob⟩)
  say ("  alice knows bob: " ++ truth known)
  onHandle (Handle.remove { subject := some carol, predicate := some knows })
  say ("✓ Removed carol's foaf:knows edges, size now " ++
    Text.integer (← onHandle Handle.size))

/-- The query for the names of all people. -/
def namesQuery : String :=
  "select * where \x7b ?s <http://xmlns.com/foaf/0.1/name> ?o \x7d"

/-- The variables, the solutions and the number of solutions of an answer. -/
def readAnswer (c : Cursor (LiveRows LocalConnection)) :
    Except Error (List String × List Solution × Nat) × Cursor (LiveRows LocalConnection) :=
  let (r, rest) := c.drain
  (r.map fun solutions => (c.names, solutions, rest.delivered), rest)

/-- Sends a query. -/
def queries : Step Unit := do
  say "\n=== Demo 3: Ad-hoc Query ==="
  say ("  Sent:\n" ++ (← get).handle.sentText namesQuery (fun _ => none))
  let (names, solutions, count) ←
    onHandle (Handle.selectWith namesQuery (fun _ => none) readAnswer)
  say ("  Variables: [" ++ String.intercalate ", " (names.map Text.quoted) ++ "]")
  for s in solutions do
    say ("  " ++ s.json)
  say ("  → " ++ Text.integer count ++ " rows")

/-- A slot of a pattern. -/
def slotText : Option Term → String
  | none => "None"
  | some (.iri i) =>
    "Some(NamedNode(NamedNode(NamedNode \x7b iri: " ++ Text.quoted i.text ++ " \x7d)))"
  | some t => "Some(" ++ t.display ++ ")"

/-- A pattern, slot by slot. -/
def shownPattern (p : Pattern) : String :=
  "TriplePattern \x7b subject: " ++ slotText p.subject ++ ", predicate: " ++
    slotText p.predicate ++ ", object: " ++ slotText p.object ++ " \x7d"

/-- An event. -/
def eventText : Event → String
  | .added _ ts => "  + " ++ Text.integer ts.length ++ " triples"
  | .deleted _ ts => "  - " ++ Text.integer ts.length ++ " triples"
  | .removed _ p => "  - matches of " ++ shownPattern p
  | .cleared graph => "  cleared <" ++ graph ++ ">"

/-- Shows what the listeners were told. -/
def events : Step Unit := do
  say "\nEvents:"
  for m in (← get).handle.listeners do
    for e in m.takeAll.1 do
      say (eventText e)

/-- All of the tour. -/
def tour : Step Unit := do
  writes
  patterns
  queries
  events
  onHandle (modify Handle.close)

/-- What stands above the tour. -/
def title : String :=
  "SPARQL Bridge v" ++ version ++ "\n==========================================\n\n"

/-- The text that is shown for these settings, and the wording of what failed. -/
def run (settings : Except Settings.Fault Settings) : String × Option String :=
  match settings with
  | .error .unreadable => (title, some "the settings cannot be read")
  | .error .malformed => (title, some "the settings are malformed")
  | .error (.invalid e) => (title, some e.message)
  | .ok s =>
    let handle := (Handle.ofSettings ({} : LocalConnection) s).listen
    match tour.on { handle, shown := title } with
    | (.ok (), t) => (t.shown, none)
    | (.error e, t) => (t.shown, some e.message)

end Demo

end QuadClient
