import QuadClient.Graph.Batch

/-!
# Writing to a graph

A single triple goes through a prepared statement without a batch. A pattern is deleted in one
of three ways: a pattern without open slots is a single triple, one with open slots only clears
the graph, and any other is matched and deleted by the store.
-/

namespace QuadClient.Handle

variable {κ : Type} [Connection κ]

/-- Runs a prepared statement once with these parameters. -/
def sendWith (kind : WriteKind) (text : String) (params : List Param) :
    GraphAction κ Unit := do
  let h ← get
  onConnection <| Attempt.mapError (.ofMutation kind) do
    let statement ← Connection.prepare text h.sendOptions
    let statement ← bindFrom 1 statement params
    Connection.executePrepared statement

/-- Adds or deletes one triple without telling anyone. -/
def sendOne (kind : WriteKind) (t : Triple) : GraphAction κ Unit := do
  match t.encode with
  | .error m => throw (.misplaced m)
  | .ok e => sendWith kind kind.template (e.params (← get).graphName)

/-- Adds one triple. -/
def add (t : Triple) : GraphAction κ Unit := do
  sendOne .add t
  tell fun graph => .added graph [t]

/-- Deletes one triple. -/
def delete (t : Triple) : GraphAction κ Unit := do
  sendOne .delete t
  tell fun graph => .deleted graph [t]

/-- Adds triples in batches. -/
def addMany (ts : List Triple) (notify : Bool) : GraphAction κ Nat :=
  writeMany .add ts notify

/-- Deletes triples in batches. -/
def deleteMany (ts : List Triple) (notify : Bool) : GraphAction κ Nat :=
  writeMany .delete ts notify

/-- Removes every triple of a graph of any name, without telling anyone. -/
def emptyGraph (graph : String) : GraphAction κ Unit :=
  sendWith .delete Template.clear [.text graph]

/-- Removes every triple of the handle's graph that matches, without telling anyone. -/
def eraseMatching (p : Pattern) : GraphAction κ Unit := do
  let h ← get
  -- The template of a cleared graph holds no text of the caller.
  if p.isAny then emptyGraph h.graphName
  else
    match p.triple? with
    | some t => sendOne .delete t
    | none =>
      onConnection <| Attempt.mapError (.ofMutation .delete) <|
        Connection.execute (h.scope.erase p) h.sendOptions

/-- Removes every triple that matches. -/
def remove (p : Pattern) : GraphAction κ Unit := do
  eraseMatching p
  tell fun graph => .removed graph p

/-- Empties the graph without telling anyone. -/
def wipe : GraphAction κ Unit := do
  emptyGraph (← get).graphName

/-- Empties the graph. -/
def clear : GraphAction κ Unit := do
  wipe
  tell .cleared

/-- The statement that has the store fetch a document and put it into a graph. -/
def loadText (url graph : String) : String :=
  "sparql load \"" ++ url ++ "\" into graph <" ++ graph ++ ">"

/-- Has the store fetch a document and put it into the graph. -/
def load (url : String) : GraphAction κ Unit := do
  -- A quote would end the address inside the statement.
  if '"' ∈ url.toList then throw (.mutation .add (.badSource url))
  let h ← get
  onConnection <| Attempt.mapError (.ofMutation .add) <|
    Connection.execute (loadText url h.graphName) h.sendOptions

end QuadClient.Handle
