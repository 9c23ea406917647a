import QuadClient.Local.State
import QuadClient.Statement.Request

/-!
# What statements do to the in-process store

A statement is read back into its request. The request and the parameters together determine the
change that the statement makes, before the store is looked at; the request and the store
determine the rows it answers with.
-/

namespace QuadClient

/-- A change of the store. -/
inductive Change where
  /-- a triple is added to a graph -/
  | insert (graph : String) (t : Triple)
  /-- a triple is taken out of a graph -/
  | remove (graph : String) (t : Triple)
  /-- every triple is taken out of a graph -/
  | clear (graph : String)
  /-- the triples that a pattern accepts are taken out of a graph -/
  | sweep (graph : String) (p : Pattern)
  /-- nothing changes -/
  | none
  deriving DecidableEq

/-- The store after a change. -/
def Change.apply (change : Change) (store : QuadStore) : QuadStore :=
  match change with
  | .insert graph t => (store.insert graph t).2
  | .remove graph t => (store.remove graph t).2
  | .clear graph => store.dropGraph graph
  | .sweep graph p => (store.sweep graph p).2
  | .none => store

namespace Request

/-- A term that was read from parameters. -/
def paramTerm (r : Except TermError Term) : Except CallError Term :=
  r.mapError fun e => .bind e.message

/-- The node in a parameter, counted from zero. -/
def nodeParam (params : List Param) (index : Nat) : Except CallError Term := do
  let text ← textParam params index
  paramTerm (Term.ofNodeText text)

/-- The graph and the triple of the six parameters of a template. -/
def tripleParams (params : List Param) : Except CallError (String × Triple) :=
  -- The number of parameters is looked at before any of them is read.
  if params.length = 6 then do
    let graph ← textParam params 0
    let subject ← nodeParam params 1
    let predicate ← nodeParam params 2
    match params[3]?.bind Param.int? with
    | none => .error (.bind "parameter 4 is not an integer")
    | some code =>
      let value ← textParam params 4
      let object ← paramTerm (Term.ofSlots code value (params[5]?.bind Param.text?))
      return (graph, ⟨subject, predicate, object⟩)
  else .error (.bind ("expected 6 parameters, got " ++ Text.integer params.length))

/-- The change that a statement of this request makes. -/
def change (request : Request) (params : List Param) : Except CallError Change :=
  match request with
  | .insert => (tripleParams params).map fun (graph, t) => .insert graph t
  | .delete => (tripleParams params).map fun (graph, t) => .remove graph t
  | .clear => (textParam params 0).map .clear
  | .erase graph p => .ok (.sweep graph p)
  | .count .. | .select .. | .other => .ok .none

/-- The columns of a selection are the open slots. -/
def columns (p : Pattern) : List String :=
  (if p.subject.isNone then ["s"] else []) ++ (if p.predicate.isNone then ["p"] else []) ++
    (if p.object.isNone then ["o"] else [])

/-- The row of a match: the terms in the open slots. -/
def row (p : Pattern) (t : Triple) : List Cell :=
  (if p.subject.isNone then [Cell.ofTerm t.subject] else []) ++
    (if p.predicate.isNone then [Cell.ofTerm t.predicate] else []) ++
    (if p.object.isNone then [Cell.ofTerm t.object] else [])

/-- The answer to a statement of this request; none if the store has no answer of its own. -/
def answer? (request : Request) (store : QuadStore) : Option ResultSet :=
  match request with
  | .count graph p => some ⟨["count"], [[.integer (store.query graph p).length]]⟩
  -- Matches in all graphs keep their repetitions: a triple counts for each graph.
  | .select graph p limit =>
    let hits := store.query graph p
    let hits :=
      match limit with
      | some n => hits.take n
      | none => hits
    some ⟨columns p, hits.map fun (_, t) => row p t⟩
  | .insert | .delete | .clear | .erase .. => some {}
  | .other => none

end Request

namespace LocalConnection

/-- The change that a statement makes. -/
def changeOf (text : String) (params : List Param) : Except CallError Change := do
  let request ← Request.ofText text params
  request.change params

/-- Makes the changes of the entries of a batch in order and stops at the first failure, which
leaves the changes before it made. -/
def changeAll (text : String) :
    List (List Param) → QuadStore → Except CallError Unit × QuadStore
  | [], store => (.ok (), store)
  | params :: rest, store =>
    match changeOf text params with
    | .ok change => changeAll text rest (change.apply store)
    | .error e => (.error e, store)

/-- Runs a statement for no rows. -/
def runUpdate (text : String) (params : List Param) (c : LocalConnection) :
    Except CallError Unit × LocalConnection :=
  match changeOf text params with
  | .ok change => (.ok (), c.setVisible (change.apply c.visible))
  | .error e => (.error e, c)

/-- Runs a statement for its rows. A statement that is not understood is answered with the
next scripted result. -/
def runQuery (text : String) (params : List Param) (c : LocalConnection) :
    Except CallError ResultSet × LocalConnection :=
  -- Such a fault comes before the text is looked at.
  if c.faults.queries then (.error (.statement ("query rejected: " ++ text)), c)
  else
    match Request.ofText text params with
    | .error e => (.error e, c)
    | .ok request =>
      match request.change params with
      | .error e => (.error e, c)
      | .ok change =>
        match request.answer? c.visible with
        | some r => (.ok r, c.setVisible (change.apply c.visible))
        | none =>
          match c.scripted with
          -- Without a scripted result the answer is empty.
          | [] => (.ok {}, c)
          | r :: rest => (.ok r, { c with scripted := rest })

end LocalConnection

end QuadClient
