import QuadClient.Cursor.Basic
import QuadClient.Graph.Handle

/-!
# Reading a graph

A read opens an answer, uses it and releases it, whatever comes of the use. While an answer is
read the connection is taken up by it, so the use is given to the read as a function.
-/

namespace QuadClient

/-- The triples that match a pattern, read one after the other. -/
structure Matches (σ : Type) where
  /-- the solutions; a variable for each open slot -/
  cursor : Cursor σ
  /-- the pattern -/
  pattern : Pattern

namespace Matches

variable {σ : Type}

/-- The triple of a solution: bound slots from the pattern, open slots from the variables.
None unless it is a triple that may be stored. -/
def triple? (p : Pattern) (s : Solution) : Option Triple := do
  let subject ← p.subject <|> s.get? "s"
  let predicate ← p.predicate <|> s.get? "p"
  let object ← p.object <|> s.get? "o"
  let t : Triple := ⟨subject, predicate, object⟩
  if t.isStorable then some t else none

variable [RowSource σ]

/-- The next triple, none at the end. Solutions that make no triple are passed over. -/
def next (m : Matches σ) : Except Error (Option Triple) × Matches σ :=
  match _h : m.cursor.next with
  | (.error e, c) => (.error e, { m with cursor := c })
  | (.ok none, c) => (.ok none, { m with cursor := c })
  | (.ok (some s), c) =>
    match triple? m.pattern s with
    | some t => (.ok (some t), { m with cursor := c })
    -- The cursor has one solution less to hand out, so the search ends.
    | none => next { m with cursor := c }
termination_by m.cursor.left
decreasing_by exact Cursor.next_lt _h

theorem next_lt {m m' : Matches σ} {t : Triple} (h : m.next = (.ok (some t), m')) :
    m'.cursor.left < m.cursor.left := by
  fun_induction next m with
  | case1 m e c hc => simp at h
  | case2 m c hc => simp at h
  | case3 m s c hc u hu =>
    simp only [Prod.mk.injEq] at h
    rw [← h.2]
    exact Cursor.next_lt hc
  | case4 m s c hc hu ih => exact Nat.lt_trans (ih h) (Cursor.next_lt hc)

/-- Every triple to the end, or the first failure. -/
def drain (m : Matches σ) : Except Error (List Triple) × Matches σ :=
  match _h : m.next with
  | (.error e, m) => (.error e, m)
  | (.ok none, m) => (.ok [], m)
  | (.ok (some t), m) =>
    let (r, m) := drain m
    (r.map (t :: ·), m)
termination_by m.cursor.left
decreasing_by exact next_lt _h

/-- At most so many triples, fewer if the stream ends before, or the first failure. -/
def take : Nat → Matches σ → Except Error (List Triple) × Matches σ
  | 0, m => (.ok [], m)
  | n + 1, m =>
    match m.next with
    | (.error e, m) => (.error e, m)
    | (.ok none, m) => (.ok [], m)
    | (.ok (some t), m) =>
      let (r, m) := take n m
      (r.map (t :: ·), m)

/-- Releases the stream early. -/
def close (m : Matches σ) : Matches σ :=
  { m with cursor := m.cursor.close }

end Matches

namespace Handle

variable {κ α : Type} [Connection κ]

/-- Opens an answer, uses it and puts the connection it leaves back. -/
def withRows (opening : Attempt CallError κ Rows)
    (use : LiveRows κ → Except Error α × LiveRows κ) : GraphAction κ α :=
  onConnection <| .of fun c =>
    match opening.on c with
    | (.error e, c) => (.error (.ofQuery e), c)
    | (.ok rows, c) =>
      let (r, live) := use ⟨c, rows⟩
      (r, live.connection)

/-- Opens a cursor on the answer to a statement, uses it and drops it. -/
def withCursor (text : String) (use : Cursor (LiveRows κ) → Except Error α × Cursor (LiveRows κ)) :
    GraphAction κ α := do
  let h ← get
  withRows (Connection.query text h.sendOptions) fun live =>
    let (r, c) := use (Cursor.ofStream live h.graphName)
    (r, c.drop)

/-- The first row of an answer, which is then released. -/
def firstRow (live : LiveRows κ) : Except Error (Option (List Cell)) × LiveRows κ :=
  let (r, live) := Connection.fetchRow.on live
  -- The answer is given back even when the reading of it failed.
  (r.mapError .ofQuery, (Connection.closeRows.on live).2)

/-- Every row of an answer, which is then released. -/
def allRows (live : LiveRows κ) : Except Error (List (List Cell)) × LiveRows κ :=
  let (r, live) := RowSource.drain live
  (r.mapError .ofQuery, (Connection.closeRows.on live).2)

/-- Opens the triples that match a pattern, uses them and releases what is left. -/
def findWith (p : Pattern)
    (use : Matches (LiveRows κ) → Except Error α × Matches (LiveRows κ)) : GraphAction κ α := do
  let h ← get
  withCursor (h.scope.enumerate p) fun c =>
    let (r, m) := use ⟨c, p⟩
    (r, m.cursor)

/-- The triples that match a pattern. -/
def find (p : Pattern) : GraphAction κ (List Triple) :=
  findWith p Matches.drain

/-- Whether any triple matches a pattern. -/
def contains (p : Pattern) : GraphAction κ Bool := do
  let h ← get
  let row ← withRows (Connection.query (h.scope.any p) h.sendOptions) firstRow
  return row.isSome

/-- Whether the graph holds a triple. -/
def holds (t : Triple) : GraphAction κ Bool :=
  contains (.ofTriple t)

/-- Binds parameters one after the other, the first one with this number. -/
def bindFrom (number : Nat) (statement : Prepared) :
    List Param → Attempt CallError κ Prepared
  | [] => pure statement
  | p :: ps => do
    let statement ← Connection.bind statement number p
    bindFrom (number + 1) statement ps

/-- The number in the first cell of a row; zero if there is none. -/
def countOf (row : Option (List Cell)) : Int :=
  ((row.bind List.head?).bind Cell.integer?).getD 0

/-- The number of triples in the graph. -/
def size : GraphAction κ Nat := do
  let h ← get
  let compiled := h.scope.count .any
  let opening : Attempt CallError κ Rows := do
    let statement ← Connection.prepare compiled.text h.sendOptions
    let statement ← bindFrom 1 statement compiled.params
    Connection.queryPrepared statement
  match countOf (← withRows opening firstRow) with
  | .ofNat n => return n
  | n => throw (.query (.negativeCount n))

/-- Whether the graph holds no triple. -/
def isEmpty : GraphAction κ Bool := do
  return (← size) == 0

/-- Opens the solutions of a query written by the caller, and uses them. -/
def selectWith (query : String) (lookup : String → Option Term)
    (use : Cursor (LiveRows κ) → Except Error α × Cursor (LiveRows κ)) : GraphAction κ α := do
  let h ← get
  withCursor (h.sentText query lookup) use

/-- The rows of a query written by the caller. -/
def queryRows (query : String) (lookup : String → Option Term) :
    GraphAction κ (List (List Cell)) := do
  let h ← get
  withRows (Connection.query (h.sentText query lookup) h.sendOptions) allRows

/-- The solutions of a query written by the caller. -/
def select (query : String) (lookup : String → Option Term) : GraphAction κ (List Solution) :=
  selectWith query lookup Cursor.drain

/-- Whether the first cell of any row is the number one. -/
def ask (query : String) (lookup : String → Option Term) : GraphAction κ Bool := do
  return (← queryRows query lookup).any fun row => row.head?.bind Cell.integer? == some 1

/-- The triple in the first three cells of a row, if they make one that may be stored. -/
def tripleOfRow? (row : List Cell) : Option Triple :=
  match row with
  | s :: p :: o :: _ => do
    let t : Triple := ⟨← s.term?, ← p.term?, ← o.term?⟩
    if t.isStorable then some t else none
  | _ => none

/-- The triples in the rows of a query written by the caller. Rows that make no triple are
passed over. -/
def construct (query : String) (lookup : String → Option Term) : GraphAction κ (List Triple) := do
  return (← queryRows query lookup).filterMap tripleOfRow?

end Handle

end QuadClient
