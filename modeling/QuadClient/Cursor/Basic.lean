import QuadClient.Cursor.Stream
import QuadClient.Graph.Error
import QuadClient.Solution.Basic

/-!
# Cursors

A cursor reads solutions from a stream with one row of lookahead. It releases the stream as
soon as the stream runs dry or fails, when the cursor is closed, or when it is dropped,
whichever comes first, and never twice.
-/

namespace QuadClient

/-- A reader of solutions. -/
structure Cursor (σ : Type) where
  /-- the stream -/
  source : σ
  /-- the stream was not released yet -/
  held : Bool := true
  /-- the columns of the stream -/
  columns : List String
  /-- the graph every solution is bound to, if it has a name -/
  graph : Option Term
  /-- a solution fetched ahead -/
  lookahead : Option Solution := none
  /-- the solutions handed out so far -/
  delivered : Nat := 0

namespace Cursor

variable {σ : Type} [RowSource σ]

/-- The term of a graph name: none for the default graph and for a name that is no IRI. -/
def graphTerm (graphName : String) : Option Term :=
  if graphName = unnamedGraph then none
  else (Iri.parse graphName).toOption.map Term.iri

/-- A cursor on a stream that answers a query on a graph. -/
def ofStream (source : σ) (graphName : String) : Cursor σ :=
  { source := source
    columns := RowSource.columns source
    graph := graphTerm graphName }

omit [RowSource σ] in
/-- The variables of the columns, and the one of the graph if it has a name. -/
def names (c : Cursor σ) : List String :=
  if c.graph.isSome then c.columns ++ [Solution.graphColumn] else c.columns

/-- The stream is released and no solution waits. -/
def isClosed (c : Cursor σ) : Bool :=
  !c.held && c.lookahead.isNone

/-- Releases the stream if it is still held. A failure to close it is let go. -/
def release (c : Cursor σ) : Cursor σ :=
  if c.held then { c with source := (RowSource.close.on c.source).2, held := false } else c

/-- Fetches ahead if no solution waits. Says whether there is a next solution. -/
def hasMore (c : Cursor σ) : Except Error Bool × Cursor σ :=
  if c.lookahead.isSome then (.ok true, c)
  else if c.held then
    match RowSource.fetchRow.on c.source with
    | (.ok (some row), s) =>
      (.ok true, { c with source := s, lookahead := some (.ofRow c.columns row c.graph) })
    -- The end and a failure both end the use of the stream.
    | (.ok none, s) => (.ok false, release { c with source := s })
    | (.error e, s) => (.error (.ofQuery e), release { c with source := s })
  else (.ok false, c)

/-- The next solution, none at the end. -/
def next (c : Cursor σ) : Except Error (Option Solution) × Cursor σ :=
  match c.hasMore with
  | (.error e, c) => (.error e, c)
  | (.ok _, c) =>
    match c.lookahead with
    | some s => (.ok (some s), { c with lookahead := none, delivered := c.delivered + 1 })
    | none => (.ok none, c)

/-- The next solution; it is a failure to ask for one at the end. -/
def advance (c : Cursor σ) : Except Error Solution × Cursor σ :=
  match c.next with
  | (.error e, c) => (.error e, c)
  | (.ok (some s), c) => (.ok s, c)
  | (.ok none, c) => (.error .exhausted, c)

/-- Releases the stream and forgets a solution that waits. -/
def close (c : Cursor σ) : Cursor σ :=
  release { c with lookahead := none }

/-- Asks the stream to stop, if it is still held, and closes the cursor. -/
def abort (c : Cursor σ) : Cursor σ :=
  -- A stream that was released is not told to stop.
  close (if c.held then { c with source := (RowSource.cancel.on c.source).2 } else c)

/-- The end of a cursor's life: the stream, released. -/
def drop (c : Cursor σ) : σ :=
  c.release.source

/-- A bound on the solutions still to come. -/
def left (c : Cursor σ) : Nat :=
  (if c.lookahead.isSome then 1 else 0) + (if c.held then RowSource.left c.source else 0)

@[simp] theorem release_lookahead (c : Cursor σ) : c.release.lookahead = c.lookahead := by
  unfold release; split <;> rfl

@[simp] theorem release_held (c : Cursor σ) : c.release.held = false := by
  unfold release
  split
  · rfl
  · next h => simpa using h

theorem next_lt {c c' : Cursor σ} {s : Solution} (h : c.next = (.ok (some s), c')) :
    c'.left < c.left := by
  unfold next hasMore at h
  cases hl : c.lookahead with
  | some w =>
    simp only [hl, Option.isSome_some, if_true, Prod.mk.injEq] at h
    rw [← h.2]
    simp [left, hl]
  | none =>
    cases hh : c.held with
    | false => simp [hl, hh] at h
    | true =>
      rcases hn : RowSource.fetchRow.on c.source with ⟨_ | (_ | row), t⟩
      · simp [hl, hh, hn] at h
      · simp [hl, hh, hn] at h
      · simp only [hl, hh, hn, Option.isSome_none, Bool.false_eq_true, if_false, if_true,
          Prod.mk.injEq] at h
        rw [← h.2]
        simpa [left, hl, hh] using RowSource.left_lt _ _ _ hn

/-- Hands out every solution to the end, or up to the first failure. -/
def drain (c : Cursor σ) : Except Error (List Solution) × Cursor σ :=
  match _h : c.next with
  | (.error e, c) => (.error e, c)
  | (.ok none, c) => (.ok [], c)
  | (.ok (some s), c) =>
    let (r, c) := drain c
    (r.map (s :: ·), c)
termination_by c.left
decreasing_by exact next_lt _h

end Cursor

end QuadClient
