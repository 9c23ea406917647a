import QuadClient.Cursor.Basic
import QuadClient.Proofs.Outcome

/-!
# Cursors seen through a view

Two streams may differ in what no reader is told: in what they write down, or in whether they can
be stopped and released without a failure. If the one, seen through a view, hands out what the
other does, then every call on a cursor over the one has the reply that it has over the other.
-/

namespace QuadClient

namespace RowSource

variable {σ τ : Type} [RowSource σ]

theorem drain_of_error {s t : σ} {e : CallError} (h : fetchRow.on s = (.error e, t)) :
    drain s = (.error e, t) := by
  rw [drain]
  split
  · next hn => rw [h] at hn; cases hn; rfl
  · next hn => rw [h] at hn; cases hn
  · next hn => rw [h] at hn; cases hn

/-- A stream that just ends gives no row. -/
theorem drain_of_end {s t : σ} (h : fetchRow.on s = (.ok none, t)) : drain s = (.ok [], t) := by
  rw [drain]
  split
  · next hn => rw [h] at hn; cases hn
  · next hn => rw [h] at hn; cases hn; rfl
  · next hn => rw [h] at hn; cases hn

/-- A row comes in front of those that are read behind it. -/
theorem drain_of_row {s t : σ} {row : List Cell} (h : fetchRow.on s = (.ok (some row), t)) :
    drain s = ((drain t).1.map (row :: ·), (drain t).2) := by
  rw [drain]
  split
  · next hn => rw [h] at hn; cases hn
  · next hn => rw [h] at hn; cases hn
  · next hn => rw [h] at hn; cases hn; rfl

variable [RowSource τ]

/-- Seen through the view, a stream is read, stopped and released as the other one. Whether the
stopping and the releasing report a failure may differ. -/
structure SeenThrough (view : σ → τ) : Prop where
  columns (s : σ) : columns (view s) = columns s
  fetchRow : (fetchRow (σ := σ)).LooksLike view fetchRow
  cancel (s : σ) : (cancel.on (view s)).2 = view (cancel.on s).2
  close (s : σ) : (close.on (view s)).2 = view (close.on s).2

/-- Rows read to the end through the view are those that are read without it. -/
theorem drain_through {view : σ → τ} (hv : SeenThrough view) (s : σ) :
    drain (view s) = ((drain s).1, view (drain s).2) := by
  have hrow := hv.fetchRow s
  fun_induction drain s with
  | case1 s e t ht =>
    rw [ht] at hrow
    exact drain_of_error hrow
  | case2 s t ht =>
    rw [ht] at hrow
    exact drain_of_end hrow
  | case3 s row t ht r u hr ih =>
    rw [ht] at hrow
    -- The rest is read from a stream that the view shows as well.
    rw [drain_of_row hrow, ih (hv.fetchRow t), hr]

end RowSource

namespace Cursor

variable {σ τ : Type}

/-- The same cursor over the stream that is seen. -/
def through (view : σ → τ) (c : Cursor σ) : Cursor τ :=
  ⟨view c.source, c.held, c.columns, c.graph, c.lookahead, c.delivered⟩

variable [RowSource σ] [RowSource τ] {view : σ → τ} (hv : RowSource.SeenThrough view)

include hv

theorem ofStream_through (source : σ) (graphName : String) :
    ofStream (view source) graphName = (ofStream source graphName).through view := by
  rw [ofStream, hv.columns]
  rfl

/-- A stream is released through the view if it is held, and left as it is otherwise. -/
theorem release_through (c : Cursor σ) : (c.through view).release = c.release.through view := by
  obtain ⟨source, held, columns, graph, lookahead, delivered⟩ := c
  cases held with
  | false => rfl
  | true =>
    show (⟨(RowSource.close.on (view source)).2, false, columns, graph, lookahead, delivered⟩ :
      Cursor τ) = _
    rw [hv.close]
    rfl

theorem close_through (c : Cursor σ) : (c.through view).close = c.close.through view :=
  release_through hv { c with lookahead := none }

/-- An abort asks the stream to stop through the view, and then releases it. -/
theorem abort_through (c : Cursor σ) : (c.through view).abort = c.abort.through view := by
  obtain ⟨source, held, columns, graph, lookahead, delivered⟩ := c
  cases held with
  | false => rfl
  | true =>
    show close (⟨(RowSource.cancel.on (view source)).2, true, columns, graph, lookahead,
      delivered⟩ : Cursor τ) = _
    rw [hv.cancel]
    exact close_through hv ⟨(RowSource.cancel.on source).2, true, columns, graph, lookahead,
      delivered⟩

theorem drop_through (c : Cursor σ) : (c.through view).drop = view c.drop := by
  rw [drop, release_through hv]
  rfl

/-- The look ahead finds the same solution, the same end or the same failure. -/
theorem hasMore_through (c : Cursor σ) :
    (c.through view).hasMore = (c.hasMore.1, c.hasMore.2.through view) := by
  obtain ⟨source, held, columns, graph, lookahead, delivered⟩ := c
  have hrow := hv.fetchRow source
  -- The stream is asked for a row only where it is held and no solution waits.
  cases lookahead with
  | some s => rfl
  | none =>
    cases held with
    | false => rfl
    | true =>
      have hrelease (s : σ) :=
        release_through hv (⟨s, true, columns, graph, none, delivered⟩ : Cursor σ)
      unfold hasMore through
      simp only [Option.isSome_none, Bool.false_eq_true, if_false, if_true, hrow]
      rcases RowSource.fetchRow.on source with ⟨e | _ | row, s⟩
      · -- At the end and after a failure the stream is released, which the view shows too.
        exact congrArg (Prod.mk _) (hrelease s)
      · exact congrArg (Prod.mk _) (hrelease s)
      · rfl

/-- The next solution is the one that was looked ahead to. -/
theorem next_through (c : Cursor σ) :
    (c.through view).next = (c.next.1, c.next.2.through view) := by
  unfold next
  rw [hasMore_through hv]
  rcases c.hasMore with ⟨e | b, source, held, columns, graph, _ | s, delivered⟩ <;> rfl

theorem advance_through (c : Cursor σ) :
    (c.through view).advance = (c.advance.1, c.advance.2.through view) := by
  unfold advance
  rw [next_through hv]
  rcases c.next with ⟨e | _ | s, d⟩ <;> rfl

end Cursor

end QuadClient
