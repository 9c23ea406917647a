import QuadClient.Connection.Within
import QuadClient.Proofs.Cursor.Holding
import QuadClient.Proofs.Local.Calls

/-!
# Answers of the in-process store

The store counts the answers that it handed out and that were not released. That the releasing of
answers is told to fail changes nothing that a read can see. And a release takes one off the count
only if the answer was counted before; to say so, a guarded connection notes where it does not.
-/

namespace QuadClient

/-- A connection that counts its answers. -/
class CountsRows (κ : Type) where
  /-- the answers that were handed out and not released -/
  openRows : κ → Nat

open CountsRows (openRows)

namespace LocalConnection

instance : CountsRows LocalConnection := ⟨LocalConnection.openRows⟩

/-! ### What is counted -/

/-- A change of what is seen is no answer. -/
theorem openRows_setVisible (s : QuadStore) (c : LocalConnection) :
    (c.setVisible s).openRows = c.openRows := by
  obtain ⟨committed, working⟩ := c
  cases working with
  | none => rfl
  | some w => rfl

/-- The text is carried out before the answer is handed out, so the count is as it was. -/
theorem openRows_runQuery (text : String) (params : List Param) (c : LocalConnection) :
    (runQuery text params c).2.openRows = c.openRows := by
  unfold runQuery
  split
  · rfl
  · split
    · rfl
    · split
      · rfl
      · split
        · exact openRows_setVisible _ c
        · split
          · rfl
          · rfl

/-- A query that is answered hands out one answer more; one that fails hands out none. -/
theorem openRows_query (text : String) (options : SendOptions) (params : List Param)
    (c : LocalConnection) :
    (∃ e d, query text options params c = (.error e, d) ∧ d.openRows = c.openRows) ∨
      ∃ rows d, query text options params c = (.ok rows, d) ∧ rows.isOpen = true ∧
        d.openRows = c.openRows + 1 := by
  cases hopen : c.isClosed with
  | true => exact Or.inl ⟨_, _, whenOpen_of_closed hopen, rfl⟩
  | false =>
    have hcount := openRows_runQuery text params (c.record ⟨text, options, params⟩)
    rw [query, whenOpen_of_open hopen]
    rcases hrun : runQuery text params (c.record ⟨text, options, params⟩) with ⟨e | r, d⟩
    · rw [hrun] at hcount
      exact Or.inl ⟨e, d, rfl, hcount⟩
    · rw [hrun] at hcount
      -- The answer is counted once it is handed out.
      have hcounted : d.openRows + 1 = c.openRows + 1 := congrArg (· + 1) hcount
      exact Or.inr ⟨_, _, rfl, rfl, hcounted⟩

/-! ### Releases that fail -/

/-- The connection, told whether releasing an answer fails. -/
def closing (fails : Bool) (c : LocalConnection) : LocalConnection :=
  { c with faults := { c.faults with closeRows := fails } }

variable {fails : Bool}

theorem visible_closing (c : LocalConnection) : (c.closing fails).visible = c.visible := rfl

theorem setVisible_closing (s : QuadStore) (c : LocalConnection) :
    (c.closing fails).setVisible s = (c.setVisible s).closing fails := by
  obtain ⟨committed, working⟩ := c
  cases working with
  | none => rfl
  | some w => rfl

/-- The faults are not what a closed connection is refused for. -/
theorem whenOpen_closing {α : Type} {call : Call α}
    (h : ∀ c, call (closing fails c) = ((call c).1, closing fails (call c).2))
    (c : LocalConnection) :
    whenOpen call (c.closing fails) = ((whenOpen call c).1, (whenOpen call c).2.closing fails) := by
  have hclosed : (c.closing fails).isClosed = c.isClosed := rfl
  unfold whenOpen
  rw [hclosed]
  split
  · rfl
  · exact h c

/-- A query does not look at the fault of releases. -/
theorem runQuery_closing (text : String) (params : List Param) (c : LocalConnection) :
    runQuery text params (c.closing fails) =
      ((runQuery text params c).1, (runQuery text params c).2.closing fails) := by
  have hqueries : (c.closing fails).faults.queries = c.faults.queries := rfl
  have hscripted : (c.closing fails).scripted = c.scripted := rfl
  unfold runQuery
  rw [hqueries, visible_closing]
  split
  · rfl
  · split
    · rfl
    · split
      · rfl
      · split
        · exact congrArg (Prod.mk _) (setVisible_closing _ c)
        · rw [hscripted]
          split
          · rfl
          · rfl

/-- Nor does a query that is written down first. -/
theorem query_closing (text : String) (options : SendOptions) (params : List Param)
    (c : LocalConnection) :
    query text options params (c.closing fails) =
      ((query text options params c).1, (query text options params c).2.closing fails) := by
  refine whenOpen_closing (fun c => ?_) c
  have hrecord : (c.closing fails).record ⟨text, options, params⟩ =
      (c.record ⟨text, options, params⟩).closing fails := rfl
  rw [hrecord, runQuery_closing]
  rcases runQuery text params (c.record ⟨text, options, params⟩) with ⟨e | r, d⟩
  · rfl
  · rfl

/-- Whether releases fail is seen by no read. -/
theorem seenThrough_closing (fails : Bool) :
    Connection.SeenThrough (closing fails) where
  query text options c := query_closing text options [] c
  prepare text options c := whenOpen_closing (fun _ => rfl) c
  bind st number value c := by
    cases number with
    | zero => rfl
    | succ i => rfl
  queryPrepared st c := query_closing st.text st.options st.params c
  rows :=
    { columns := fun _ => rfl
      fetchRow := by
        rintro ⟨c, columns, rows, isOpen⟩
        cases isOpen with
        | false => rfl
        | true =>
          cases rows with
          | nil => rfl
          | cons row rest => rfl
      cancel := fun _ => rfl
      close := by
        rintro ⟨c, columns, rows, isOpen⟩
        cases isOpen with
        | false => rfl
        | true => rfl }

end LocalConnection

/-! ### Releases that are not counted -/

/-- A connection that notes whether an answer was ever released that was not counted. -/
structure Guarded where
  /-- the connection that does the work -/
  inner : LocalConnection
  /-- an answer was released while the count was zero -/
  underflow : Bool := false

namespace Guarded

/-- Every call passed on. -/
@[reducible] def passing : Connection Guarded :=
  .within inner fun inner g => { g with inner }

/-- Releases an answer, and notes if that takes one off a count of zero. -/
def closeRows (live : LiveRows Guarded) : Except CallError Unit × LiveRows Guarded :=
  let (r, next) := passing.closeRows.on live
  let uncounted := live.rows.isOpen && live.connection.inner.openRows == 0
  (r, { next with connection.underflow := live.connection.underflow || uncounted })

instance : Connection Guarded :=
  { passing with closeRows := .of closeRows }

instance : CountsRows Guarded := ⟨fun g => g.inner.openRows⟩

/-- The notes change nothing for a reader. -/
theorem seenThrough_inner : Connection.SeenThrough Guarded.inner where
  query _ _ _ := rfl
  prepare _ _ _ := rfl
  bind _ _ _ _ := rfl
  queryPrepared _ _ := rfl
  rows := ⟨fun _ => rfl, fun _ => rfl, fun _ => rfl, fun _ => rfl⟩

/-- So many answers are counted, and none was ever released uncounted. -/
structure Counts (n : Nat) (g : Guarded) : Prop where
  openRows : openRows g = n
  sound : g.underflow = false

/-- An answer that is read is counted beside so many others until it is released. -/
def Tallies (n : Nat) (live : LiveRows Guarded) : Prop :=
  live.connection.Counts (n + live.rows.isOpen.toNat)

variable {n : Nat} {live : LiveRows Guarded}

/-- To read a row releases nothing. -/
theorem fetchRow_tallies (h : Tallies n live) :
    Tallies n (RowSource.fetchRow.on live).2 ∧
      (RowSource.fetchRow.on live).2.rows.isOpen = live.rows.isOpen := by
  obtain ⟨g, columns, rows, isOpen⟩ := live
  cases isOpen with
  | false => exact ⟨⟨h.openRows, h.sound⟩, rfl⟩
  | true =>
    cases rows with
    | nil => exact ⟨⟨h.openRows, h.sound⟩, rfl⟩
    | cons row rest => exact ⟨⟨h.openRows, h.sound⟩, rfl⟩

/-- To cancel an answer drops its rows and does not release it. -/
theorem cancel_tallies (h : Tallies n live) :
    Tallies n (RowSource.cancel.on live).2 ∧
      (RowSource.cancel.on live).2.rows.isOpen = live.rows.isOpen :=
  ⟨⟨h.openRows, h.sound⟩, rfl⟩

/-- An answer that is still to be released is among those that are counted. -/
theorem close_tallies (h : Tallies n live) :
    Tallies n (RowSource.close.on live).2 ∧
      (RowSource.close.on live).2.rows.isOpen = false := by
  obtain ⟨⟨c, underflow⟩, columns, rows, isOpen⟩ := live
  have hsound : underflow = false := h.sound
  cases isOpen with
  -- The answer was released before, so the release takes nothing off.
  | false =>
    refine ⟨⟨h.openRows, ?_⟩, rfl⟩
    show (underflow || false) = false
    rw [hsound]
    rfl
  -- It is one of those that are counted, so the count is not zero.
  | true =>
    have hcount : c.openRows = n + 1 := h.openRows
    refine ⟨⟨?_, ?_⟩, rfl⟩
    · show c.openRows - 1 = n + 0
      omega
    · show (underflow || (true && c.openRows == 0)) = false
      rw [hsound, hcount]
      rfl

end Guarded

/-! ### Cursors on a guarded connection -/

open Guarded (Tallies)

namespace Cursor

/-- The answer of the cursor is counted beside so many others as long as the cursor holds it. -/
structure Tallies (n : Nat) (c : Cursor (LiveRows Guarded)) : Prop where
  isOpen : c.source.rows.isOpen = c.held
  tallies : Guarded.Tallies n c.source

variable {n : Nat} {c : Cursor (LiveRows Guarded)}

/-- A cursor that holds its answer is counted once, and one that does not is not counted. -/
theorem Tallies.openRows (h : c.Tallies n) :
    openRows c.source.connection = n + c.held.toNat := by
  rw [← h.isOpen]
  exact h.tallies.openRows

/-- The release of a cursor takes its answer off the count, if it holds it still. -/
theorem Tallies.release (h : c.Tallies n) : c.release.Tallies n := by
  obtain ⟨source, held, columns, graph, lookahead, delivered⟩ := c
  cases held with
  | false => exact h
  | true =>
    obtain ⟨hclosed, hopen⟩ := Guarded.close_tallies h.tallies
    exact ⟨hopen, hclosed⟩

theorem Tallies.close (h : c.Tallies n) : c.close.Tallies n :=
  Tallies.release (c := { c with lookahead := none }) ⟨h.isOpen, h.tallies⟩

/-- A cursor that is aborted is cancelled and then closed. -/
theorem Tallies.abort (h : c.Tallies n) : c.abort.Tallies n := by
  obtain ⟨source, held, columns, graph, lookahead, delivered⟩ := c
  cases held with
  | false => exact Tallies.close h
  | true =>
    obtain ⟨hcancelled, hopen⟩ := Guarded.cancel_tallies h.tallies
    exact Tallies.close (c := ⟨(RowSource.cancel.on source).2, true, columns, graph, lookahead,
      delivered⟩) ⟨hopen.trans h.isOpen, hcancelled⟩

/-- A look ahead keeps the count in step: at the end and on a failure the answer is released. -/
theorem Tallies.hasMore (h : c.Tallies n) : c.hasMore.2.Tallies n := by
  obtain ⟨source, held, columns, graph, lookahead, delivered⟩ := c
  cases lookahead with
  | some s => exact h
  | none =>
    cases held with
    | false => exact h
    | true =>
      obtain ⟨hfetched, hopen⟩ := Guarded.fetchRow_tallies h.tallies
      have hheld := hopen.trans h.isOpen
      unfold Cursor.hasMore
      simp only [Option.isSome_none, Bool.false_eq_true, if_false, if_true]
      rcases hfetch : RowSource.fetchRow.on source with ⟨e | _ | row, s⟩
      · rw [hfetch] at hfetched hheld
        exact Tallies.release (c := ⟨s, true, columns, graph, none, delivered⟩) ⟨hheld, hfetched⟩
      · rw [hfetch] at hfetched hheld
        exact Tallies.release (c := ⟨s, true, columns, graph, none, delivered⟩) ⟨hheld, hfetched⟩
      · rw [hfetch] at hfetched hheld
        exact ⟨hheld, hfetched⟩

/-- The next solution is taken from the look ahead. -/
theorem Tallies.next (h : c.Tallies n) : c.next.2.Tallies n := by
  have hmore := h.hasMore
  unfold Cursor.next
  rcases hlook : c.hasMore with ⟨e | b, d⟩
  · rw [hlook] at hmore
    exact hmore
  · rw [hlook] at hmore
    obtain ⟨source, held, columns, graph, lookahead, delivered⟩ := d
    cases lookahead with
    | none => exact hmore
    | some s => exact ⟨hmore.isOpen, hmore.tallies⟩

theorem Tallies.advance (h : c.Tallies n) : c.advance.2.Tallies n := by
  have hnext := h.next
  unfold Cursor.advance
  rcases htaken : c.next with ⟨e | _ | s, d⟩
  · rw [htaken] at hnext
    exact hnext
  · rw [htaken] at hnext
    exact hnext
  · rw [htaken] at hnext
    exact hnext

/-- Whatever is called on the cursor, its answer is counted as long as it holds it. -/
theorem Tallies.reply (h : c.Tallies n) (call : Call) : (c.reply call).2.Tallies n := by
  cases call with
  | hasMore => exact h.hasMore
  | next => exact h.next
  | advance => exact h.advance
  | close => exact h.close
  | abort => exact h.abort

end Cursor

namespace Matches

variable {n : Nat} {m : Matches (LiveRows Guarded)}

/-- The search passes over solutions without a triple, one look ahead after the other. -/
theorem next_tallies (h : m.cursor.Tallies n) : m.next.2.cursor.Tallies n := by
  have hnext := h.next
  fun_induction next m with
  | case1 m e c hc =>
    rw [hc] at hnext
    exact hnext
  | case2 m c hc =>
    rw [hc] at hnext
    exact hnext
  | case3 m s c hc t ht =>
    rw [hc] at hnext
    exact hnext
  | case4 m s c hc ht ih =>
    rw [hc] at hnext
    exact ih hnext hnext.next

theorem reply_tallies (h : m.cursor.Tallies n) (call : Call) :
    (m.reply call).2.cursor.Tallies n := by
  cases call with
  | next => exact next_tallies h
  | close => exact h.close

end Matches

end QuadClient
