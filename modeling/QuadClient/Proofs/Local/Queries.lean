import QuadClient.Proofs.Cursor.Delivery
import QuadClient.Proofs.Local.Calls
import QuadClient.Proofs.Statement.ReadBack

/-!
# What the statements of the library read

A selection is answered with a row for each hit and a count with one row, and the answer leaves
the triples as they are. The rows of an answer are handed out in order to the end.
-/

namespace QuadClient

/-- Two connections hold the same triples, and both are as open and as free of faults. -/
structure LocalConnection.Alike (c c' : LocalConnection) : Prop where
  committed : c'.committed = c.committed
  working : c'.working = c.working
  autoCommit : c'.autoCommit = c.autoCommit
  faults : c'.faults = c.faults
  isClosed : c'.isClosed = c.isClosed

namespace LocalConnection

variable {c c' : LocalConnection}

theorem Alike.refl (c : LocalConnection) : c.Alike c := ⟨rfl, rfl, rfl, rfl, rfl⟩

theorem Alike.trans {c'' : LocalConnection} (h : c.Alike c') (h' : c'.Alike c'') :
    c.Alike c'' :=
  ⟨h'.committed.trans h.committed, h'.working.trans h.working, h'.autoCommit.trans h.autoCommit,
    h'.faults.trans h.faults, h'.isClosed.trans h.isClosed⟩

theorem Alike.visible (h : c.Alike c') : c'.visible = c.visible := by
  rw [LocalConnection.visible, LocalConnection.visible, h.working, h.committed]

theorem Alike.serves (h : c.Alike c') (hc : c.Serves) : c'.Serves :=
  ⟨h.faults.trans hc.faults, h.isClosed.trans hc.isOpen⟩

/-! ### Queries -/

/-- A request that changes nothing and has an answer of its own. -/
theorem query_of_serves (hc : c.Serves) {text : String} (options : SendOptions)
    {params : List Param} {request : Request} {r : ResultSet}
    (htext : Request.ofText text params = .ok request) (hchange : request.change params = .ok .none)
    (hanswer : request.answer? c.visible = some r) :
    ∃ c', query text options params c = (.ok ⟨r.columns, r.rows, true⟩, c') ∧ c.Alike c' := by
  have hfaults : (c.record ⟨text, options, params⟩).faults.queries = false := by
    rw [(hc.record _).faults]
  have hrun : runQuery text params (c.record ⟨text, options, params⟩) =
      (.ok r, c.record ⟨text, options, params⟩) := by
    -- The statement is written down, which is nothing that the answer depends on.
    simp only [runQuery, hfaults, htext, hchange, visible_record, hanswer, Change.apply]
    rw [← visible_record ⟨text, options, params⟩ c, setVisible_visible]
    rfl
  rw [query, whenOpen_of_open hc.isOpen, hrun]
  exact ⟨_, rfl, ⟨rfl, rfl, rfl, rfl, rfl⟩⟩

/-- A text that asks for no change is refused or answered, and nothing else happens. -/
theorem runQuery_of_harmless {text : String} {params : List Param}
    (hfaults : c.faults.queries = false)
    (hharmless : ∀ request, Request.ofText text params = .ok request →
      request.change params = .ok .none) :
    (∃ e, runQuery text params c = (.error e, c)) ∨
      ∃ r c', runQuery text params c = (.ok r, c') ∧ c.Alike c' := by
  rw [runQuery, hfaults]
  cases htext : Request.ofText text params with
  | error e => exact Or.inl ⟨e, rfl⟩
  | ok request =>
    simp only [hharmless request htext, Change.apply, setVisible_visible]
    cases request.answer? c.visible with
    | some r => exact Or.inr ⟨r, c, rfl, .refl c⟩
    | none =>
      cases c.scripted with
      -- A scripted answer is taken from its queue, and no triple is touched.
      | nil => exact Or.inr ⟨{}, c, rfl, .refl c⟩
      | cons r rest => exact Or.inr ⟨r, _, rfl, ⟨rfl, rfl, rfl, rfl, rfl⟩⟩

/-- A query that asks for no change is refused or answered, and leaves the connection alike. -/
theorem query_of_harmless (hc : c.Serves) {text : String} (options : SendOptions)
    {params : List Param} (hharmless : ∀ request, Request.ofText text params = .ok request →
      request.change params = .ok .none) :
    ∃ c', c.Alike c' ∧ ((∃ e, query text options params c = (.error e, c')) ∨
      ∃ columns rows, query text options params c = (.ok ⟨columns, rows, true⟩, c')) := by
  let d := c.record ⟨text, options, params⟩
  have halike : c.Alike d := ⟨rfl, rfl, rfl, rfl, rfl⟩
  have hfaults : d.faults.queries = false := by rw [(hc.record _).faults]
  rw [query, whenOpen_of_open hc.isOpen]
  rcases runQuery_of_harmless hfaults hharmless with ⟨e, hrun⟩ | ⟨r, d', hrun, hd'⟩
  · rw [hrun]
    exact ⟨d, halike, Or.inl ⟨e, rfl⟩⟩
  · rw [hrun]
    exact ⟨{ d' with openRows := d'.openRows + 1 },
      (halike.trans hd').trans ⟨rfl, rfl, rfl, rfl, rfl⟩, Or.inr ⟨r.columns, r.rows, rfl⟩⟩

/-- The answer to a selection. -/
theorem query_select (hc : c.Serves) {text : String} (options : SendOptions)
    {params : List Param} {scope : Option String} {p : Pattern} {limit : Option Nat}
    (htext : Request.ofText text params = .ok (.select scope p limit)) :
    ∃ c', c.Alike c' ∧ query text options params c =
      (.ok ⟨Request.columns p, ((c.visible.query scope p).take
        (limit.getD (c.visible.query scope p).length)).map fun hit => Request.row p hit.2, true⟩,
          c') := by
  have hanswer : (Request.select scope p limit).answer? c.visible =
      some ⟨Request.columns p, ((c.visible.query scope p).take
        (limit.getD (c.visible.query scope p).length)).map fun hit => Request.row p hit.2⟩ := by
    -- Without a limit all hits are taken.
    cases limit with
    | none => simp [Request.answer?]
    | some n => rfl
  obtain ⟨c', hquery, hc'⟩ := query_of_serves hc options htext rfl hanswer
  exact ⟨c', hc', hquery⟩

/-- The answer to a count. -/
theorem query_count (hc : c.Serves) {text : String} (options : SendOptions)
    {params : List Param} {scope : Option String} {p : Pattern}
    (htext : Request.ofText text params = .ok (.count scope p)) :
    ∃ c', c.Alike c' ∧ query text options params c =
      (.ok ⟨["count"], [[.integer (c.visible.query scope p).length]], true⟩, c') := by
  obtain ⟨c', hquery, hc'⟩ := query_of_serves hc options htext rfl rfl
  exact ⟨c', hc', hquery⟩

/-- A deletion that is sent as a query is made, and answered without rows. -/
theorem query_erase (hc : c.Serves) {text : String}
    (options : SendOptions) {params : List Param} {graph : String} {p : Pattern}
    (htext : Request.ofText text params = .ok (.erase graph p)) :
    ∃ c', c'.visible = (c.visible.sweep graph p).2 ∧
      query text options params c = (.ok ⟨[], [], true⟩, c') := by
  let swept := (c.record ⟨text, options, params⟩).setVisible (c.visible.sweep graph p).2
  have hfaults : (c.record ⟨text, options, params⟩).faults.queries = false := by
    rw [(hc.record _).faults]
  have hrun : runQuery text params (c.record ⟨text, options, params⟩) = (.ok {}, swept) := by
    simp only [runQuery, hfaults, htext, Request.change, Request.answer?, visible_record]
    rfl
  rw [query, whenOpen_of_open hc.isOpen, hrun]
  exact ⟨{ swept with openRows := swept.openRows + 1 }, visible_setVisible _ _, rfl⟩

/-- A text that asks for nothing the store knows has an empty answer, unless one is scripted. -/
theorem query_other (hc : c.Serves) {text : String} (options : SendOptions)
    {params : List Param} (htext : Request.ofText text params = .ok .other)
    (hscripted : c.scripted = []) :
    ∃ c', c.Alike c' ∧ query text options params c = (.ok ⟨[], [], true⟩, c') := by
  have hfaults : (c.record ⟨text, options, params⟩).faults.queries = false := by
    rw [(hc.record _).faults]
  have hempty : (c.record ⟨text, options, params⟩).scripted = [] := hscripted
  have hrun : runQuery text params (c.record ⟨text, options, params⟩) =
      (.ok {}, c.record ⟨text, options, params⟩) := by
    simp only [runQuery, hfaults, htext, Request.change, Request.answer?, hempty]
    rfl
  rw [query, whenOpen_of_open hc.isOpen, hrun]
  refine ⟨_, ?_, rfl⟩
  exact ⟨rfl, rfl, rfl, rfl, rfl⟩

/-! ### Rows -/

/-- The first row of an answer that was just handed out. -/
theorem firstRow_of_open (c : LocalConnection) (columns : List String)
    (rows : List (List Cell)) :
    ∃ live, Handle.firstRow ⟨c, ⟨columns, rows, true⟩⟩ = (.ok rows.head?, live) ∧
      c.Alike live.connection := by
  cases rows with
  | nil => exact ⟨_, rfl, ⟨rfl, rfl, rfl, rfl, rfl⟩⟩
  | cons row rows => exact ⟨_, rfl, ⟨rfl, rfl, rfl, rfl, rfl⟩⟩

/-- Reading the rows of an answer leaves the triples as they are. -/
theorem alike_fetchRow (live : LiveRows LocalConnection) (h : c.Alike live.connection) :
    c.Alike ((RowSource.fetchRow (σ := LiveRows LocalConnection)).on live).2.connection := by
  show c.Alike (fetchRow live).2.connection
  unfold fetchRow
  split
  · split
    · exact h
    · exact h
  · exact h

/-- Releasing an answer leaves the triples as they are. -/
theorem alike_closeRows (live : LiveRows LocalConnection) (h : c.Alike live.connection) :
    c.Alike ((RowSource.close (σ := LiveRows LocalConnection)).on live).2.connection := by
  refine h.trans ?_
  show live.connection.Alike (if live.rows.isOpen then
    { live.connection with openRows := live.connection.openRows - 1 } else live.connection)
  split
  · exact ⟨rfl, rfl, rfl, rfl, rfl⟩
  · exact .refl _

/-- A cursor on an answer hands out a solution for each row. -/
theorem delivers_of_open (c : LocalConnection) (columns : List String) (graph : Option Term)
    (rows : List (List Cell)) (n : Nat) :
    Cursor.Delivers
      { source := (⟨c, ⟨columns, rows, true⟩⟩ : LiveRows LocalConnection)
        columns, graph, delivered := n }
      (rows.map fun row => Solution.ofRow columns row graph) := by
  -- The rows are handed out one by one, and the cursor counts them as it goes.
  induction rows generalizing n with
  | nil => exact Cursor.Delivers.done rfl
  | cons row rows ih => exact Cursor.Delivers.step rfl (ih (n + 1))

end LocalConnection

end QuadClient
