import QuadClient.Graph.Read

/-!
# What a cursor delivers

A cursor that hands out some solutions and then ends gives them all to whoever reads it to the
end. A reader of triples passes over the solutions that make no triple.
-/

namespace QuadClient

/-- Asked again and again, the cursor hands out these solutions and then ends. -/
inductive Cursor.Delivers {σ : Type} [RowSource σ] : Cursor σ → List Solution → Prop
  | done {c c' : Cursor σ} (h : c.next = (.ok none, c')) : Delivers c []
  | step {c c' : Cursor σ} {s : Solution} {ss : List Solution} (h : c.next = (.ok (some s), c'))
      (rest : Delivers c' ss) : Delivers c (s :: ss)

/-! ### What reading keeps of the stream -/

section Keeps

variable {σ : Type} [RowSource σ] {K : σ → Prop}

theorem Cursor.release_keeps (hclose : ∀ s, K s → K (RowSource.close.on s).2) {c : Cursor σ}
    (hc : K c.source) : K c.release.source := by
  unfold release
  split
  · exact hclose _ hc
  · exact hc

variable (hfetch : ∀ s, K s → K (RowSource.fetchRow.on s).2)
  (hclose : ∀ s, K s → K (RowSource.close.on s).2)

include hfetch hclose

/-- What is kept by asking for a row and by the release is kept by a look ahead, which does no
more. -/
theorem Cursor.hasMore_keeps {c : Cursor σ} (hc : K c.source) : K c.hasMore.2.source := by
  have hrow := hfetch c.source hc
  unfold hasMore
  split
  · exact hc
  · split
    · split
      · -- A row came. At the end and after a failure the stream is released as well.
        next h => rwa [h] at hrow
      · next h =>
        rw [h] at hrow
        exact release_keeps hclose hrow
      · next h =>
        rw [h] at hrow
        exact release_keeps hclose hrow
    · exact hc

/-- To hand out a solution does not touch the stream beyond the look ahead. -/
theorem Cursor.next_keeps {c : Cursor σ} (hc : K c.source) : K c.next.2.source := by
  have hmore := c.hasMore_keeps hfetch hclose hc
  unfold next
  split
  · next h => rwa [h] at hmore
  · next h =>
    rw [h] at hmore
    -- A solution waits, or none is left.
    split
    · exact hmore
    · exact hmore

/-- Reading to the end keeps what each step keeps. -/
theorem Cursor.drain_keeps {c : Cursor σ} (hc : K c.source) : K c.drain.2.source := by
  fun_induction drain c with
  | case1 c e d hd =>
    have h := c.next_keeps hfetch hclose hc
    rwa [hd] at h
  | case2 c d hd =>
    have h := c.next_keeps hfetch hclose hc
    rwa [hd] at h
  | case3 c s d hd r u hr ih =>
    have h := c.next_keeps hfetch hclose hc
    rw [hd] at h
    have hu := ih h
    rwa [hr] at hu

theorem Matches.next_keeps {m : Matches σ} (hm : K m.cursor.source) :
    K m.next.2.cursor.source := by
  fun_induction next m with
  | case1 m e c hc =>
    have h := m.cursor.next_keeps hfetch hclose hm
    rwa [hc] at h
  | case2 m c hc =>
    have h := m.cursor.next_keeps hfetch hclose hm
    rwa [hc] at h
  | case3 m s c hc t ht =>
    have h := m.cursor.next_keeps hfetch hclose hm
    rwa [hc] at h
  -- The solution makes no triple: the search goes on from the cursor that it leaves.
  | case4 m s c hc ht ih =>
    have h := m.cursor.next_keeps hfetch hclose hm
    rw [hc] at h
    exact ih h

theorem Matches.drain_keeps {m : Matches σ} (hm : K m.cursor.source) :
    K m.drain.2.cursor.source := by
  fun_induction drain m with
  | case1 m e n hn =>
    have h := m.next_keeps hfetch hclose hm
    rwa [hn] at h
  | case2 m n hn =>
    have h := m.next_keeps hfetch hclose hm
    rwa [hn] at h
  | case3 m t n hn r u hr ih =>
    have h := m.next_keeps hfetch hclose hm
    rw [hn] at h
    have hu := ih h
    rwa [hr] at hu

end Keeps

/-! ### Reading to the end -/

namespace Cursor

variable {σ : Type} [RowSource σ]

/-- At the end nothing more is handed out. -/
theorem drain_of_end {c c' : Cursor σ} (h : c.next = (.ok none, c')) :
    c.drain = (.ok [], c') := by
  rw [drain]
  split
  · next hn => rw [h] at hn; cases hn
  · next hn => rw [h] at hn; cases hn; rfl
  · next hn => rw [h] at hn; cases hn

/-- A solution that is handed out stands in front of those that follow. -/
theorem drain_of_solution {c c' : Cursor σ} {s : Solution} (h : c.next = (.ok (some s), c')) :
    c.drain = (c'.drain.1.map (s :: ·), c'.drain.2) := by
  rw [drain]
  split
  · next hn => rw [h] at hn; cases hn
  · next hn => rw [h] at hn; cases hn
  · next hn => rw [h] at hn; cases hn; rfl

/-- Reading to the end gives the solutions in their order. -/
theorem drain_of_delivers {c : Cursor σ} {ss : List Solution} (h : c.Delivers ss) :
    c.drain.1 = .ok ss := by
  induction h with
  | done h => rw [drain_of_end h]
  | step h rest ih =>
    rw [drain_of_solution h, ih]
    rfl

end Cursor

namespace Matches

variable {σ : Type} [RowSource σ] {p : Pattern}

theorem next_of_error {c c' : Cursor σ} {e : Error} (h : c.next = (.error e, c')) :
    (Matches.next ⟨c, p⟩) = (.error e, ⟨c', p⟩) := by
  rw [Matches.next]
  split
  · next hn => rw [h] at hn; cases hn; rfl
  · next hn => rw [h] at hn; cases hn
  · next hn => rw [h] at hn; cases hn

theorem next_of_end {c c' : Cursor σ} (h : c.next = (.ok none, c')) :
    (Matches.next ⟨c, p⟩) = (.ok none, ⟨c', p⟩) := by
  rw [Matches.next]
  split
  · next hn => rw [h] at hn; cases hn
  · next hn => rw [h] at hn; cases hn; rfl
  · next hn => rw [h] at hn; cases hn

/-- A solution that makes a triple is answered with. -/
theorem next_of_triple {c c' : Cursor σ} {s : Solution} {t : Triple}
    (h : c.next = (.ok (some s), c')) (ht : triple? p s = some t) :
    (Matches.next ⟨c, p⟩) = (.ok (some t), ⟨c', p⟩) := by
  rw [Matches.next]
  split
  · next hn => rw [h] at hn; cases hn
  · next hn => rw [h] at hn; cases hn
  · next hn =>
    rw [h] at hn
    cases hn
    simp only [ht]

/-- A solution that makes none is passed over: the search goes on as from the cursor behind it. -/
theorem next_of_none {c c' : Cursor σ} {s : Solution} (h : c.next = (.ok (some s), c'))
    (ht : triple? p s = none) : (Matches.next ⟨c, p⟩) = Matches.next ⟨c', p⟩ := by
  rw [Matches.next]
  split
  · next hn => rw [h] at hn; cases hn
  · next hn => rw [h] at hn; cases hn
  · next hn =>
    rw [h] at hn
    cases hn
    simp only [ht]

theorem drain_of_end {m m' : Matches σ} (h : m.next = (.ok none, m')) :
    m.drain = (.ok [], m') := by
  rw [drain]
  split
  · next hn => rw [h] at hn; cases hn
  · next hn => rw [h] at hn; cases hn; rfl
  · next hn => rw [h] at hn; cases hn

theorem drain_of_triple {m m' : Matches σ} {t : Triple} (h : m.next = (.ok (some t), m')) :
    m.drain = (m'.drain.1.map (t :: ·), m'.drain.2) := by
  rw [drain]
  split
  · next hn => rw [h] at hn; cases hn
  · next hn => rw [h] at hn; cases hn
  · next hn => rw [h] at hn; cases hn; rfl

theorem drain_of_error {m m' : Matches σ} {e : Error} (h : m.next = (.error e, m')) :
    m.drain = (.error e, m') := by
  rw [drain]
  split
  · next hn => rw [h] at hn; cases hn; rfl
  · next hn => rw [h] at hn; cases hn
  · next hn => rw [h] at hn; cases hn

/-- Reading to the end depends on the next triple alone. -/
theorem drain_congr {m m' : Matches σ} (h : m.next = m'.next) : m.drain = m'.drain := by
  rcases hn : m'.next with ⟨e | _ | t, n⟩
  · rw [drain_of_error (h.trans hn), drain_of_error hn]
  · rw [drain_of_end (h.trans hn), drain_of_end hn]
  · rw [drain_of_triple (h.trans hn), drain_of_triple hn]

/-- Reading to the end gives the triples of the solutions in their order. -/
theorem drain_of_delivers {c : Cursor σ} {ss : List Solution} (h : c.Delivers ss) :
    (Matches.drain ⟨c, p⟩).1 = .ok (ss.filterMap (triple? p)) := by
  induction h with
  | done h => rw [drain_of_end (next_of_end h), List.filterMap_nil]
  | step h rest ih =>
    rename_i s ss
    cases ht : triple? p s with
    | none =>
      -- It is passed over by the next triple as it is by the filter.
      rw [drain_congr (next_of_none h ht), ih, List.filterMap_cons_none ht]
    | some t =>
      rw [drain_of_triple (next_of_triple h ht), ih, List.filterMap_cons_some ht]
      rfl

end Matches

end QuadClient
