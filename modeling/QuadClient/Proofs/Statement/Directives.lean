import Mathlib.Data.List.Nodup
import QuadClient.Proofs.Statement.Body

/-!
# The order of the directives

A directive is put in behind those of its own rank and in front of those of a higher one, so a
block that is the stable sort of what was pushed so far stays one with every push. There is one
stable sort only, and where no two ranks are the same it does not depend on the order of the
pushes.
-/

namespace QuadClient

namespace Directive

/-! ### Stable sorts -/

/-- The directives of `source` by rank, those of one rank in the order of `source`. -/
structure IsStableSort (source sorted : List Directive) : Prop where
  /-- none is lost and none is there twice -/
  perm : sorted.Perm source
  /-- lower ranks stand in front -/
  ascending : sorted.Pairwise fun d e => d.rank ≤ e.rank
  /-- those of one rank keep their order -/
  stable : ∀ k, (sorted.filter fun d => d.rank = k) = source.filter fun d => d.rank = k

variable {source source' sorted sorted' : List Directive}

theorem perm_insert (d : Directive) (ds : List Directive) : (d.insert ds).Perm (d :: ds) := by
  induction ds with
  | nil => exact .refl _
  | cons e es ih =>
    rw [insert]
    split
    · exact .refl _
    · exact (ih.cons e).trans (.swap d e es)

/-- A directive put into a block of ascending ranks leaves the ranks ascending. -/
theorem ascending_insert (d : Directive) {ds : List Directive}
    (h : ds.Pairwise fun e f => e.rank ≤ f.rank) :
    (d.insert ds).Pairwise fun e f => e.rank ≤ f.rank := by
  induction ds with
  | nil => exact List.pairwise_singleton _ _
  | cons e es ih =>
    obtain ⟨hfirst, hrest⟩ := List.pairwise_cons.1 h
    rw [insert]
    split
    · next hlt =>
      refine List.pairwise_cons.2 ⟨fun f hf => ?_, h⟩
      rcases List.mem_cons.1 hf with rfl | hf
      · exact Nat.le_of_lt hlt
      · exact Nat.le_trans (Nat.le_of_lt hlt) (hfirst f hf)
    · next hle =>
      refine List.pairwise_cons.2 ⟨fun f hf => ?_, ih hrest⟩
      rcases mem_insert.1 hf with rfl | hf
      · exact Nat.le_of_not_lt hle
      · exact hfirst f hf

/-- Where ranks ascend, a directive is put in behind all of its own rank. -/
theorem filter_insert (d : Directive) {ds : List Directive}
    (h : ds.Pairwise fun e f => e.rank ≤ f.rank) (k : Nat) :
    ((d.insert ds).filter fun e => e.rank = k) = (ds ++ [d]).filter fun e => e.rank = k := by
  induction ds with
  | nil => rfl
  | cons e es ih =>
    obtain ⟨hfirst, hrest⟩ := List.pairwise_cons.1 h
    rw [insert]
    split
    · next hlt =>
      by_cases hd : d.rank = k
      · -- What follows has a higher rank.
        have hnone : ((e :: es).filter fun f => decide (f.rank = k)) = [] := by
          refine List.filter_eq_nil_iff.2 fun f hf => ?_
          have hlow : e.rank ≤ f.rank := by
            rcases List.mem_cons.1 hf with rfl | hf
            · exact Nat.le_refl _
            · exact hfirst f hf
          have hne : f.rank ≠ k := by omega
          simpa using hne
        rw [List.filter_append, hnone, List.filter_cons, hnone]
        simp [hd]
      · -- The new directive is not of rank `k`, so neither list shows it.
        simp [List.filter_cons, List.filter_append, hd]
    · rw [List.filter_cons, ih hrest, List.cons_append, List.filter_cons]

theorem IsStableSort.nil : IsStableSort [] [] :=
  ⟨.refl _, .nil, fun _ => rfl⟩

/-- One push: the block stays the stable sort of what was pushed. -/
theorem IsStableSort.insert (h : IsStableSort source sorted) (d : Directive) :
    IsStableSort (source ++ [d]) (d.insert sorted) where
  perm := by
    have hback : (d :: source).Perm (source ++ [d]) := (List.perm_append_singleton d source).symm
    exact (perm_insert d sorted).trans ((h.perm.cons d).trans hback)
  ascending := ascending_insert d h.ascending
  stable k := by
    rw [filter_insert d h.ascending k, List.filter_append, List.filter_append, h.stable k]

/-- Lists of ascending ranks that agree on every rank are the same. -/
theorem eq_of_filter_eq (h : sorted.Pairwise fun d e => d.rank ≤ e.rank)
    (h' : sorted'.Pairwise fun d e => d.rank ≤ e.rank)
    (heq : ∀ k, (sorted.filter fun d => d.rank = k) = sorted'.filter fun d => d.rank = k) :
    sorted = sorted' := by
  induction sorted generalizing sorted' with
  | nil =>
    cases sorted' with
    | nil => rfl
    | cons e es =>
      have hempty := heq e.rank
      simp at hempty
  | cons d ds ih =>
    cases sorted' with
    | nil =>
      have hempty := heq d.rank
      simp at hempty
    | cons e es =>
      obtain ⟨hd, hds⟩ := List.pairwise_cons.1 h
      obtain ⟨he, hes⟩ := List.pairwise_cons.1 h'
      have hmem {a : Directive} : a ∈ d :: ds ↔ a ∈ e :: es := by
        have := congrArg (a ∈ ·) (heq a.rank)
        simpa [List.mem_filter] using this
      -- Each of the two first ones stands somewhere in the other list.
      have hle : d.rank ≤ e.rank := by
        rcases List.mem_cons.1 (hmem.2 (List.mem_cons_self (a := e))) with rfl | hmem
        · exact Nat.le_refl _
        · exact hd e hmem
      have hge : e.rank ≤ d.rank := by
        rcases List.mem_cons.1 (hmem.1 (List.mem_cons_self (a := d))) with rfl | hmem
        · exact Nat.le_refl _
        · exact he d hmem
      have hrank : e.rank = d.rank := Nat.le_antisymm hge hle
      have hfirst := heq d.rank
      simp only [List.filter_cons, hrank, decide_true, if_true, List.cons.injEq] at hfirst
      obtain ⟨rfl, -⟩ := hfirst
      -- Taking the first one off both leaves lists that agree on every rank again.
      have hrest : ds = es := by
        refine ih hds hes fun k => ?_
        have hk := heq k
        simp only [List.filter_cons] at hk
        split at hk
        · exact (List.cons.inj hk).2
        · exact hk
      rw [hrest]

theorem IsStableSort.unique (h : IsStableSort source sorted) (h' : IsStableSort source sorted') :
    sorted = sorted' :=
  eq_of_filter_eq h.ascending h'.ascending fun k => (h.stable k).trans (h'.stable k).symm

/-- Where no two ranks are the same, the stable sort does not depend on the order of the source. -/
theorem IsStableSort.eq_of_perm (h : IsStableSort source sorted)
    (h' : IsStableSort source' sorted') (hperm : source'.Perm source)
    (hranks : (source.map rank).Nodup) : sorted' = sorted := by
  refine List.Perm.eq_of_pairwise (fun d e hd he hde hed => ?_) h'.ascending h.ascending
    (h'.perm.trans (hperm.trans h.perm.symm))
  have hd' : d ∈ source := hperm.mem_iff.1 (h'.perm.mem_iff.1 hd)
  have he' : e ∈ source := h.perm.mem_iff.1 he
  exact List.inj_on_of_nodup_map hranks hd' he' (Nat.le_antisymm hde hed)

/-- Sorting by merging gives the stable sort. -/
theorem isStableSort_mergeSort (source : List Directive) :
    IsStableSort source (source.mergeSort fun d e => d.rank ≤ e.rank) := by
  have htrans : ∀ d e f : Directive, decide (d.rank ≤ e.rank) = true →
      decide (e.rank ≤ f.rank) = true → decide (d.rank ≤ f.rank) = true := by
    intro d e f hde hef
    simp only [decide_eq_true_eq] at hde hef ⊢
    omega
  have htotal : ∀ d e : Directive,
      (decide (d.rank ≤ e.rank) || decide (e.rank ≤ d.rank)) = true := by
    intro d e
    simp only [Bool.or_eq_true, decide_eq_true_eq]
    omega
  have hperm := List.mergeSort_perm source fun d e => decide (d.rank ≤ e.rank)
  refine ⟨hperm, ?_, fun k => ?_⟩
  · simpa using List.pairwise_mergeSort htrans htotal source
  · have hsame : ∀ d ∈ source.filter fun d => decide (d.rank = k), d.rank = k := by
      intro d hd
      simpa using (List.mem_filter.1 hd).2
    have hascending : (source.filter fun d => decide (d.rank = k)).Pairwise
        fun d e => decide (d.rank ≤ e.rank) = true :=
      List.pairwise_of_forall_mem_list fun d hd e he => by simp [hsame d hd, hsame e he]
    -- A part of the source that ascends is found in the result in the same order.
    have hsub := List.sublist_mergeSort htrans htotal hascending List.filter_sublist
    have hsub' := hsub.filter fun d => decide (d.rank = k)
    rw [List.filter_filter] at hsub'
    simp only [Bool.and_self] at hsub'
    exact (hsub'.eq_of_length (hperm.filter _).length_eq.symm).symm

end Directive

namespace Statement

open Directive

/-! ### Calls -/

/-- A call that pushes directives. -/
inductive Call where
  /-- adds a directive -/
  | add (d : Directive)
  /-- adds the directives that a handle's options ask for -/
  | reading (o : ReadOptions)

/-- The directives that a call pushes, first one first. -/
def Call.pushed : Call → List Directive
  | add d => [d]
  | reading o => (o.ruleSet.map Directive.inference).toList ++ if o.sameAs then [.sameAs] else []

/-- The statement behind a call. -/
def Call.run (s : Statement) : Call → Statement
  | add d => s.add d
  | reading o => s.reading o

/-- The statement behind a row of calls. -/
def run (s : Statement) (calls : List Call) : Statement :=
  calls.foldl Call.run s

/-- The directives that a row of calls pushes. -/
def pushed (calls : List Call) : List Directive :=
  calls.flatMap Call.pushed

/-- One call, whatever it pushes. -/
theorem Call.run_sorts {s : Statement} {source : List Directive}
    (h : IsStableSort source s.directives) (call : Call) :
    IsStableSort (source ++ call.pushed) (call.run s).directives ∧
      (call.run s).body = s.body := by
  cases call with
  | add d => exact ⟨h.insert d, rfl⟩
  | reading o =>
    refine ⟨?_, body_reading s o⟩
    -- The options push a rule set, `same-as`, both or neither.
    rcases hrules : o.ruleSet with _ | rules <;> rcases hsame : o.sameAs with _ | _
    · simpa [Call.run, Call.pushed, Statement.reading, hrules, hsame] using h
    · simpa [Call.run, Call.pushed, Statement.reading, hrules, hsame, Statement.add]
        using h.insert .sameAs
    · simpa [Call.run, Call.pushed, Statement.reading, hrules, hsame, Statement.add]
        using h.insert (.inference rules)
    · simpa [Call.run, Call.pushed, Statement.reading, hrules, hsame, Statement.add]
        using (h.insert (.inference rules)).insert .sameAs

/-- A row of calls, by induction on the row. -/
theorem run_isStableSort {s : Statement} {source : List Directive}
    (h : IsStableSort source s.directives) (calls : List Call) :
    IsStableSort (source ++ pushed calls) (run s calls).directives ∧
      (run s calls).body = s.body := by
  induction calls generalizing s source with
  | nil => simpa [run, pushed] using h
  | cons call calls ih =>
    obtain ⟨hcall, hbody⟩ := call.run_sorts h
    obtain ⟨hcalls, hbody'⟩ := ih hcall
    refine ⟨?_, hbody'.trans hbody⟩
    simpa [run, pushed] using hcalls

/-- The lines of the block, one behind the other. -/
theorem block_eq_join (ds : List Directive) :
    block ds = String.join (ds.map fun d => d.text ++ "\n") := by
  induction ds with
  | nil => simp [block]
  | cons d ds ih =>
    rw [List.map_cons, String.join_cons, ← ih]
    rfl

/-- **The block is the stable sort of all pushes.** Whatever calls add directives to a statement,
in any order and any number of times, its directives are all that were pushed, by rank, those of
one rank in the order of their pushes; no other arrangement is a stable sort. Its text is the
header, the line of each directive in this order, and the body. So directives of distinct ranks
give the same text in whatever order they are pushed. -/
theorem run_ofBody_sorts (body : String) (calls : List Call) :
    IsStableSort (pushed calls) (run (ofBody body) calls).directives ∧
      (∀ ds, IsStableSort (pushed calls) ds → (run (ofBody body) calls).directives = ds) ∧
      (run (ofBody body) calls).directives =
        (pushed calls).mergeSort (fun d e => d.rank ≤ e.rank) ∧
      (run (ofBody body) calls).text = header ++
        String.join ((run (ofBody body) calls).directives.map fun d => d.text ++ "\n") ++ body ∧
      ∀ calls', (pushed calls').Perm (pushed calls) → ((pushed calls).map rank).Nodup →
        (run (ofBody body) calls').text = (run (ofBody body) calls).text := by
  have hsorts (calls : List Call) :
      IsStableSort (pushed calls) (run (ofBody body) calls).directives ∧
        (run (ofBody body) calls).body = body :=
    run_isStableSort (s := ofBody body) IsStableSort.nil calls
  have htext (calls : List Call) : (run (ofBody body) calls).text = header ++
      String.join ((run (ofBody body) calls).directives.map fun d => d.text ++ "\n") ++ body := by
    rw [text, block_eq_join, (hsorts calls).2]
  obtain ⟨hsort, -⟩ := hsorts calls
  refine ⟨hsort, fun ds hds => hsort.unique hds, hsort.unique (isStableSort_mergeSort _),
    htext calls, fun calls' hperm hranks => ?_⟩
  have hsame : (run (ofBody body) calls').directives = (run (ofBody body) calls).directives :=
    hsort.eq_of_perm (hsorts calls').1 hperm hranks
  rw [htext calls', htext calls, hsame]

example :
    (run (ofBody "select 1")
      [.add (.implicitGraph "urn:g"), .reading { ruleSet := some "r", sameAs := true },
        .add (.storage "a"), .add (.storage "b")]).directives =
      [.storage "a", .storage "b", .inference "r", .sameAs, .implicitGraph "urn:g"] := by
  decide

end Statement

end QuadClient
