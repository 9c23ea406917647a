import Mathlib.Data.List.Nodup
import QuadClient.Store.Basic

/-!
# The contents of the store

A store is a set of triples for each name of a graph. Each operation is described by what the
store holds after it, and a query by the hits it lists: each of them once, and no others.
-/

namespace QuadClient

namespace Partition

/-- Erasing triples one by one leaves those that are not among them. -/
theorem mem_foldl_erase {doomed : List Triple} {p : Partition} {t : Triple} :
    t ∈ doomed.foldl Partition.erase p ↔ t ∉ doomed ∧ t ∈ p := by
  induction doomed generalizing p with
  | nil => simp
  | cons u rest ih =>
    rw [List.foldl_cons, ih, mem_erase, List.mem_cons, not_or]
    constructor
    · rintro ⟨hrest, hne, h⟩
      exact ⟨⟨hne, hrest⟩, h⟩
    · rintro ⟨⟨hne, hrest⟩, h⟩
      exact ⟨hrest, hne, h⟩

end Partition

namespace QuadStore

variable {s : QuadStore} {g g' : String} {t u : Triple} {p : Pattern}

/-! ### Operations -/

/-- A graph holds a triple if there is a partition for the graph that has it. -/
theorem contains_iff : s.contains g t = true ↔ ∃ p, s.graphs[g]? = some p ∧ t ∈ p := by
  rw [contains, Option.any_eq_true]
  rfl

@[simp] theorem contains_empty (g : String) (t : Triple) : empty.contains g t = false := by
  simp [contains, empty]

/-- A triple that is inserted is in its graph, and what was anywhere is there still. -/
@[simp] theorem contains_insert :
    (s.insert g t).2.contains g' u = true ↔ (g' = g ∧ u = t) ∨ s.contains g' u = true := by
  unfold insert
  split
  · next h =>
    -- The triple is in the graph already, so the store stays as it is.
    constructor
    · exact Or.inr
    · rintro (⟨rfl, rfl⟩ | h')
      · exact h
      · exact h'
  · simp only [contains_iff, Std.HashMap.getElem?_alter]
    by_cases hg : g = g'
    · subst hg
      simp only [beq_self_eq_true, if_true, Option.some.injEq, exists_eq_left', true_and,
        Partition.mem_insert]
      -- The graph may be a new one, which holds nothing else.
      refine or_congr_right ?_
      cases s.graphs[g]? with
      | none => simp
      | some q => simp
    · simp [hg, Ne.symm hg]

/-- A triple that is removed is gone from its graph, and from that graph alone. -/
@[simp] theorem contains_remove :
    (s.remove g t).2.contains g' u = true ↔ s.contains g' u = true ∧ ¬ (g' = g ∧ u = t) := by
  unfold remove
  split
  · simp only [contains_iff, Std.HashMap.getElem?_modify]
    by_cases hg : g = g'
    · subst hg
      cases s.graphs[g]? with
      | none => simp
      | some q => simp [and_comm]
    · simp [hg, Ne.symm hg]
  · next h =>
    -- There is nothing to remove, so nothing that is left is what should be gone.
    refine (and_iff_left_of_imp ?_).symm
    rintro h' ⟨rfl, rfl⟩
    exact h h'

/-- A graph that is dropped holds nothing any more. -/
@[simp] theorem contains_dropGraph :
    (s.dropGraph g).contains g' u = true ↔ s.contains g' u = true ∧ g' ≠ g := by
  simp only [contains_iff, dropGraph, Std.HashMap.getElem?_erase]
  by_cases hg : g = g'
  · simp [hg]
  · simp [hg, Ne.symm hg]

/-- What matches in a graph is what the graph holds and the pattern accepts. -/
theorem mem_matching :
    t ∈ s.matching g p ↔ s.contains g t = true ∧ p.accepts t = true := by
  unfold matching
  rw [contains_iff]
  cases s.graphs[g]? with
  | none => simp
  | some q => simp

/-- A sweep takes what matches out of one graph. -/
@[simp] theorem contains_sweep :
    (s.sweep g p).2.contains g' u = true ↔
      s.contains g' u = true ∧ ¬ (g' = g ∧ p.accepts u = true) := by
  have hdoomed := mem_matching (s := s) (g := g) (t := u) (p := p)
  simp only [sweep, contains_iff, Std.HashMap.getElem?_modify]
  by_cases hg : g = g'
  · subst hg
    rw [contains_iff] at hdoomed
    cases hq : s.graphs[g]? with
    | none => simp
    | some q =>
      rw [hq] at hdoomed
      simp only [Option.some.injEq, exists_eq_left'] at hdoomed
      simp only [beq_self_eq_true, if_true, Option.map_some, Option.some.injEq, exists_eq_left',
        Partition.mem_foldl_erase, hdoomed, true_and]
      constructor
      · rintro ⟨hnot, h⟩
        exact ⟨h, fun ha => hnot ⟨h, ha⟩⟩
      · rintro ⟨h, hnot⟩
        exact ⟨fun ha => hnot ha.2, h⟩
  · simp [hg, Ne.symm hg]

/-! ### Queries -/

/-- The name of a graph is in the scope of a query. -/
def InScope (scope : Option String) (g : String) : Prop :=
  ∀ name, scope = some name → g = name

theorem inScope_none (g : String) : InScope none g := by
  intro name h
  cases h

instance (scope : Option String) (g : String) : Decidable (InScope scope g) :=
  match scope with
  | none => isTrue (inScope_none g)
  | some name =>
    decidable_of_iff (g = name)
      ⟨fun h _ hname => h.trans (Option.some.inj hname), fun h => h name rfl⟩

/-- A hit is in scope, held by its graph, and accepted by the pattern. -/
theorem mem_query {scope : Option String} :
    (g, t) ∈ s.query scope p ↔
      InScope scope g ∧ s.contains g t = true ∧ p.accepts t = true := by
  cases scope with
  | some name =>
    simp only [query, List.mem_map, mem_matching, Prod.mk.injEq, InScope, Option.some.injEq]
    constructor
    · rintro ⟨u, h, rfl, rfl⟩
      exact ⟨fun _ e => e, h⟩
    · rintro ⟨hg, h⟩
      obtain rfl := hg name rfl
      exact ⟨t, h, rfl, rfl⟩
  | none =>
    simp only [query, List.mem_flatMap, Prod.exists, Std.HashMap.mem_toList_iff_getElem?_eq_some,
      List.mem_map, Partition.mem_matching, Prod.mk.injEq, InScope, reduceCtorEq, false_imp_iff,
      implies_true, true_and, contains_iff]
    constructor
    · rintro ⟨g, q, hq, u, ⟨hu, ha⟩, rfl, rfl⟩
      exact ⟨⟨q, hq, hu⟩, ha⟩
    · rintro ⟨⟨q, hq, hu⟩, ha⟩
      exact ⟨g, q, hq, t, ⟨hu, ha⟩, rfl, rfl⟩

/-- A hit is listed once for each graph that holds it. -/
theorem nodup_query (scope : Option String) : (s.query scope p).Nodup := by
  have hlabel (name : String) : Function.Injective (fun t : Triple => (name, t)) :=
    fun _ _ h => (Prod.mk.inj h).2
  cases scope with
  | some name =>
    refine List.Nodup.map (hlabel name) ?_
    unfold matching
    split
    · exact Partition.nodup_matching _ _
    · exact List.nodup_nil
  | none =>
    refine List.nodup_flatMap.2 ⟨?_, ?_⟩
    · rintro ⟨name, q⟩ -
      exact (Partition.nodup_matching q p).map (hlabel name)
    · -- Hits of two graphs differ in the name.
      refine s.graphs.distinct_keys_toList.imp ?_
      rintro ⟨name, q⟩ ⟨name', q'⟩ hne
      refine List.disjoint_left.2 ?_
      rintro ⟨g, t⟩ h h'
      obtain ⟨u, -, he⟩ := List.mem_map.1 h
      obtain ⟨u', -, he'⟩ := List.mem_map.1 h'
      have hname : name = name' := (Prod.mk.inj he).1.trans (Prod.mk.inj he').1.symm
      simp [hname] at hne

/-- The hits of a pattern in a scope: every triple in scope that the pattern accepts, once for
each graph that holds it, and nothing else. -/
structure Listing (s : QuadStore) (scope : Option String) (p : Pattern)
    (hits : List (String × Triple)) : Prop where
  nodup : hits.Nodup
  mem_iff : ∀ g t, (g, t) ∈ hits ↔ InScope scope g ∧ s.contains g t = true ∧ p.accepts t = true

theorem listing_query (s : QuadStore) (scope : Option String) (p : Pattern) :
    s.Listing scope p (s.query scope p) :=
  ⟨nodup_query scope, fun _ _ => mem_query⟩

end QuadStore

end QuadClient
