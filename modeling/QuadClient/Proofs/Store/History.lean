import Mathlib.Data.Finset.Card
import QuadClient.Local.Change
import QuadClient.Proofs.Store.Contents

/-!
# The store without its index

Seen from outside, a store is a finite set of pairs of the name of a graph and a triple in it.
The index of the subjects, the partition into graphs and the order of a hash table are not to be
seen: after any history of changes the store gives the answers that the set gives when it is
scanned from end to end.
-/

namespace QuadClient

/-- The triples of all graphs, each with the name of its graph. -/
abbrev PlainStore := Finset (String × Triple)

/-- What a change reports. -/
inductive Report where
  /-- whether the triple was new, or was there -/
  | flag (b : Bool)
  /-- how many triples went -/
  | count (n : Nat)
  /-- nothing -/
  | done
  deriving DecidableEq

/-- The reports of changes that are made one after the other, and the state they lead to. -/
def history {σ : Type} (report : Change → σ → Report) (step : Change → σ → σ) :
    List Change → σ → List Report × σ
  | [], s => ([], s)
  | c :: cs, s =>
    let (rs, s') := history report step cs (step c s)
    (report c s :: rs, s')

/-- The graph that a change is about, if it is about one. -/
def Change.graph? : Change → Option String
  | .insert g _ | .remove g _ | .clear g | .sweep g _ => some g
  | .none => Option.none

/-- What a change of the store reports. -/
def Change.report (change : Change) (s : QuadStore) : Report :=
  match change with
  | .insert g t => .flag (s.insert g t).1
  | .remove g t => .flag (s.remove g t).1
  | .sweep g p => .count (s.sweep g p).1
  | .clear _ | .none => .done

namespace PlainStore

/-- What a change of the set reports. -/
def report (change : Change) (m : PlainStore) : Report :=
  match change with
  | .insert g t => .flag (decide ((g, t) ∉ m))
  | .remove g t => .flag (decide ((g, t) ∈ m))
  | .sweep g p => .count (m.filter fun q => q.1 = g ∧ p.accepts q.2 = true).card
  | .clear _ | .none => .done

/-- The set after a change. -/
def after (change : Change) (m : PlainStore) : PlainStore :=
  match change with
  | .insert g t => insert (g, t) m
  | .remove g t => m.erase (g, t)
  | .sweep g p => m.filter fun q => ¬ (q.1 = g ∧ p.accepts q.2 = true)
  | .clear g => m.filter fun q => q.1 ≠ g
  | .none => m

/-- The pairs in a scope that a pattern accepts. -/
def hits (m : PlainStore) (scope : Option String) (p : Pattern) : PlainStore :=
  m.filter fun q => (scope = none ∨ scope = some q.1) ∧ p.accepts q.2 = true

end PlainStore

/-- A partition is as large as the list of its triples is long. -/
theorem Partition.length_matching_any (q : Partition) : (q.matching .any).length = q.size := by
  have hall (l : List Triple) : l.filter Pattern.any.accepts = l :=
    List.filter_eq_self.2 fun t _ => Pattern.any_accepts t
  show (q.triples.toList.filter Pattern.any.accepts).length = q.triples.size
  rw [hall, Std.HashSet.length_toList]

namespace QuadStore

/-- The store holds the pairs of the set. -/
def Holds (s : QuadStore) (m : PlainStore) : Prop :=
  ∀ g t, s.contains g t = true ↔ (g, t) ∈ m

variable {s : QuadStore} {m : PlainStore} {g : String} {p : Pattern}

theorem holds_empty : empty.Holds ∅ := by
  intro g t
  simp

/-! ### Counting -/

/-- A list that has each element of a set once is as long as the set is large. -/
theorem length_eq_card {α : Type} [DecidableEq α] {l : List α} {f : Finset α} (hl : l.Nodup)
    (hmem : ∀ x, x ∈ l ↔ x ∈ f) : l.length = f.card := by
  have hf : l.toFinset = f := Finset.ext fun x => List.mem_toFinset.trans (hmem x)
  rw [← hf, List.toFinset_card_of_nodup hl]

/-- The hits of the store are those of the set. -/
theorem Holds.mem_hits (h : s.Holds m) (scope : Option String) (q : String × Triple) :
    q ∈ s.query scope p ↔ q ∈ PlainStore.hits m scope p := by
  obtain ⟨g, t⟩ := q
  have hscope : InScope scope g ↔ scope = none ∨ scope = some g := by
    cases scope with
    | none => simp [InScope]
    | some name => simp [InScope, eq_comm]
  rw [mem_query, PlainStore.hits, Finset.mem_filter, h g t, hscope]
  exact and_left_comm

theorem Holds.length_query (h : s.Holds m) (scope : Option String) (p : Pattern) :
    (s.query scope p).length = (PlainStore.hits m scope p).card :=
  length_eq_card (nodup_query scope) (h.mem_hits scope)

/-- The size of a graph is the number of the triples that a query of it lists. -/
theorem graphSize_eq_length (s : QuadStore) (g : String) :
    s.graphSize g = (s.query (some g) .any).length := by
  rw [graphSize, query, List.length_map, matching]
  split
  · exact (Partition.length_matching_any _).symm
  · rfl

/-- The size of the store is the number of the triples that a query of all graphs lists. -/
theorem size_eq_length (s : QuadStore) : s.size = (s.query none .any).length := by
  -- The sizes are added up from the left, so the sum is generalised over what it begins with.
  have hsum (l : List (String × Partition)) (n : Nat) :
      l.foldl (fun n q => n + q.2.size) n =
        n + (l.flatMap fun q => (q.2.matching .any).map (q.1, ·)).length := by
    induction l generalizing n with
    | nil => rfl
    | cons q l ih =>
      rw [List.foldl_cons, ih, List.flatMap_cons, List.length_append, List.length_map,
        Partition.length_matching_any, Nat.add_assoc]
  exact (hsum s.graphs.toList 0).trans (Nat.zero_add _)

/-! ### Changes -/

theorem Holds.contains_eq (h : s.Holds m) (g : String) (t : Triple) :
    s.contains g t = decide ((g, t) ∈ m) :=
  Bool.eq_iff_iff.2 ((h g t).trans decide_eq_true_iff.symm)

/-- An insertion reports whether the triple was new. -/
theorem fst_insert (s : QuadStore) (g : String) (t : Triple) :
    (s.insert g t).1 = !s.contains g t := by
  unfold insert
  split
  · next h => rw [h]; rfl
  · next h => rw [Bool.eq_false_of_not_eq_true h]; rfl

/-- A removal reports whether the triple was there. -/
theorem fst_remove (s : QuadStore) (g : String) (t : Triple) :
    (s.remove g t).1 = s.contains g t := by
  unfold remove
  split
  · next h => rw [h]
  · next h => rw [Bool.eq_false_of_not_eq_true h]

theorem fst_sweep (s : QuadStore) (g : String) (p : Pattern) :
    (s.sweep g p).1 = (s.query (some g) p).length :=
  (List.length_map _).symm

/-- A change of the store reports what the change of the set reports. -/
theorem Holds.report (h : s.Holds m) (change : Change) :
    change.report s = PlainStore.report change m := by
  cases change with
  | insert g t =>
    refine congrArg Report.flag ?_
    rw [fst_insert, h.contains_eq, decide_not]
  | remove g t =>
    refine congrArg Report.flag ?_
    rw [fst_remove, h.contains_eq]
  | sweep g p =>
    refine congrArg Report.count ?_
    rw [fst_sweep, h.length_query, PlainStore.hits]
    simp only [reduceCtorEq, false_or, Option.some.injEq, eq_comm]
  | clear g => rfl
  | none => rfl

/-- A change of the store leads to the pairs that the change of the set leads to. -/
theorem Holds.after (h : s.Holds m) (change : Change) :
    (change.apply s).Holds (PlainStore.after change m) := by
  intro g' u
  have hu := h g' u
  cases change with
  -- In each case the two sides say the same of a pair, the one as a store and the other as a set.
  | insert g t => simp [Change.apply, PlainStore.after, hu]
  | remove g t => simp [Change.apply, PlainStore.after, hu, and_comm]
  | sweep g p => simp [Change.apply, PlainStore.after, hu]
  | clear g => simp [Change.apply, PlainStore.after, hu]
  | none => exact hu

/-- A change leaves the other graphs as they are, with their index. -/
theorem graphs_apply_of_ne (s : QuadStore) {change : Change} (hg : change.graph? ≠ some g) :
    (change.apply s).graphs[g]? = s.graphs[g]? := by
  cases change with
  | insert g' t =>
    have hne : g' ≠ g := fun e => hg (congrArg some e)
    rw [Change.apply, insert]
    split
    · rfl
    · simp [Std.HashMap.getElem?_alter, hne]
  | remove g' t =>
    have hne : g' ≠ g := fun e => hg (congrArg some e)
    rw [Change.apply, remove]
    split
    · simp [Std.HashMap.getElem?_modify, hne]
    · rfl
  | sweep g' p =>
    have hne : g' ≠ g := fun e => hg (congrArg some e)
    simp [Change.apply, sweep, Std.HashMap.getElem?_modify, hne]
  | clear g' =>
    have hne : g' ≠ g := fun e => hg (congrArg some e)
    simp [Change.apply, dropGraph, Std.HashMap.getElem?_erase, hne]
  | none => rfl

/-! ### Histories -/

/-- After the same changes the reports are the same, and the store holds the pairs of the set. -/
theorem Holds.history (h : s.Holds m) (changes : List Change) :
    (QuadClient.history Change.report Change.apply changes s).1 =
        (QuadClient.history PlainStore.report PlainStore.after changes m).1 ∧
      (QuadClient.history Change.report Change.apply changes s).2.Holds
        (QuadClient.history PlainStore.report PlainStore.after changes m).2 := by
  induction changes generalizing s m with
  | nil => exact ⟨rfl, h⟩
  | cons c cs ih =>
    obtain ⟨hreports, hholds⟩ := ih (h.after c)
    exact ⟨congrArg₂ List.cons (h.report c) hreports, hholds⟩

/-- The store gives the answers of the set, and its index is in step with the set. -/
structure Agrees (s : QuadStore) (m : PlainStore) : Prop where
  /-- the bucket of a subject holds the triples of the graph that are about it -/
  mem_bucket : ∀ (g : String) (q : Partition), s.graphs[g]? = some q →
    ∀ (subject : Term) (t : Triple),
      t ∈ q.about.getD subject ∅ ↔ (g, t) ∈ m ∧ t.subject = subject
  /-- a bucket holds some triple -/
  bucket_nonempty : ∀ (g : String) (q : Partition), s.graphs[g]? = some q →
    ∀ (subject : Term) (bucket : Std.HashSet Triple),
      q.about[subject]? = some bucket → ∃ t, t ∈ bucket
  contains_eq : ∀ g t, s.contains g t = decide ((g, t) ∈ m)
  graphSize_eq : ∀ g, s.graphSize g = (m.filter fun q => q.1 = g).card
  size_eq : s.size = m.card
  isEmpty_eq : s.isEmpty = decide (m = ∅)
  nodup_query : ∀ scope p, (s.query scope p).Nodup
  query_eq : ∀ scope p, (s.query scope p).toFinset = PlainStore.hits m scope p

/-- A store that holds the pairs of a set gives the answers of the set. -/
theorem Holds.agrees (h : s.Holds m) : s.Agrees m := by
  have hany (scope : Option String) :
      (s.query scope .any).length = (m.filter fun q => scope = none ∨ scope = some q.1).card := by
    rw [h.length_query]
    simp [PlainStore.hits]
  have hsize : s.size = m.card := by
    rw [size_eq_length, hany]
    simp
  refine ⟨?_, ?_, h.contains_eq, ?_, hsize, ?_, fun scope _ => nodup_query scope, ?_⟩
  · -- The index of a graph is in step with its partition, and the partition with the set.
    intro g q hq subject t
    rw [q.mem_about, ← h g t, contains_iff]
    refine and_congr_left fun _ => ⟨fun ht => ⟨q, hq, ht⟩, ?_⟩
    rintro ⟨q', hq', ht⟩
    obtain rfl := Option.some.inj (hq.symm.trans hq')
    exact ht
  · intro g q _ subject bucket hbucket
    exact Std.HashSet.isEmpty_eq_false_iff_exists_mem.1 (q.noneEmpty subject bucket hbucket)
  · -- A size is the length of a list of hits, and that list has each pair once.
    intro g
    rw [graphSize_eq_length, hany]
    simp [eq_comm]
  · rw [isEmpty, hsize, Bool.eq_iff_iff]
    simp
  · intro scope p
    exact Finset.ext fun q => List.mem_toFinset.trans (h.mem_hits scope q)

/-- After any history of changes of the empty store, every report and every answer is the one of
the plain set, and a further change leaves the graphs that it is not about as they are. -/
theorem history_agrees (changes : List Change) :
    let store := history Change.report Change.apply changes empty
    let plain := history PlainStore.report PlainStore.after changes ∅
    store.1 = plain.1 ∧ store.2.Agrees plain.2 ∧
      ∀ (change : Change) (g : String), change.graph? ≠ some g →
        (change.apply store.2).graphs[g]? = store.2.graphs[g]? := by
  intro store plain
  obtain ⟨hreports, hholds⟩ := holds_empty.history changes
  exact ⟨hreports, hholds.agrees, fun _ _ hg => graphs_apply_of_ne _ hg⟩

end QuadStore

end QuadClient
