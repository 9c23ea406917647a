import QuadClient.Rdf.Triple
import Std.Data.HashMap
import Std.Data.HashSet

/-!
# One graph of the store

The triples of a graph are kept twice: all of them in one set, and in a bucket for each
subject, so that a search for a subject does not look at the rest of the graph. Every
operation keeps the two in step.
-/

namespace QuadClient

/-- For each subject that occurs, the triples about it. -/
abbrev Buckets := Std.HashMap Term (Std.HashSet Triple)

namespace Buckets

/-- Adds a triple. -/
def insert (b : Buckets) (t : Triple) : Buckets :=
  b.alter t.subject fun bucket => some ((bucket.getD ∅).insert t)

/-- Takes a triple out; a bucket that becomes empty goes. -/
def erase (b : Buckets) (t : Triple) : Buckets :=
  b.alter t.subject fun bucket =>
    bucket.bind fun bucket =>
      -- A subject has a bucket exactly when a triple is about it.
      let bucket := bucket.erase t
      if bucket.isEmpty then none else some bucket

/-- No bucket is empty. -/
def NoneEmpty (b : Buckets) : Prop :=
  ∀ (s : Term) (bucket : Std.HashSet Triple), b[s]? = some bucket → bucket.isEmpty = false

theorem mem_getD_empty (s : Term) (t : Triple) :
    t ∈ (∅ : Buckets).getD s ∅ ↔ t ∈ (∅ : Std.HashSet Triple) ∧ t.subject = s := by
  simp

theorem noneEmpty_empty : NoneEmpty ∅ := by
  intro s bucket hb
  simp at hb

theorem mem_getD_insert {b : Buckets} {s : Term} {t u : Triple} :
    u ∈ (b.insert t).getD s ∅ ↔ (u = t ∧ t.subject = s) ∨ u ∈ b.getD s ∅ := by
  rw [insert, Std.HashMap.getD_alter]
  by_cases h : t.subject = s
  · subst h
    rw [if_pos (beq_self_eq_true _), ← Std.HashMap.getD_eq_getD_getElem?, Option.getD_some,
      Std.HashSet.mem_insert, beq_iff_eq]
    simp [eq_comm]
  · rw [if_neg (by simpa using h)]
    simp [h]

theorem mem_getD_erase {b : Buckets} {s : Term} {t u : Triple} :
    u ∈ (b.erase t).getD s ∅ ↔ (t.subject = s → u ≠ t) ∧ u ∈ b.getD s ∅ := by
  rw [erase, Std.HashMap.getD_alter]
  by_cases h : t.subject = s
  · subst h
    rw [if_pos (beq_self_eq_true _), Std.HashMap.getD_eq_getD_getElem?]
    cases b[t.subject]? with
    | none => simp
    | some bucket =>
      simp only [Option.bind_some, Option.getD_some, true_imp_iff]
      have hmem : u ∈ bucket.erase t ↔ u ≠ t ∧ u ∈ bucket := by
        rw [Std.HashSet.mem_erase, beq_eq_false_iff_ne, ne_comm]
      rw [← hmem]
      split
      · next hempty =>
        -- The bucket held the triple alone, or nothing.
        have hnot : u ∉ bucket.erase t := Std.HashSet.not_mem_of_isEmpty hempty
        exact iff_of_false (by simp) hnot
      · rfl
  · rw [if_neg (by simpa using h)]
    simp [h]

theorem NoneEmpty.insert {b : Buckets} (h : b.NoneEmpty) (t : Triple) :
    (b.insert t).NoneEmpty := by
  intro s bucket hb
  rw [Buckets.insert, Std.HashMap.getElem?_alter] at hb
  split at hb
  · rw [← Option.some.inj hb]
    simp
  · exact h s bucket hb

theorem NoneEmpty.erase {b : Buckets} (h : b.NoneEmpty) (t : Triple) :
    (b.erase t).NoneEmpty := by
  intro s bucket hb
  rw [Buckets.erase, Std.HashMap.getElem?_alter] at hb
  split at hb
  · obtain ⟨bucket', -, hb⟩ := Option.bind_eq_some_iff.1 hb
    dsimp only at hb
    split at hb
    · cases hb
    · next hne =>
      rw [← Option.some.inj hb]
      simpa using hne
  · exact h s bucket hb

end Buckets

/-- The triples of one graph. -/
structure Partition where
  /-- all of them -/
  triples : Std.HashSet Triple := ∅
  /-- for each subject that occurs, the triples about it -/
  about : Buckets := ∅
  /-- the bucket of a subject holds the triples about it -/
  mem_about : ∀ s t, t ∈ about.getD s ∅ ↔ t ∈ triples ∧ t.subject = s := by
    exact Buckets.mem_getD_empty
  /-- a subject without triples has no bucket -/
  noneEmpty : about.NoneEmpty := by exact Buckets.noneEmpty_empty

namespace Partition

/-- Adds a triple. -/
def insert (p : Partition) (t : Triple) : Partition where
  triples := p.triples.insert t
  about := p.about.insert t
  mem_about s u := by
    rw [Buckets.mem_getD_insert, p.mem_about, Std.HashSet.mem_insert, beq_iff_eq]
    constructor
    · rintro (⟨rfl, h⟩ | ⟨h, h'⟩)
      · exact ⟨Or.inl rfl, h⟩
      · exact ⟨Or.inr h, h'⟩
    · rintro ⟨rfl | h, h'⟩
      · exact Or.inl ⟨rfl, h'⟩
      · exact Or.inr ⟨h, h'⟩
  noneEmpty := p.noneEmpty.insert t

/-- Takes a triple out. -/
def erase (p : Partition) (t : Triple) : Partition where
  triples := p.triples.erase t
  about := p.about.erase t
  mem_about s u := by
    rw [Buckets.mem_getD_erase, p.mem_about, Std.HashSet.mem_erase, beq_eq_false_iff_ne]
    constructor
    · rintro ⟨hne, h, rfl⟩
      exact ⟨⟨fun e => hne (by rw [e]) e.symm, h⟩, rfl⟩
    · rintro ⟨⟨hne, h⟩, rfl⟩
      exact ⟨fun _ e => hne e.symm, h, rfl⟩
  noneEmpty := p.noneEmpty.erase t

/-- The triples that a pattern accepts, looked up by subject if the subject is given. -/
def matching (p : Partition) (pattern : Pattern) : List Triple :=
  match pattern.subject with
  | some subject => ((p.about.getD subject ∅).toList).filter pattern.accepts
  | none => p.triples.toList.filter pattern.accepts

/-- The number of triples. -/
def size (p : Partition) : Nat :=
  p.triples.size

instance : Membership Triple Partition := ⟨fun p t => t ∈ p.triples⟩

instance (t : Triple) (p : Partition) : Decidable (t ∈ p) :=
  inferInstanceAs (Decidable (t ∈ p.triples))

theorem mem_iff {p : Partition} {t : Triple} : t ∈ p ↔ t ∈ p.triples := Iff.rfl

@[simp] theorem notMem_empty (t : Triple) : t ∉ ({} : Partition) :=
  Std.HashSet.not_mem_empty

@[simp] theorem mem_insert {p : Partition} {t u : Triple} : u ∈ p.insert t ↔ u = t ∨ u ∈ p := by
  simp only [mem_iff, insert, Std.HashSet.mem_insert, beq_iff_eq]
  exact or_congr_left eq_comm

@[simp] theorem mem_erase {p : Partition} {t u : Triple} : u ∈ p.erase t ↔ u ≠ t ∧ u ∈ p := by
  simp only [mem_iff, erase, Std.HashSet.mem_erase, beq_eq_false_iff_ne, ne_eq]
  exact and_congr_left' (not_congr eq_comm)

/-- A search finds the triples that the pattern accepts, through the bucket of a subject as
well as without it. -/
@[simp] theorem mem_matching {p : Partition} {pattern : Pattern} {t : Triple} :
    t ∈ p.matching pattern ↔ t ∈ p ∧ pattern.accepts t = true := by
  unfold matching
  split
  · next subject hsubject =>
    rw [List.mem_filter, Std.HashSet.mem_toList, p.mem_about, and_assoc]
    refine and_congr_right fun _ => and_iff_right_of_imp fun h => ?_
    exact ((Pattern.accepts_iff.1 h).1 subject hsubject).symm
  · rw [List.mem_filter, Std.HashSet.mem_toList, mem_iff]

theorem nodup_toList (s : Std.HashSet Triple) : s.toList.Nodup :=
  s.distinct_toList.imp fun h => by simpa using h

theorem nodup_matching (p : Partition) (pattern : Pattern) : (p.matching pattern).Nodup := by
  unfold matching
  split
  · exact (nodup_toList _).filter _
  · exact (nodup_toList _).filter _

end Partition

end QuadClient
