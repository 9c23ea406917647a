import QuadClient.Graph.Read
import QuadClient.Local.Change
import QuadClient.Proofs.Coding.RoundTrip

/-!
# The row of a match

The row that a match is answered with is put together again with the pattern: the bound slots
come from the pattern, the open ones from the columns. A binding for the graph does not get in
the way, since no slot has its name.
-/

namespace QuadClient

/-- What is put under a name is found under it, and under other names what was there. -/
theorem Solution.lookup_put (name other : String) (t : Term) (bs : List (String × Term)) :
    (put name t bs).lookup other = if other = name then some t else bs.lookup other := by
  have hcons (k : String) (v : Term) (r : List (String × Term)) :
      ((k, v) :: r).lookup other = if other = k then some v else r.lookup other := by
    by_cases h : other = k
    · simp [h]
    · have hbeq : (other == k) = false := by simpa using h
      rw [List.lookup_cons, hbeq, if_neg h]
  induction bs with
  | nil => rw [put, hcons]
  | cons b r ih =>
    obtain ⟨k, v⟩ := b
    rw [put]
    -- The binding is replaced where it stands.
    by_cases hk : k = name
    · rw [if_pos hk, hcons, hcons, hk]
      by_cases h : other = name
      · rw [if_pos h, if_pos h]
      · rw [if_neg h, if_neg h, if_neg h]
    · -- It stands behind another name, and the induction is about the rest.
      rw [if_neg hk, hcons, hcons, ih]
      by_cases h : other = k
      · have hne : other ≠ name := fun e => hk (h.symm.trans e)
        rw [if_pos h, if_pos h, if_neg hne]
      · rw [if_neg h, if_neg h]

@[simp] theorem Solution.get?_bind (s : Solution) (name other : String) (t : Term) :
    (s.bind name t).get? other = if other = name then some t else s.get? other :=
  lookup_put name other t s.bindings

@[simp] theorem Solution.get?_empty (name : String) : Solution.empty.get? name = none := rfl

/-- A triple comes back from a store as it was. -/
structure Triple.Durable (t : Triple) : Prop where
  storable : t.isStorable = true
  object : ¬ t.object.IsUntaggedLangString

/-- What a store keeps of a triple comes back as it was. -/
theorem Triple.Durable.stored {t : Triple} (h : t.isStorable = true) : t.stored.Durable :=
  ⟨h, t.object.not_stored⟩

/-- The nodes of a coded triple are their own stored forms. -/
theorem Triple.nodes_stored {t : Triple} (h : t.isStorable = true) :
    t.subject.stored = t.subject ∧ t.predicate.stored = t.predicate := by
  obtain ⟨s, p, o⟩ := t
  simp only [Triple.isStorable, Bool.and_eq_true, Bool.not_eq_true'] at h
  constructor
  · cases s with
    | iri i => rfl
    | blank b => rfl
    | literal l => exact absurd h.1 (by simp [Term.isLiteral])
  · cases p with
    | iri i => rfl
    | blank b => exact absurd h.2 (by simp [Term.isIri])
    | literal l => exact absurd h.2 (by simp [Term.isIri])

/-- The row of a match binds each open slot to the term that the match has there. -/
theorem Solution.get?_ofRow (p : Pattern) (t : Triple) (graph : Option Term) :
    let s := ofRow (Request.columns p) (Request.row p t) graph
    (p.subject = none → s.get? "s" = some t.subject.stored) ∧
      (p.predicate = none → s.get? "p" = some t.predicate.stored) ∧
        (p.object = none → s.get? "o" = some t.object.stored) := by
  obtain ⟨ps, pp, po⟩ := p
  -- Each slot is open or bound, and with it one column is there or not.
  cases graph <;> cases ps <;> cases pp <;> cases po <;>
    simp [Request.columns, Request.row, ofRow, Cell.term?_ofTerm, graphColumn]

/-- The variables of the open slots of a pattern, each with the term that comes back for it. -/
def Pattern.bindings (p : Pattern) (t : Triple) : List (String × Term) :=
  (if p.subject.isNone then [("s", t.subject.stored)] else []) ++
    (if p.predicate.isNone then [("p", t.predicate.stored)] else []) ++
    (if p.object.isNone then [("o", t.object.stored)] else [])

/-- The row of a match binds the open slots and the graph, if that has a name, and no more. -/
theorem Solution.bindings_ofRow (p : Pattern) (t : Triple) (graph : Option Term) :
    (ofRow (Request.columns p) (Request.row p t) graph).bindings =
      p.bindings t ++ graph.toList.map (Prod.mk graphColumn) := by
  obtain ⟨ps, pp, po⟩ := p
  cases graph <;> cases ps <;> cases pp <;> cases po <;>
    simp [Request.columns, Request.row, ofRow, Cell.term?_ofTerm, graphColumn, Pattern.bindings,
      Solution.bind, put, empty]

namespace Matches

variable {p : Pattern} {t : Triple}

/-- A slot holds the term of the triple, or its variable does. -/
theorem slot_or {slot bound : Option Term} {u : Term} (hslot : ∀ v, slot = some v → v = u)
    (hopen : slot = none → bound = some u) : (slot <|> bound) = some u := by
  cases slot with
  | none => exact hopen rfl
  | some v => exact congrArg some (hslot v rfl)

/-- A solution makes the triple whose terms stand in the slots, bound or found, if that may be
stored. -/
theorem triple?_eq_some_iff (p : Pattern) (s : Solution) (t : Triple) :
    triple? p s = some t ↔
      (p.subject <|> s.get? "s") = some t.subject ∧
        (p.predicate <|> s.get? "p") = some t.predicate ∧
          (p.object <|> s.get? "o") = some t.object ∧ t.isStorable = true := by
  unfold triple?
  simp only [Option.bind_eq_bind, Option.bind_eq_some_iff]
  constructor
  · rintro ⟨subject, hs, predicate, hp, object, ho, h⟩
    split at h
    · next hstorable =>
      cases h
      exact ⟨hs, hp, ho, hstorable⟩
    · cases h
  · rintro ⟨hs, hp, ho, hstorable⟩
    exact ⟨t.subject, hs, t.predicate, hp, t.object, ho, if_pos hstorable⟩

/-- The triple that a pattern accepts is put together from the variables of its open slots. -/
theorem triple?_of_get {s : Solution} (ht : t.isStorable = true) (hp : p.accepts t = true)
    (hs : p.subject = none → s.get? "s" = some t.subject)
    (hpr : p.predicate = none → s.get? "p" = some t.predicate)
    (ho : p.object = none → s.get? "o" = some t.object) : triple? p s = some t := by
  obtain ⟨hsubject, hpredicate, hobject⟩ := Pattern.accepts_iff.1 hp
  rw [triple?_eq_some_iff]
  exact ⟨slot_or hsubject hs, slot_or hpredicate hpr, slot_or hobject ho, ht⟩

/-- The row of a match gives the match back. -/
theorem triple?_ofRow (ht : t.Durable) (hp : p.accepts t = true) (graph : Option Term) :
    triple? p (Solution.ofRow (Request.columns p) (Request.row p t) graph) = some t := by
  obtain ⟨hsubject, hpredicate⟩ := Triple.nodes_stored ht.storable
  obtain ⟨hs, hpr, ho⟩ := Solution.get?_ofRow p t graph
  rw [hsubject] at hs
  rw [hpredicate] at hpr
  rw [Term.stored_of_not ht.object] at ho
  exact triple?_of_get ht.storable hp hs hpr ho

end Matches

end QuadClient
