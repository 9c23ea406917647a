import QuadClient.Proofs.Graph.Write

/-!
# Removing what matches

A pattern is removed in one of three ways: the graph is cleared, one triple is deleted through
parameters, or the matches are deleted by the text of the pattern. All three take the matches
out of the graph and leave everything else as it was, and none of them does half of that.
-/

namespace QuadClient

/-- What the pattern stands for is what is removed for it. The parameters of a full pattern and
the text of any other must give back the terms that were put into them. -/
def Pattern.Removable (p : Pattern) : Prop :=
  match p.triple? with
  | some t => ¬ t.object.IsUntaggedLangString
  | none => p.Legible ∧ ∀ t ∈ p.terms, t.FreeOfWhere

instance (p : Pattern) : Decidable p.Removable :=
  match h : p.triple? with
  | some t =>
    decidable_of_iff (¬ t.object.IsUntaggedLangString) (by rw [Pattern.Removable, h])
  | none =>
    decidable_of_iff (p.Legible ∧ ∀ t ∈ p.terms, t.FreeOfWhere) (by rw [Pattern.Removable, h])

namespace Pattern

variable {p : Pattern}

/-- A pattern without open slots accepts its triple alone. -/
theorem eq_ofTriple {t : Triple} (h : p.triple? = some t) : p = ofTriple t := by
  obtain ⟨s, pr, o⟩ := p
  cases s <;> cases pr <;> cases o <;> simp_all [triple?, ofTriple]
  subst h
  exact ⟨rfl, rfl, rfl⟩

theorem eq_any (h : p.isAny = true) : p = any := by
  obtain ⟨s, pr, o⟩ := p
  cases s <;> cases pr <;> cases o <;> simp_all [isAny, any]

end Pattern

/-- The change takes what matches a pattern out of a graph, and nothing else. -/
def Change.TakesOut (graph : String) (p : Pattern) (change : Change) : Prop :=
  ∀ s name t, (change.apply s).contains name t = true ↔
    s.contains name t = true ∧ ¬ (name = graph ∧ p.accepts t = true)

namespace Handle

variable {h : Handle LocalConnection} {p : Pattern}

/-- The change that a pattern is removed by: the graph is cleared, one triple is deleted, or the
change is the one that the text of the pattern asks for. -/
inductive RemovedBy (graph : String) (p : Pattern) (byText : Change) : Change → Prop
  | all (hany : p.isAny = true) : RemovedBy graph p byText (.clear graph)
  | one {t : Triple} (ht : p.triple? = some t) : RemovedBy graph p byText (.remove graph t.stored)
  | text (hnone : p.triple? = none) : RemovedBy graph p byText byText

/-- Removing a pattern fails and changes nothing, or makes one of the three changes. -/
theorem eraseMatching_removes {byText : Change}
    (htext : LocalConnection.changeOf (h.scope.erase p) [] = .ok byText ∨ p.triple? ≠ none) :
    (∃ error, (eraseMatching p).on h = (.error error, h)) ∨
      h.Accepts ∧ ∃ entry change, (eraseMatching p).on h = (.ok (), h.changed entry change) ∧
        RemovedBy h.graphName p byText change := by
  rw [eraseMatching, Attempt.on_bind, Attempt.on_get]
  dsimp only
  -- The ways part where the function parts: on the pattern that asks for nothing, then on the full
  -- one.
  split
  · next hany =>
    have hchange := LocalConnection.changeOf_clear h.graphName
    rcases sendWith_cases .delete hchange with hsend | ⟨ha, hsend⟩
    · exact Or.inl hsend
    · exact Or.inr ⟨ha, _, _, hsend, .all hany⟩
  · split
    · next t ht =>
      rcases sendOne_cases h .delete t with hsend | ⟨e, he, ha, hsend⟩
      · exact Or.inl hsend
      · exact Or.inr ⟨ha, _, _, hsend, .one ht⟩
    · next hnone =>
      -- Only here is the text of the pattern sent, so only here does it matter what it asks for.
      have hchange := htext.resolve_right fun hne => hne hnone
      rcases execute_cases .delete hchange with hsend | ⟨ha, hsend⟩
      · exact Or.inl hsend
      · exact Or.inr ⟨ha, _, _, hsend, .text hnone⟩

/-- Removing a pattern fails and changes nothing, or makes a change that takes its matches out. -/
theorem eraseMatching_changes (g : Iri) (hname : h.graphName = g.text) (hp : p.Removable) :
    (∃ error, (eraseMatching p).on h = (.error error, h)) ∨
      h.Accepts ∧ ∃ entry change, (eraseMatching p).on h = (.ok (), h.changed entry change) ∧
        change.TakesOut h.graphName p := by
  have htext : LocalConnection.changeOf (h.scope.erase p) [] = .ok (.sweep h.graphName p) ∨
      p.triple? ≠ none := by
    cases hnone : p.triple? with
    | some t => exact Or.inr nofun
    | none =>
      rw [Pattern.Removable, hnone] at hp
      have hscope : h.scope = ⟨g.text, h.options⟩ := by
        rw [← hname]
        rfl
      rw [hscope, hname]
      exact Or.inl (LocalConnection.changeOf_erase g h.options hp.1 hp.2 [])
  rcases eraseMatching_removes htext with hfail | ⟨ha, entry, change, hrun, hchange⟩
  · exact Or.inl hfail
  · refine Or.inr ⟨ha, entry, change, hrun, ?_⟩
    intro s name u
    cases hchange with
    | all hany =>
      -- Every triple of the graph matches.
      obtain rfl := Pattern.eq_any hany
      simp [Change.apply]
    | @one t ht =>
      -- The deletion has the stored form in its parameters, and that is the triple itself.
      rw [Pattern.Removable, ht] at hp
      obtain rfl := Pattern.eq_ofTriple ht
      rw [Triple.stored_of_not hp, Pattern.ofTriple_accepts_iff, eq_comm (a := t)]
      exact QuadStore.contains_remove
    | text => exact QuadStore.contains_sweep

/-- The handle after the matches of a pattern were taken out of its graph. -/
structure Removed (p : Pattern) (h h' : Handle LocalConnection) : Prop where
  serves : h'.Serves
  contains : ∀ name t, h'.visible.contains name t = true ↔
    h.visible.contains name t = true ∧ ¬ (name = h.graphName ∧ p.accepts t = true)

/-- A change that takes the matches out. -/
theorem removed_changed (hs : h.Serves) (entry : LogEntry) {change : Change}
    (hchange : ∀ name t, (change.apply h.visible).contains name t = true ↔
      h.visible.contains name t = true ∧ ¬ (name = h.graphName ∧ p.accepts t = true)) :
    h.Removed p (h.changed entry change) := by
  refine ⟨hs.changed entry change, ?_⟩
  intro name t
  rw [visible_changed]
  exact hchange name t

/-- Removing a pattern fails and changes nothing, or takes its matches out. -/
theorem eraseMatching_cases (hfaults : h.connection.faults = {}) (g : Iri)
    (hname : h.graphName = g.text) (hp : p.Removable) :
    (∃ error, (eraseMatching p).on h = (.error error, h)) ∨
      ∃ h', (eraseMatching p).on h = (.ok (), h') ∧ h.Removed p h' := by
  rcases eraseMatching_changes g hname hp with hfail | ⟨ha, entry, change, hrun, hchange⟩
  · exact Or.inl hfail
  · exact Or.inr ⟨_, hrun, removed_changed (ha.serves hfaults) entry (hchange h.visible)⟩

/-! ### Exactness -/

/-- Removing the pattern takes exactly its matches out of the graph of the handle when it
succeeds, and changes nothing when it fails. -/
def ErasesExactly (h : Handle LocalConnection) (p : Pattern) : Prop :=
  (∀ h', (eraseMatching p).on h = (.ok (), h') → ∀ name t,
    h'.visible.contains name t = true ↔
      h.visible.contains name t = true ∧ ¬ (name = h.graphName ∧ p.accepts t = true)) ∧
    ∀ error h', (eraseMatching p).on h = (.error error, h') → h' = h

/-- What the text of a pattern asks for is what is done, whatever was meant by it. -/
theorem eraseMatching_of_change (hs : h.Serves) (hany : p.isAny = false)
    (hnone : p.triple? = none) {change : Change}
    (hchange : LocalConnection.changeOf (h.scope.erase p) [] = .ok change) :
    (eraseMatching p).on h =
      (.ok (), h.changed ⟨h.scope.erase p, h.sendOptions, []⟩ change) := by
  rw [eraseMatching, Attempt.on_bind, Attempt.on_get]
  dsimp only
  rw [if_neg (by simp [hany]), hnone]
  exact execute_of_accepts hs.accepts .delete hchange

/-- A full pattern deletes the triple that its parameters stand for. -/
theorem eraseMatching_ofTriple (hs : h.Serves) {t : Triple} {e : TripleCode}
    (he : t.encode = .ok e) :
    (eraseMatching (.ofTriple t)).on h = (.ok (), h.written .delete t e) := by
  rw [eraseMatching, Attempt.on_bind, Attempt.on_get]
  exact sendOne_of_accepts hs.accepts .delete he

/-- A triple with this object. -/
def about (object : Literal) : Triple :=
  ⟨.iri ⟨"urn:s", by decide⟩, .iri ⟨"urn:p", by decide⟩, .literal object⟩

/-- A handle on a graph that holds the triple with this object and another one. -/
def holding (object : Literal) : Handle LocalConnection where
  connection := LocalConnection.seed "urn:g" [about object, about (.plain "x")] {}
  graphName := "urn:g"

theorem holding_serves (object : Literal) : (holding object).Serves := ⟨rfl, rfl, rfl⟩

/-- Whichever way a removable pattern is removed, it is removed exactly. -/
theorem eraseMatching_exact (h : Handle LocalConnection) (hfaults : h.connection.faults = {})
    (g : Iri) (hname : h.graphName = g.text) (p : Pattern) (hp : p.Removable) :
    h.ErasesExactly p := by
  -- A run fails or succeeds, so one half of the claim is about no run at all.
  rcases eraseMatching_cases hfaults g hname hp with ⟨e, hrun⟩ | ⟨h₁, hrun, hremoved⟩
  · refine ⟨?_, ?_⟩
    · intro h' hok
      rw [hrun] at hok
      cases hok
    · intro error h' herror
      rw [hrun] at herror
      cases herror
      rfl
  · refine ⟨?_, ?_⟩
    · intro h' hok
      rw [hrun] at hok
      cases hok
      exact hremoved.contains
    · intro error h' herror
      rw [hrun] at herror
      cases herror

/-- A quote inside a literal is no obstacle. -/
theorem eraseMatching_exact_quoted :
    let h := holding (.plain "it's")
    let p : Pattern := ⟨none, none, some (.literal (.plain "it's"))⟩
    h.connection.faults = {} ∧ p.Removable ∧ h.ErasesExactly p ∧
      ∃ h', (eraseMatching p).on h = (.ok (), h') := by
  intro h p
  have hp : p.Removable := by decide +kernel
  have hchange : LocalConnection.changeOf (h.scope.erase p) [] = .ok (.sweep "urn:g" p) := by
    decide +kernel
  exact ⟨rfl, hp, eraseMatching_exact h rfl ⟨"urn:g", by decide⟩ rfl p hp,
    _, eraseMatching_of_change (holding_serves _) rfl rfl hchange⟩

/-! ### Patterns that are misread -/

theorem not_erasesExactly_of_kept {h' : Handle LocalConnection}
    (hrun : (eraseMatching p).on h = (.ok (), h')) (t : Triple) (haccepts : p.accepts t = true)
    (hkept : h'.visible.contains h.graphName t = true) : ¬ h.ErasesExactly p :=
  fun hexact => ((hexact.1 h' hrun h.graphName t).1 hkept).2 ⟨rfl, haccepts⟩

/-- A removal is not exact if it loses a triple that is no match. -/
theorem not_erasesExactly_of_lost {h' : Handle LocalConnection}
    (hrun : (eraseMatching p).on h = (.ok (), h')) (t : Triple) (hrejects : p.accepts t = false)
    (hheld : h.visible.contains h.graphName t = true)
    (hlost : ¬ h'.visible.contains h.graphName t = true) : ¬ h.ErasesExactly p := by
  intro hexact
  refine hlost ((hexact.1 h' hrun h.graphName t).2 ⟨hheld, ?_⟩)
  rw [hrejects]
  simp

/-- The graph holds the two triples that it was begun with. -/
theorem contains_holding (object : Literal) (t : Triple) :
    (holding object).visible.contains "urn:g" t = true ↔
      t = about (.plain "x") ∨ t = about object := by
  show (((QuadStore.empty.insert "urn:g" (about object)).2.insert "urn:g"
    (about (.plain "x"))).2).contains "urn:g" t = true ↔ _
  simp

theorem holding_object (object : Literal) :
    (holding object).visible.contains "urn:g" (about object) = true :=
  (contains_holding object _).2 (Or.inr rfl)

/-- The reader finds no end of the literal, and no pattern in the text. -/
theorem not_erasesExactly_backslash :
    ¬ (holding (.plain "a\\")).ErasesExactly ⟨none, none, some (.literal (.plain "a\\"))⟩ := by
  have hchange : LocalConnection.changeOf ((holding (.plain "a\\")).scope.erase
      ⟨none, none, some (.literal (.plain "a\\"))⟩) [] = .ok .none := by decide +kernel
  refine not_erasesExactly_of_kept (eraseMatching_of_change (holding_serves _) rfl rfl hchange)
    (about (.plain "a\\")) (by decide) ?_
  rw [visible_changed]
  exact holding_object _

/-- The lines of the text are joined by a blank. -/
theorem not_erasesExactly_lineFeed :
    ¬ (holding (.plain "a\nb")).ErasesExactly ⟨none, none, some (.literal (.plain "a\nb"))⟩ := by
  have hchange : LocalConnection.changeOf ((holding (.plain "a\nb")).scope.erase
      ⟨none, none, some (.literal (.plain "a\nb"))⟩) [] =
        .ok (.sweep "urn:g" ⟨none, none, some (.literal (.plain "a b"))⟩) := by decide +kernel
  refine not_erasesExactly_of_kept (eraseMatching_of_change (holding_serves _) rfl rfl hchange)
    (about (.plain "a\nb")) (by decide) ?_
  rw [visible_changed]
  exact QuadStore.contains_sweep.2 ⟨holding_object _, by decide⟩

/-- The conditions are found inside the literal, and they accept every triple. -/
theorem not_erasesExactly_where :
    ¬ (holding (.plain "where \x7b ?s ?p ?o")).ErasesExactly
      ⟨none, none, some (.literal (.plain "where \x7b ?s ?p ?o"))⟩ := by
  have hchange : LocalConnection.changeOf ((holding (.plain "where \x7b ?s ?p ?o")).scope.erase
      ⟨none, none, some (.literal (.plain "where \x7b ?s ?p ?o"))⟩) [] =
        .ok (.sweep "urn:g" .any) := by decide +kernel
  have hother := (contains_holding (.plain "where \x7b ?s ?p ?o") _).2 (Or.inl rfl)
  refine not_erasesExactly_of_lost (eraseMatching_of_change (holding_serves _) rfl rfl hchange)
    (about (.plain "x")) (by decide) hother ?_
  rw [visible_changed]
  intro hkept
  exact (QuadStore.contains_sweep.1 hkept).2 ⟨rfl, rfl⟩

/-- The parameters are those of the plain literal. -/
theorem not_erasesExactly_untagged :
    ¬ (holding (.typed "a" .langString (by decide))).ErasesExactly
      (.ofTriple (about (.typed "a" .langString (by decide)))) := by
  obtain ⟨e, he⟩ : ∃ e, (about (.typed "a" .langString (by decide))).encode = .ok e := ⟨_, rfl⟩
  refine not_erasesExactly_of_kept (eraseMatching_ofTriple (holding_serves _) he)
    (about (.typed "a" .langString (by decide))) (by decide) ?_
  rw [visible_written]
  exact QuadStore.contains_remove.2 ⟨holding_object _, by decide⟩

/-- A backslash at the end of a literal, a line feed inside it and the opening of conditions
inside it make the text of a pattern ask for something else, and the literal that no parameter
tells from a plain one is not the one that is deleted. -/
theorem not_erasesExactly_misread :
    ¬ (holding (.plain "a\\")).ErasesExactly ⟨none, none, some (.literal (.plain "a\\"))⟩ ∧
      ¬ (holding (.plain "a\nb")).ErasesExactly ⟨none, none, some (.literal (.plain "a\nb"))⟩ ∧
      ¬ (holding (.plain "where \x7b ?s ?p ?o")).ErasesExactly
        ⟨none, none, some (.literal (.plain "where \x7b ?s ?p ?o"))⟩ ∧
      ¬ (holding (.typed "a" .langString (by decide))).ErasesExactly
        (.ofTriple (about (.typed "a" .langString (by decide)))) :=
  ⟨not_erasesExactly_backslash, not_erasesExactly_lineFeed, not_erasesExactly_where,
    not_erasesExactly_untagged⟩

end Handle

end QuadClient
