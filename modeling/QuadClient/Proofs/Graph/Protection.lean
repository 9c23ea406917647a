import QuadClient.Proofs.Graph.Read
import QuadClient.Proofs.Graph.Removal

/-!
# Settings that stay in their places

The name of the graph and the rule set of a handle stand in its statements as they are. A name
stays in its place if it holds no closing bracket and no line feed, and a rule set if it holds
no line feed: then every read is the one that was meant, and a removal changes no other graph.
A rule set that stays in its place is enough for the reads to change nothing.
Validation looks for quotes in the rule set only, so a valid setting may end its line or its
brackets early, and what follows is read as a statement.
-/

namespace QuadClient

/-- The change leaves every graph but one as it is. -/
def Change.Spares (graph : String) (change : Change) : Prop :=
  ∀ s name t, name ≠ graph → (change.apply s).contains name t = s.contains name t

namespace Change

variable {graph : String} {p : Pattern} {change : Change}

theorem spares_none (graph : String) : Change.none.Spares graph := fun _ _ _ _ => rfl

theorem spares_clear (graph : String) : (Change.clear graph).Spares graph := by
  intro s name t hne
  rw [Bool.eq_iff_iff]
  exact QuadStore.contains_dropGraph.trans (and_iff_left hne)

theorem spares_remove (graph : String) (t : Triple) : (Change.remove graph t).Spares graph := by
  intro s name u hne
  rw [Bool.eq_iff_iff]
  exact QuadStore.contains_remove.trans (and_iff_left fun h => hne h.1)

theorem spares_sweep (graph : String) (p : Pattern) : (Change.sweep graph p).Spares graph := by
  intro s name t hne
  rw [Bool.eq_iff_iff]
  exact QuadStore.contains_sweep.trans (and_iff_left fun h => hne h.1)

end Change

namespace Handle

variable {h : Handle LocalConnection} {p q : Pattern} {graph : String} {change byText : Change}

/-! ### Reads -/

/-- The reads for a pattern leave the triples as they are, whatever they answer. -/
structure ReadsOnly (h : Handle LocalConnection) (p : Pattern) : Prop where
  find : h.Alike ((Handle.find p).on h).2
  contains : h.Alike ((Handle.contains p).on h).2
  size : h.Alike ((Handle.size : GraphAction LocalConnection Nat).on h).2

/-- The name of the graph stands in the body of a search, and what a body opens with decides
what it is, however many lines the name has. -/
theorem readsOnly_of_ruleSet (hs : h.Serves)
    (hrules : ∀ rules, h.options.ruleSet = some rules → '\n' ∉ rules.toList) (p : Pattern) :
    h.ReadsOnly p where
  find := find_of_harmless hs fun _ htext => Scope.change_enumerate hrules htext
  contains := contains_of_harmless hs fun _ htext => Scope.change_any hrules htext
  size := by
    -- The name is no part of a count at all.
    obtain ⟨h', hh', hsize⟩ :=
      size_of_count hs (Request.ofText_count_in h.graphName hrules (List.forall_mem_nil _))
    rw [hsize]
    exact hh'

/-- The reads for a pattern are those of the pattern, in the scope of the handle and nowhere
else, and they leave the triples as they are. -/
structure ReadsInside (h : Handle LocalConnection) (p : Pattern) : Prop where
  enumerate : Request.ofText (h.scope.enumerate p) [] = .ok (.select h.readScope p none)
  any : Request.ofText (h.scope.any p) [] = .ok (.select h.readScope p (some 1))
  count : Request.ofText (h.scope.count .any).text (h.scope.count .any).params =
    .ok (.count h.readScope .any)
  find : ∃ h', h.Alike h' ∧ (Handle.find p).on h =
    (.ok ((h.hits p).filterMap fun hit => Matches.triple? p (h.solution p hit.2)), h')
  contains : ∃ h', h.Alike h' ∧ (Handle.contains p).on h = (.ok (!(h.hits p).isEmpty), h')
  size : ∃ h', h.Alike h' ∧
    (Handle.size : GraphAction LocalConnection Nat).on h = (.ok (h.hits .any).length, h')

/-- Behind settings that stay in their places each read is the one that was meant. -/
theorem Fenced.readsInside (hf : h.Fenced) (hs : h.Serves) (hp : p.Legible) : h.ReadsInside p where
  enumerate := hf.enumerate hp
  any := hf.any hp
  count := hf.count
  find := find_of_select hs (hf.enumerate hp)
  contains := contains_of_select hs (hf.any hp)
  size := size_of_count hs hf.count

/-- A name that is read out of a statement was enclosed in it. -/
theorem ReadsInside.enclosed (hr : h.ReadsInside p) (hscope : h.options.everyGraph = false) :
    Enclosed h.graphName := by
  have htext := hr.enumerate
  rw [readScope, if_neg (by simp [hscope])] at htext
  exact Request.enclosed_of_select htext

/-! ### Removals -/

/-- Removing the pattern leaves every graph but the handle's as it is, for the connection and
for the others. -/
def ErasesInside (h : Handle LocalConnection) (p : Pattern) : Prop :=
  ∀ name t, name ≠ h.graphName →
    ((eraseMatching p).on h).2.visible.contains name t = h.visible.contains name t ∧
      ((eraseMatching p).on h).2.connection.committed.contains name t =
        h.connection.committed.contains name t

/-- Whichever way a pattern is removed, the other graphs are spared if the text spares them. -/
theorem RemovedBy.spares (hchange : RemovedBy graph p byText change)
    (hbyText : byText.Spares graph) : change.Spares graph := by
  cases hchange with
  | all => exact Change.spares_clear graph
  | one => exact Change.spares_remove graph _
  | text => exact hbyText

/-- What is published is the store that the connection sees, or does not change. -/
theorem committed_changed (hchange : change.Spares graph) (entry : LogEntry) {name : String}
    (hname : name ≠ graph) (t : Triple) :
    (h.changed entry change).connection.committed.contains name t =
      h.connection.committed.contains name t := by
  rw [changed, LocalConnection.setVisible]
  -- Inside of a transaction the change is staged, and what is published is not touched.
  cases hworking : h.connection.working with
  | some s => simp [LocalConnection.record, hworking]
  | none =>
    simp only [LocalConnection.record, hworking]
    have hvisible : h.connection.visible = h.connection.committed := by
      rw [LocalConnection.visible, hworking]
      rfl
    rw [hvisible]
    exact hchange h.connection.committed name t hname

/-- The text of a pattern asks for nothing outside the graph of an enclosed name. -/
theorem exists_changeOf_erase (hname : Enclosed h.graphName) (hp : p.Legible) :
    ∃ change, LocalConnection.changeOf (h.scope.erase p) [] = .ok change ∧
      change.Spares h.graphName := by
  have hfeed := Request.feed_notMem_text fun t ht => (hp t ht).2
  -- A text that is not understood asks for nothing; one that is read as a removal names this
  -- graph.
  rcases Request.ofText_erase_in (o := h.options) hname hfeed [] with hother | ⟨q, herase⟩
  · exact ⟨.none, LocalConnection.changeOf_of_ofText hother, Change.spares_none _⟩
  · exact ⟨.sweep h.graphName q, LocalConnection.changeOf_of_ofText herase,
      Change.spares_sweep _ q⟩

/-- A removal under an enclosed name stays inside of the graph. -/
theorem eraseMatching_inside (hname : Enclosed h.graphName) (hp : p.Legible) :
    h.ErasesInside p := by
  intro name t hne
  obtain ⟨byText, hbyText, hspares⟩ := exists_changeOf_erase hname hp
  rcases eraseMatching_removes (Or.inl hbyText) with ⟨e, hrun⟩ | ⟨-, entry, change, hrun, hchange⟩
  · rw [hrun]
    exact ⟨rfl, rfl⟩
  · have hchanged := hchange.spares hspares
    rw [hrun, visible_changed]
    exact ⟨hchanged h.visible name t hne, committed_changed hchanged entry hne t⟩

/-! ### Settings -/

/-- A handle that is set up with settings on a connection without faults, and a pattern of IRIs
and blank nodes. With a rule set on one line the reads change nothing, and they are as they were
meant if and only if the name of the graph is enclosed or is not read. A removal under an
enclosed name changes no other graph, whatever the rule set. -/
theorem ofSettings_protected (c : LocalConnection) (hc : c.Serves) (s : Settings) (p : Pattern)
    (hp : p.NodesOnly) :
    let h := ofSettings c s
    ((∀ rules, s.options.ruleSet = some rules → '\n' ∉ rules.toList) →
        h.ReadsOnly p ∧
          (h.ReadsInside p ↔ (s.options.everyGraph = false → Enclosed s.graphName))) ∧
      (Enclosed s.graphName → h.ErasesInside p) := by
  intro h
  have hs : h.Serves := ⟨rfl, hc⟩
  refine ⟨fun hrules => ⟨readsOnly_of_ruleSet hs hrules p, ?_, ?_⟩, ?_⟩
  · intro hr hscope
    exact hr.enclosed hscope
  · -- Under a name that is enclosed, or not read, the statements are read as they were meant.
    intro hname
    have hf : h.Fenced := ⟨hname, hrules⟩
    exact hf.readsInside hs hp.legible
  · intro hname
    exact eraseMatching_inside hname hp.legible

/-- Quotes, blanks and words of the language do no harm in either place. -/
theorem ofSettings_protected_odd :
    let c : LocalConnection := {}
    let s : Settings :=
      { graphName := "x' where \x7b \"", options := { ruleSet := some "> limit 1" } }
    let p : Pattern := ⟨none, some (.iri ⟨"urn:p", by decide⟩), none⟩
    (c.Serves ∧ p.NodesOnly) ∧ s.validate = .ok () ∧
      (ofSettings c s).ReadsOnly p ∧ (ofSettings c s).ReadsInside p ∧
        (ofSettings c s).ErasesInside p := by
  intro c s p
  have hc : c.Serves := ⟨rfl, rfl⟩
  have hp : p.NodesOnly := by decide
  have hname : Enclosed s.graphName := by decide
  have hrules : ∀ rules, s.options.ruleSet = some rules → '\n' ∉ rules.toList := by
    intro rules hsome
    cases hsome
    decide
  obtain ⟨hreads, herases⟩ := ofSettings_protected c hc s p hp
  obtain ⟨honly, hinside⟩ := hreads hrules
  exact ⟨⟨hc, hp⟩, by decide, honly, hinside.2 fun _ => hname, herases hname⟩

/-! ### Settings that go on behind their places -/

/-- A search whose statement is read as a deletion makes it. -/
theorem visible_find_of_erase (hs : h.Serves)
    (htext : Request.ofText (h.scope.enumerate p) [] = .ok (.erase graph q)) :
    ((find p).on h).2.visible = (h.visible.sweep graph q).2 := by
  obtain ⟨c, hc, hquery⟩ := LocalConnection.query_erase hs.connection h.sendOptions htext
  obtain ⟨c', hc', hfind⟩ := find_of_answer hs hquery
  rw [hfind]
  exact hc'.visible.trans hc

/-- The rule set goes on behind the end of its line. -/
def overLine : Settings where
  graphName := "urn:g"
  options := { ruleSet := some "r\ndelete from graph <urn:b> where \x7b ?s ?p ?o" }

/-- The name of the graph goes on behind its closing bracket. -/
def overBracket : Settings where
  graphName := "urn:b>x"

/-- A handle with settings, on a connection to a store with one triple in another graph. -/
def beside (s : Settings) : Handle LocalConnection :=
  ofSettings (LocalConnection.seed "urn:b" [about (.plain "x")] {}) s

theorem beside_serves (s : Settings) : (beside s).Serves := ⟨rfl, rfl, rfl⟩

theorem contains_beside (s : Settings) :
    (beside s).visible.contains "urn:b" (about (.plain "x")) = true := by
  show ((QuadStore.empty.insert "urn:b" (about (.plain "x"))).2).contains _ _ = true
  simp

/-- The second line of the rule set is read as a deletion. -/
theorem find_overLine :
    ¬ ((find .any).on (beside overLine)).2.visible.contains "urn:b" (about (.plain "x")) = true := by
  have htext : Request.ofText ((beside overLine).scope.enumerate .any) [] =
      .ok (.erase "urn:b" .any) := by decide +kernel
  rw [visible_find_of_erase (beside_serves overLine) htext, QuadStore.contains_sweep]
  exact fun hkept => hkept.2 ⟨rfl, rfl⟩

/-- The deletion is read as one from the graph whose name ends at the first bracket. -/
theorem eraseMatching_overBracket :
    let p : Pattern := ⟨none, some (.iri ⟨"urn:p", by decide⟩), none⟩
    ¬ ((eraseMatching p).on (beside overBracket)).2.visible.contains "urn:b"
      (about (.plain "x")) = true := by
  intro p
  have hchange : LocalConnection.changeOf ((beside overBracket).scope.erase p) [] =
      .ok (.sweep "urn:b" p) := by decide +kernel
  rw [eraseMatching_of_change (beside_serves overBracket) rfl rfl hchange, visible_changed,
    Change.apply, QuadStore.contains_sweep]
  exact fun hkept => hkept.2 ⟨rfl, by decide⟩

/-- Both settings are valid. A search under the first and a removal under the second take a
triple out of a graph that the handle does not stand for. -/
theorem not_ofSettings_protected :
    let t := about (.plain "x")
    let p : Pattern := ⟨none, some (.iri ⟨"urn:p", by decide⟩), none⟩
    (overLine.validate = .ok () ∧ (beside overLine).visible.contains "urn:b" t = true ∧
        ¬ ((find .any).on (beside overLine)).2.visible.contains "urn:b" t = true) ∧
      overBracket.validate = .ok () ∧ (beside overBracket).visible.contains "urn:b" t = true ∧
        ¬ ((eraseMatching p).on (beside overBracket)).2.visible.contains "urn:b" t = true :=
  ⟨⟨by decide, contains_beside overLine, find_overLine⟩,
    by decide, contains_beside overBracket, eraseMatching_overBracket⟩

end Handle

end QuadClient
