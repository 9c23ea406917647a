import QuadClient.Proofs.Graph.Read
import QuadClient.Proofs.Graph.Removal
import QuadClient.Proofs.Statement.InlineText

/-!
# Reading one's own writes

A triple that was added is found, whichever of its slots a search is given, and one that was
deleted is not. A write has the triple in its parameters and a read has it in its text, so a
search for the object depends on the text being read back, and a search that leaves the object
open depends on the parameters.
-/

namespace QuadClient

/-! ### Stored forms -/

namespace Pattern

/-- The pattern that is read in the text of a pattern. -/
def stored (p : Pattern) : Pattern :=
  { p with object := p.object.map Term.stored }

/-- A search for the triple by this pattern gives the triple back: a bound object is read in
the text of the search, and an open one is read from the store. -/
def Recovers (p : Pattern) (t : Triple) : Prop :=
  match p.object with
  | some _ => t.object.Closed ∧ t.object.OneLine
  | none => ¬ t.object.IsUntaggedLangString

variable {p : Pattern} {t : Triple}

/-- A term and its stored form are written alike, so the text does not tell the two patterns
apart. -/
theorem text_stored (p : Pattern) : p.stored.text = p.text := by
  obtain ⟨s, pr, o⟩ := p
  cases o with
  | none => rfl
  | some o =>
    show _ ++ _ ++ _ ++ _ ++ o.stored.inline = _
    rw [Term.inline_stored]
    rfl

/-- A pattern that accepts a triple is read as one that accepts its stored form. -/
theorem accepts_stored (h : p.accepts t = true) : p.stored.accepts t.stored = true := by
  obtain ⟨hs, hpr, ho⟩ := accepts_iff.1 h
  refine accepts_iff.2 ⟨hs, hpr, ?_⟩
  intro u hu
  obtain ⟨v, hv, rfl⟩ := Option.map_eq_some_iff.1 hu
  rw [ho v hv]
  rfl

/-- A pattern that accepts a coded triple is read in its text, if the object is. -/
theorem legible_stored (ht : t.isStorable = true) (hp : p.accepts t = true)
    (hobject : p.object.isSome = true → t.object.Closed ∧ t.object.OneLine) :
    p.stored.Legible := by
  obtain ⟨hs, hpr, ho⟩ := accepts_iff.1 hp
  simp only [Triple.isStorable, Bool.and_eq_true, Bool.not_eq_true'] at ht
  -- A node is not a literal, and whatever stands inside of it is read back.
  have hnode {u : Term} (hu : u.isLiteral = false) : u.Readable ∧ u.OneLine := by
    cases u with
    | iri i => exact ⟨trivial, trivial⟩
    | blank b => exact ⟨trivial, trivial⟩
    | literal l => cases hu
  have hpredicate : t.predicate.isLiteral = false := by
    cases hterm : t.predicate with
    | iri i => rfl
    | blank b => rfl
    | literal l =>
      rw [hterm] at ht
      cases ht.2
  intro u hu
  simp only [terms, stored, List.mem_append, Option.mem_toList] at hu
  rcases hu with (hu | hu) | hu
  · rw [hs u hu]
    exact hnode ht.1
  · rw [hpr u hu]
    exact hnode hpredicate
  · -- The object may be a literal, and that it is read back is what is assumed of it.
    obtain ⟨v, hv, rfl⟩ := Option.map_eq_some_iff.1 hu
    obtain ⟨hclosed, hline⟩ := hobject (by rw [hv]; rfl)
    rw [ho v hv]
    exact ⟨Term.readable_stored hclosed, Term.oneLine_stored hline⟩

end Pattern

/-- The row of the stored form gives the triple back, whose object the pattern has if the store
has not. -/
theorem Matches.triple?_ofRow_stored {p : Pattern} {t : Triple} (ht : t.isStorable = true)
    (hp : p.accepts t = true) (hopen : p.object = none → ¬ t.object.IsUntaggedLangString)
    (graph : Option Term) :
    Matches.triple? p (Solution.ofRow (Request.columns p.stored)
      (Request.row p.stored t.stored) graph) = some t := by
  obtain ⟨hsubject, hpredicate⟩ := Triple.nodes_stored ht
  obtain ⟨hs, hpr, ho⟩ := Solution.get?_ofRow p.stored t.stored graph
  refine triple?_of_get ht hp ?_ ?_ ?_
  · -- Each open slot is filled from the row, and the slots that are not open have the terms
    -- already.
    intro hnone
    rw [hs hnone]
    exact congrArg some hsubject
  · intro hnone
    rw [hpr hnone]
    exact congrArg some hpredicate
  · -- Only the object can lose something on its way into the store.
    intro hnone
    have htag := hopen hnone
    have hstored : p.stored.object = none := by rw [Pattern.stored, hnone]; rfl
    rw [ho hstored, Triple.stored_of_not htag, Term.stored_of_not htag]

namespace Handle

variable {h : Handle LocalConnection} {t : Triple}

/-! ### Reads of one triple -/

/-- A triple that the handle's graph stores is found by each pattern that recovers it. -/
theorem mem_find (hs : h.Serves) (hr : h.Readable) (hgraph : h.options.everyGraph = false)
    (ht : t.isStorable = true) (hcontains : h.visible.contains h.graphName t.stored = true)
    {p : Pattern} (hp : p.accepts t = true) (hrecovers : p.Recovers t) :
    ∃ ts, ((find p).on h).1 = .ok ts ∧ t ∈ ts := by
  have hobject : p.object.isSome = true → t.object.Closed ∧ t.object.OneLine := by
    intro hsome
    obtain ⟨u, hu⟩ := Option.isSome_iff_exists.1 hsome
    rwa [Pattern.Recovers, hu] at hrecovers
  have hopen : p.object = none → ¬ t.object.IsUntaggedLangString := by
    intro hnone
    rwa [Pattern.Recovers, hnone] at hrecovers
  obtain ⟨h', -, hfind⟩ :=
    find_of_text hs hr (Pattern.legible_stored ht hp hobject) p.text_stored.symm
  -- A handle that reads one graph has its own graph in scope, and no other.
  have hscope : QuadStore.InScope h.readScope h.graphName := by
    intro name hname
    rw [readScope, hgraph] at hname
    exact Option.some.inj hname
  have hhit : (h.graphName, t.stored) ∈ h.hits p.stored :=
    QuadStore.mem_query.2 ⟨hscope, hcontains, Pattern.accepts_stored hp⟩
  refine ⟨_, by rw [hfind], List.mem_filterMap.2 ⟨(h.graphName, t.stored), hhit, ?_⟩⟩
  exact Matches.triple?_ofRow_stored ht hp hopen _

/-- The question for a triple is whether the handle's graph stores it. -/
theorem holds_of_serves (hs : h.Serves) (hr : h.Readable) (hgraph : h.options.everyGraph = false)
    (ht : t.isStorable = true) (hobject : t.object.Closed ∧ t.object.OneLine) :
    ((holds t).on h).1 = .ok (h.visible.contains h.graphName t.stored) := by
  have haccepts : (Pattern.ofTriple t).accepts t = true := Pattern.ofTriple_accepts_iff.2 rfl
  obtain ⟨h', -, hcontains⟩ := contains_of_text hs hr
    (Pattern.legible_stored ht haccepts fun _ => hobject) (Pattern.text_stored _).symm
  have hstored : (Pattern.ofTriple t).stored = .ofTriple t.stored := rfl
  have hmem (name : String) (u : Triple) : (name, u) ∈ h.hits (.ofTriple t.stored) ↔
      name = h.graphName ∧ h.visible.contains name u = true ∧ t.stored = u := by
    rw [hits, QuadStore.mem_query, Pattern.ofTriple_accepts_iff, readScope, hgraph]
    simp [QuadStore.InScope]
  rw [holds, hcontains, hstored]
  -- The answer is affirmed if there is a row at all, and here the triple itself is the only one.
  cases hc : h.visible.contains h.graphName t.stored with
  | true =>
    have hne : h.hits (.ofTriple t.stored) ≠ [] :=
      List.ne_nil_of_mem ((hmem h.graphName t.stored).2 ⟨rfl, hc, rfl⟩)
    simpa using hne
  | false =>
    have hnil : h.hits (.ofTriple t.stored) = [] := by
      rw [List.eq_nil_iff_forall_not_mem]
      rintro ⟨name, u⟩ hu
      obtain ⟨rfl, hcu, rfl⟩ := (hmem name u).1 hu
      rw [hc] at hcu
      cases hcu
    rw [hnil]
    rfl

/-! ### Reads behind a write -/

/-- The default options have no rule set, so nothing can stand between the directives. -/
theorem readable_of_default (hoptions : h.options = {})
    (hgraph : Iri.isAbsolute h.graphName = true) : h.Readable := by
  refine ⟨hgraph, ?_⟩
  rw [hoptions]
  intro rules hrules
  cases hrules

/-- A handle on a connection that holds nothing. -/
def unwritten : Handle LocalConnection where
  connection := {}
  graphName := "urn:g"

theorem unwritten_serves : unwritten.Serves := ⟨rfl, rfl, rfl⟩

/-- After a triple was added, the question for it is affirmed if its object is read in the text
of the question, and a search finds it by each pattern that accepts and recovers it. After it
was deleted, the question is denied. -/
theorem reads_own_writes (h : Handle LocalConnection) (hfaults : h.connection.faults = {})
    (hoptions : h.options = {}) (hgraph : Iri.isAbsolute h.graphName = true) (t : Triple) :
    (∀ h₁, (add t).on h = (.ok (), h₁) →
      (t.object.Closed ∧ t.object.OneLine → ((holds t).on h₁).1 = .ok true) ∧
      ∀ p, p.accepts t = true → p.Recovers t → ∃ ts, ((find p).on h₁).1 = .ok ts ∧ t ∈ ts) ∧
    ∀ h₁, (delete t).on h = (.ok (), h₁) →
      t.object.Closed ∧ t.object.OneLine → ((holds t).on h₁).1 = .ok false := by
  have hr := readable_of_default hoptions hgraph
  have hone : h.options.everyGraph = false := by rw [hoptions]
  refine ⟨?_, ?_⟩
  · -- An added triple is in the store, in its stored form.
    intro h₁ hadd
    obtain ⟨e, he, hs, rfl⟩ := sendOne_tell_eq_ok hfaults hadd
    have ht := Triple.isStorable_of_encode he
    let h₁ := (h.written .add t e).notify (.added h.graphName [t])
    have hs₁ : h₁.Serves := (hs.written .add t e).notify _
    have hr₁ : h₁.Readable := ⟨hr.graph, hr.ruleSet⟩
    have hcontains : h₁.visible.contains h₁.graphName t.stored = true := by
      rw [visible_notify, visible_written]
      exact QuadStore.contains_insert.2 (Or.inl ⟨rfl, rfl⟩)
    refine ⟨?_, ?_⟩
    · intro hobject
      rw [← hcontains]
      exact holds_of_serves hs₁ hr₁ hone ht hobject
    · intro p hp hrecovers
      exact mem_find hs₁ hr₁ hone ht hcontains hp hrecovers
  · -- The removal takes out exactly the stored form, whatever else the graph holds.
    intro h₁ hdelete hobject
    obtain ⟨e, he, hs, rfl⟩ := sendOne_tell_eq_ok hfaults hdelete
    have ht := Triple.isStorable_of_encode he
    let h₁ := (h.written .delete t e).notify (.deleted h.graphName [t])
    have hs₁ : h₁.Serves := (hs.written .delete t e).notify _
    have hr₁ : h₁.Readable := ⟨hr.graph, hr.ruleSet⟩
    have hcontains : h₁.visible.contains h₁.graphName t.stored = false := by
      rw [visible_notify, visible_written, Bool.eq_false_iff]
      intro hkept
      exact (QuadStore.contains_remove.1 hkept).2 ⟨rfl, rfl⟩
    rw [← hcontains]
    exact holds_of_serves hs₁ hr₁ hone ht hobject

/-- A quote inside a literal is read by the question and by each search. -/
theorem reads_own_writes_quoted :
    let t := about (.plain "it's")
    ∃ h₁, (add t).on unwritten = (.ok (), h₁) ∧ ((holds t).on h₁).1 = .ok true ∧
      ∀ p, p.accepts t = true → ∃ ts, ((find p).on h₁).1 = .ok ts ∧ t ∈ ts := by
  intro t
  obtain ⟨e, he⟩ : ∃ e, t.encode = .ok e := ⟨_, rfl⟩
  have hadd : (add t).on unwritten = _ := sendOne_tell_of_accepts unwritten_serves.accepts he _
  have hobject : t.object.Closed ∧ t.object.OneLine :=
    ⟨by show "it's".toList.getLast? ≠ some '\\'; decide, by show '\n' ∉ "it's".toList; decide⟩
  obtain ⟨hreads, -⟩ := reads_own_writes unwritten rfl rfl (by decide) t
  obtain ⟨hholds, hfind⟩ := hreads _ hadd
  refine ⟨_, hadd, hholds hobject, fun p hp => hfind p hp ?_⟩
  rw [Pattern.Recovers]
  cases p.object with
  | none => exact id
  | some u => exact hobject

/-! ### Writes that are misread -/

/-- A question that is not understood is denied. -/
theorem contains_of_other (hs : h.Serves) {p : Pattern}
    (htext : Request.ofText (h.scope.any p) [] = .ok .other)
    (hscripted : h.connection.scripted = []) : ((contains p).on h).1 = .ok false := by
  obtain ⟨c, hc, hquery⟩ :=
    LocalConnection.query_other hs.connection h.sendOptions htext hscripted
  obtain ⟨h', -, hcontains⟩ := contains_of_answer hs hc hquery
  rw [hcontains]
  rfl

/-- After a write to the empty connection there is nothing but what was written. -/
theorem contains_written_unwritten {object : Literal} {e : TripleCode} (name : String)
    (t : Triple) :
    (unwritten.written .add (about object) e).visible.contains name t = true ↔
      name = "urn:g" ∧ t = (about object).stored := by
  rw [visible_written]
  show ((QuadStore.empty.insert "urn:g" (about object).stored).2).contains name t = true ↔ _
  simp

/-- The closing quote of the question is taken for a part of the literal. -/
theorem holds_backslash :
    ∃ h₁, (add (about (.plain "a\\"))).on unwritten = (.ok (), h₁) ∧
      ((holds (about (.plain "a\\"))).on h₁).1 = .ok false := by
  obtain ⟨e, he⟩ : ∃ e, (about (.plain "a\\")).encode = .ok e := ⟨_, rfl⟩
  have htext : Request.ofText (unwritten.scope.any (.ofTriple (about (.plain "a\\")))) [] =
      .ok .other := by decide +kernel
  exact ⟨_, sendOne_tell_of_accepts unwritten_serves.accepts he _,
    contains_of_other ((unwritten_serves.written _ _ _).notify _) htext rfl⟩

/-- The lines of the question are joined by a blank. -/
theorem holds_lineFeed :
    ∃ h₁, (add (about (.plain "a\nb"))).on unwritten = (.ok (), h₁) ∧
      ((holds (about (.plain "a\nb"))).on h₁).1 = .ok false := by
  obtain ⟨e, he⟩ : ∃ e, (about (.plain "a\nb")).encode = .ok e := ⟨_, rfl⟩
  let h₁ := (unwritten.written .add (about (.plain "a\nb")) e).notify
    (.added unwritten.graphName [about (.plain "a\nb")])
  have htext : Request.ofText (unwritten.scope.any (.ofTriple (about (.plain "a\nb")))) [] =
      .ok (.select unwritten.readScope (.ofTriple (about (.plain "a b"))) (some 1)) := by
    decide +kernel
  obtain ⟨h₂, -, hcontains⟩ :=
    contains_of_select ((unwritten_serves.written _ _ _).notify _) htext
  -- The literal of one line that is asked for is not the one of two lines that is stored.
  have hnil : h₁.hits (.ofTriple (about (.plain "a b"))) = [] := by
    rw [List.eq_nil_iff_forall_not_mem]
    rintro ⟨name, u⟩ hu
    obtain ⟨-, hcontained, haccepts⟩ := QuadStore.mem_query.1 hu
    obtain ⟨-, rfl⟩ := (contains_written_unwritten name u).1 hcontained
    revert haccepts
    decide
  refine ⟨h₁, sendOne_tell_of_accepts unwritten_serves.accepts he _, ?_⟩
  rw [holds, hcontains, hnil]
  rfl

/-- The plain literal is stored in place of the one without a tag. -/
theorem find_untagged :
    ∃ h₁ ts, (add (about (.typed "a" .langString (by decide)))).on unwritten = (.ok (), h₁) ∧
      ((find .any).on h₁).1 = .ok ts ∧ about (.typed "a" .langString (by decide)) ∉ ts := by
  obtain ⟨e, he⟩ : ∃ e, (about (.typed "a" .langString (by decide))).encode = .ok e := ⟨_, rfl⟩
  let h₁ := (unwritten.written .add (about (.typed "a" .langString (by decide))) e).notify
    (.added unwritten.graphName [about (.typed "a" .langString (by decide))])
  have hs₁ : h₁.Serves := (unwritten_serves.written _ _ _).notify _
  have hr : unwritten.Readable := readable_of_default rfl (by decide)
  have hany : Pattern.any.Legible := by
    intro u hu
    cases hu
  obtain ⟨h₂, -, hfind⟩ := find_of_serves hs₁ ⟨hr.graph, hr.ruleSet⟩ hany
  refine ⟨h₁, _, sendOne_tell_of_accepts unwritten_serves.accepts he _, by rw [hfind], ?_⟩
  -- The one triple that is stored gives the plain literal, and that is another triple.
  intro hmem
  obtain ⟨⟨name, u⟩, hu, hread⟩ := List.mem_filterMap.1 hmem
  obtain ⟨-, hcontained, haccepts⟩ := QuadStore.mem_query.1 hu
  obtain ⟨-, rfl⟩ := (contains_written_unwritten name u).1 hcontained
  rw [solution, Matches.triple?_ofRow (Triple.Durable.stored rfl) haccepts] at hread
  revert hread
  decide

/-- The question for a literal that ends in a backslash is not understood, the one for a literal
of two lines asks for another literal, and the literal that no parameter tells from a plain one
is not the one that is stored. -/
theorem not_reads_own_writes_misread :
    unwritten.connection.faults = {} ∧ unwritten.options = {} ∧
    Iri.isAbsolute unwritten.graphName = true ∧
    (∃ h₁, (add (about (.plain "a\\"))).on unwritten = (.ok (), h₁) ∧
      ((holds (about (.plain "a\\"))).on h₁).1 = .ok false) ∧
    (∃ h₁, (add (about (.plain "a\nb"))).on unwritten = (.ok (), h₁) ∧
      ((holds (about (.plain "a\nb"))).on h₁).1 = .ok false) ∧
    ∃ h₁ ts, (add (about (.typed "a" .langString (by decide)))).on unwritten = (.ok (), h₁) ∧
      ((find .any).on h₁).1 = .ok ts ∧ about (.typed "a" .langString (by decide)) ∉ ts :=
  ⟨rfl, rfl, by decide, holds_backslash, holds_lineFeed, find_untagged⟩

end Handle

end QuadClient
