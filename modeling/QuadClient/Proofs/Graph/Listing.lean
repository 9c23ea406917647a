import QuadClient.Proofs.Graph.Run

/-!
# Reads list the visible triples

In a store whose triples come back as they are, a read lists the triples that are visible, in
scope and accepted by its pattern: each of them once for every graph that holds it, and no
others. Since every run keeps the store so, this is true of the reads after any run.
-/

namespace QuadClient

namespace Handle

variable {h : Handle LocalConnection} {p : Pattern} {graph : String}

theorem listing_hits (h : Handle LocalConnection) (p : Pattern) :
    h.visible.Listing h.readScope p (h.hits p) :=
  h.visible.listing_query h.readScope p

/-- The triples of the hits are read as they are. -/
theorem find_of_durable (hd : h.Durable graph) (hr : h.Readable) (hp : p.Legible) :
    ((find p).on h).1 = .ok ((h.hits p).map Prod.snd) := by
  obtain ⟨h', -, hfind⟩ := find_of_serves hd.serves hr hp
  -- No hit is passed over, since what such a store holds comes back as it is.
  have hread : ∀ hit ∈ h.hits p, Matches.triple? p (h.solution p hit.2) = some hit.2 := by
    intro hit hhit
    obtain ⟨-, hcontains, haccepts⟩ := ((h.listing_hits p).mem_iff hit.1 hit.2).1 hhit
    exact Matches.triple?_ofRow (hd.visible hit.1 hit.2 hcontains) haccepts _
  rw [hfind, List.filterMap_congr hread]
  exact congrArg Except.ok (congrFun List.filterMap_eq_map (h.hits p))

end Handle

/-- After any run of a handle whose connection began with readable triples, a search gives each
visible triple in scope that the pattern accepts, once for every graph that holds it, and
nothing else; it is empty exactly if the question for a match is denied, and the size is the
number of the visible triples in scope. -/
theorem Step.run_reads (seeds : List (String × List Triple))
    (hseeds : ∀ seed ∈ seeds, ∀ t ∈ seed.2,
      (∃ e, t.encode = .ok e) ∧ ¬ t.object.IsUntaggedLangString)
    (c : LocalConnection) (hc : c.Fresh) (g : Iri) (start : Handle LocalConnection)
    (hstart : start.isClosed = false ∧ start.graphName = g.text ∧
      start.connection = c.seedAll seeds)
    (supported : Option Bool) (steps : List Step) (o : ReadOptions)
    (ho : ∀ rules, o.ruleSet = some rules → '\n' ∉ rules.toList) (p : Pattern)
    (hp : p.Legible) :
    let h : Handle LocalConnection :=
      { (Step.run steps ⟨start, supported⟩).handle with options := o }
    let scope := if o.everyGraph then none else some g.text
    ∃ hits all : List (String × Triple),
      h.visible.Listing scope p hits ∧ h.visible.Listing scope .any all ∧
      ((Handle.find p).on h).1 = .ok (hits.map Prod.snd) ∧
      ((Handle.contains p).on h).1 = .ok (!hits.isEmpty) ∧
      ((Handle.size : GraphAction LocalConnection Nat).on h).1 = .ok all.length := by
  obtain ⟨hopen, hname, hconnection⟩ := hstart
  have hdurable : ∀ seed ∈ seeds, ∀ t ∈ seed.2, t.Durable := by
    intro seed hseed t ht
    obtain ⟨⟨e, he⟩, hobject⟩ := hseeds seed hseed t ht
    exact ⟨Triple.isStorable_of_encode he, hobject⟩
  -- The seeds are the first triples of the connection, and the run keeps what they have.
  have hbegin : start.Durable g.text := by
    refine ⟨hopen, hname, ?_⟩
    rw [hconnection]
    exact hc.durable.seedAll hdurable
  have hrun := Step.run_durable (t := ⟨start, supported⟩) steps hbegin
  intro h scope
  have hd : h.Durable g.text := ⟨hrun.isOpen, hrun.graphName, hrun.connection⟩
  have hr : h.Readable := by
    refine ⟨?_, ho⟩
    rw [hd.graphName]
    exact Iri.isAbsolute_text g
  obtain ⟨h₁, -, hcontains⟩ := Handle.contains_of_serves hd.serves hr hp
  obtain ⟨h₂, -, hsize⟩ := Handle.size_of_serves hd.serves hr
  -- The settings of the last handle decide the scope, whatever the run made of them.
  have hscope : h.readScope = scope := by
    show (if o.everyGraph then none else some h.graphName) = _
    rw [hd.graphName]
  refine ⟨h.hits p, h.hits .any, ?_, ?_, Handle.find_of_durable hd hr hp, ?_, ?_⟩
  · rw [← hscope]
    exact h.listing_hits p
  · rw [← hscope]
    exact h.listing_hits .any
  · rw [hcontains]
  · rw [hsize]

/-- A transaction that is aborted leaves the readable triples of two graphs to be read. -/
theorem Step.run_reads_aborted :
    let t : Triple := ⟨.iri ⟨"urn:s", by decide⟩, .iri ⟨"urn:p", by decide⟩, .literal (.plain "'")⟩
    let start : Handle LocalConnection :=
      { connection := LocalConnection.seedAll [("urn:g", [t]), ("urn:h", [t])] {}
        graphName := "urn:g" }
    let steps : List Step := [.begin, .operation (.write .delete t), .abort]
    let h : Handle LocalConnection :=
      { (Step.run steps ⟨start, none⟩).handle with options := { everyGraph := true } }
    ∃ hits, h.visible.Listing none (.ofTriple t) hits ∧
      ((Handle.find (.ofTriple t)).on h).1 = .ok (hits.map Prod.snd) := by
  intro t start steps h
  have hseeds : ∀ seed ∈ [("urn:g", [t]), ("urn:h", [t])], ∀ u ∈ seed.2,
      (∃ e, u.encode = .ok e) ∧ ¬ u.object.IsUntaggedLangString := by
    intro seed hseed u hu
    have hut : u = t := by
      simp only [List.mem_cons, List.not_mem_nil, or_false] at hseed
      rcases hseed with rfl | rfl
      · simpa using hu
      · simpa using hu
    subst hut
    -- The object is a plain literal, which has no tag to lose.
    exact ⟨⟨_, rfl⟩, id⟩
  obtain ⟨hits, -, hhits, -, hfind, -⟩ := Step.run_reads [("urn:g", [t]), ("urn:h", [t])] hseeds {}
    ⟨⟨rfl, rfl⟩, rfl, rfl⟩ ⟨"urn:g", by decide⟩ start ⟨rfl, rfl, rfl⟩ none steps
    { everyGraph := true } (by simp) (.ofTriple t) (by decide +kernel)
  exact ⟨hits, hhits, hfind⟩

end QuadClient
