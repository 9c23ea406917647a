import QuadClient.Proofs.Graph.Read
import QuadClient.Proofs.Statement.Pieces

/-!
# Selections written by the caller

A selection that the caller writes is sent with a directive that names the graph of the handle.
The in-process store passes over every directive, so it answers the selection from all graphs:
the rows of the handle's own graph are among the others, and they are those that a search for
the pattern reads. Where no other graph holds a match there are no others.
-/

namespace QuadClient

/-- The hits in some scope are among those in every graph. -/
theorem QuadStore.Listing.exists_others {s : QuadStore} {scope : Option String} {p : Pattern}
    {own everywhere : List (String × Triple)} (hown : s.Listing scope p own)
    (heverywhere : s.Listing none p everywhere) :
    ∃ others, everywhere.Perm (own ++ others) ∧ ∀ hit ∈ others, ¬ InScope scope hit.1 := by
  let inside (hit : String × Triple) : Bool := decide (InScope scope hit.1)
  have hinside : (everywhere.filter inside).Perm own := by
    rw [List.perm_ext_iff_of_nodup (heverywhere.nodup.filter _) hown.nodup]
    intro hit
    rw [List.mem_filter, heverywhere.mem_iff, hown.mem_iff, decide_eq_true_iff]
    constructor
    · rintro ⟨⟨-, hheld⟩, hscope⟩
      exact ⟨hscope, hheld⟩
    · rintro ⟨hscope, hheld⟩
      exact ⟨⟨inScope_none _, hheld⟩, hscope⟩
  refine ⟨everywhere.filter fun hit => !inside hit, ?_, ?_⟩
  · -- The hits outside of the scope are the rest, so the two parts make up the listing.
    exact (List.filter_append_perm inside everywhere).symm.trans (hinside.append_right _)
  · intro hit hhit
    simpa [inside] using (List.mem_filter.1 hhit).2

theorem QuadStore.Listing.perm {s : QuadStore} {scope : Option String} {p : Pattern}
    {hits hits' : List (String × Triple)} (hhits : s.Listing scope p hits)
    (hperm : hits.Perm hits') : s.Listing scope p hits' :=
  ⟨hperm.nodup_iff.1 hhits.nodup, fun g t => hperm.mem_iff.symm.trans (hhits.mem_iff g t)⟩

namespace Handle

variable {h : Handle LocalConnection} {p : Pattern}

/-- Every row of an answer is a solution. -/
theorem select_of_answer (hs : h.Serves) {query : String} {lookup : String → Option Term}
    {columns : List String} {rows : List (List Cell)} {c : LocalConnection}
    (hquery : (Connection.query (h.sentText query lookup) h.sendOptions).on h.connection =
      (.ok ⟨columns, rows, true⟩, c)) :
    ∃ c', c.Alike c' ∧ (select query lookup).on h =
      (.ok (rows.map fun row => Solution.ofRow columns row (Cursor.graphTerm h.graphName)),
        { h with connection := c' }) := by
  let live : LiveRows LocalConnection := ⟨c, ⟨columns, rows, true⟩⟩
  let d := (Cursor.ofStream live h.graphName).drain
  have hrun : (select query lookup).on h =
      (d.1, { h with connection := d.2.drop.connection }) := by
    rw [select, selectWith, Attempt.on_bind, Attempt.on_get]
    exact withCursor_of_answer hs hquery rfl
  have hdelivers := LocalConnection.delivers_of_open c columns (Cursor.graphTerm h.graphName) rows 0
  -- To read the rows and to close the stream leave the connection alike.
  have hkeeps : c.Alike d.2.drop.connection := by
    let K (l : LiveRows LocalConnection) : Prop := c.Alike l.connection
    have hdrained : K d.2.source :=
      Cursor.drain_keeps LocalConnection.alike_fetchRow LocalConnection.alike_closeRows (.refl c)
    exact Cursor.release_keeps (K := K) LocalConnection.alike_closeRows hdrained
  rw [hrun, show d.1 = _ from Cursor.drain_of_delivers hdelivers]
  exact ⟨_, hkeeps, rfl⟩

/-- A selection of the matches of a pattern is answered with those in every graph. -/
theorem select_of_serves (hs : h.Serves) (hr : h.Readable) (hp : p.Legible) :
    ∃ h', h.Alike h' ∧ (select (Scope.selectAnywhere p) fun _ => none).on h =
      (.ok ((h.visible.query none p).map fun hit => h.solution p hit.2), h') := by
  have hname : '\n' ∉ h.graphName.toList := by
    obtain ⟨g, hg⟩ := hr.exists_iri
    rw [← hg]
    exact g.enclosed.feed
  have htext : Request.ofText (h.sentText (Scope.selectAnywhere p) fun _ => none) [] =
      .ok (.select none p none) := by
    -- The directive of the handle's graph stands in front of the text and is passed over.
    rw [sentText, Substitution.substitute_of_unbound (fun _ => rfl)]
    exact Request.ofText_adhoc hname hr.ruleSet hp []
  obtain ⟨c, hc, hquery⟩ := LocalConnection.query_select hs.connection h.sendOptions htext
  rw [Option.getD_none, List.take_length] at hquery
  obtain ⟨c', hc', hselect⟩ := select_of_answer hs hquery
  rw [List.map_map] at hselect
  exact ⟨{ h with connection := c' }, ⟨hc.trans hc', rfl, rfl, rfl⟩, hselect⟩

/-- A selection that the caller writes for a pattern has a row for each hit in the scope of the
handle, the hits that a search reads, and one for each hit outside; a row binds the open slots
and the graph of the handle. If all hits are inside, the selection and the search agree. -/
theorem select_lists_everywhere (h : Handle LocalConnection) (hs : h.Serves) (hr : h.Readable)
    (p : Pattern) (hp : p.NodesOnly) :
    ∃ (own others : List (String × Triple)) (rows : List Solution),
      h.visible.Listing h.readScope p own ∧ h.visible.Listing none p (own ++ others) ∧
      (∀ hit ∈ others, ¬ QuadStore.InScope h.readScope hit.1) ∧
      ((select (Scope.selectAnywhere p) fun _ => none).on h).1 = .ok rows ∧
      rows.Perm ((own ++ others).map fun hit => h.solution p hit.2) ∧
      (∀ t, (h.solution p t).bindings = p.bindings t ++
        (Cursor.graphTerm h.graphName).toList.map (Prod.mk Solution.graphColumn)) ∧
      ((find p).on h).1 = .ok (own.filterMap fun hit => Matches.triple? p (h.solution p hit.2)) ∧
      ((∀ name t, h.visible.contains name t = true → p.accepts t = true →
        QuadStore.InScope h.readScope name) →
          rows.Perm (own.map fun hit => h.solution p hit.2)) := by
  have hown := h.visible.listing_query h.readScope p
  have heverywhere := h.visible.listing_query none p
  obtain ⟨others, hperm, houtside⟩ := hown.exists_others heverywhere
  have hall := heverywhere.perm hperm
  obtain ⟨h₁, -, hselect⟩ := select_of_serves hs hr hp.legible
  obtain ⟨h₂, -, hfind⟩ := find_of_serves hs hr hp.legible
  refine ⟨h.hits p, others, _, hown, hall, houtside, by rw [hselect], hperm.map _,
    fun t => Solution.bindings_ofRow p t _, by rw [hfind], ?_⟩
  -- A hit outside of the scope would be one more match, and there is none.
  intro hscope
  have hnone : others = [] := by
    rw [List.eq_nil_iff_forall_not_mem]
    intro hit hhit
    obtain ⟨-, hheld, haccepts⟩ := (hall.mem_iff hit.1 hit.2).1 (List.mem_append_right _ hhit)
    exact houtside hit hhit (hscope hit.1 hit.2 hheld haccepts)
  rw [hnone, List.append_nil] at hperm
  exact hperm.map _

/-- A handle on a graph, where the only triple is in some graph. -/
def strayIn (name : String) (t : Triple) : Handle LocalConnection where
  connection := LocalConnection.seed name [t] {}
  graphName := "urn:g"

theorem strayIn_serves (name : String) (t : Triple) : (strayIn name t).Serves := ⟨rfl, rfl, rfl⟩

theorem strayIn_readable (name : String) (t : Triple) : (strayIn name t).Readable :=
  ⟨Iri.isAbsolute_text ⟨"urn:g", by decide⟩, nofun⟩

theorem contains_strayIn {name other : String} {t u : Triple} :
    (strayIn name t).visible.contains other u = true ↔ other = name ∧ u = t := by
  show ((QuadStore.empty.insert name t).2).contains other u = true ↔ _
  simp

/-- In the graph of the handle the triple is selected. -/
theorem select_lists_everywhere_inside :
    let t : Triple := ⟨.iri ⟨"urn:s", rfl⟩, .iri ⟨"urn:p", rfl⟩, .literal (.plain "x")⟩
    let h := strayIn "urn:g" t
    let p : Pattern := ⟨some (.iri ⟨"urn:s", by decide⟩), none, none⟩
    (h.Serves ∧ h.Readable ∧ p.NodesOnly) ∧
      ∃ (own : List (String × Triple)) (rows : List Solution),
        h.visible.Listing (some "urn:g") p own ∧
        ((select (Scope.selectAnywhere p) fun _ => none).on h).1 = .ok rows ∧
        rows.Perm (own.map fun hit => h.solution p hit.2) := by
  intro t h p
  have hp : p.NodesOnly := by decide
  have hs := strayIn_serves "urn:g" t
  have hr := strayIn_readable "urn:g" t
  obtain ⟨own, others, rows, hown, -, -, hrows, -, -, -, hinside⟩ :=
    select_lists_everywhere h hs hr p hp
  refine ⟨⟨hs, hr, hp⟩, own, rows, hown, hrows, hinside ?_⟩
  intro name u hheld _ graph hgraph
  obtain rfl : "urn:g" = graph := Option.some.inj hgraph
  exact (contains_strayIn.1 hheld).1

/-- In another graph the triple is selected as well, though a search does not find it. -/
theorem not_select_inside :
    let t : Triple := ⟨.iri ⟨"urn:s", rfl⟩, .iri ⟨"urn:p", rfl⟩, .literal (.plain "x")⟩
    let h := strayIn "urn:h" t
    h.options = {} ∧ h.visible.Listing (some "urn:g") .any [] ∧ ((find .any).on h).1 = .ok [] ∧
      ∃ rows, ((select (Scope.selectAnywhere .any) fun _ => none).on h).1 = .ok rows ∧
        rows ≠ [] := by
  intro t h
  have hp : Pattern.any.Legible := List.forall_mem_nil _
  have hs := strayIn_serves "urn:h" t
  have hr := strayIn_readable "urn:h" t
  -- A search of the handle looks in its own graph, where there is nothing.
  have hnone : h.hits .any = [] := by
    rw [List.eq_nil_iff_forall_not_mem]
    intro hit hhit
    obtain ⟨hscope, hheld, -⟩ := QuadStore.mem_query.1 hhit
    have hname := hscope "urn:g" rfl
    rw [(contains_strayIn.1 hheld).1] at hname
    exact absurd hname (by decide)
  have hlisting := h.visible.listing_query h.readScope .any
  obtain ⟨h₁, -, hfind⟩ := find_of_serves hs hr hp
  obtain ⟨h₂, -, hselect⟩ := select_of_serves hs hr hp
  refine ⟨rfl, hnone ▸ hlisting, ?_, _, congrArg Prod.fst hselect, ?_⟩
  · rw [hfind]
    show Except.ok ((h.hits .any).filterMap _) = _
    rw [hnone, List.filterMap_nil]
  · -- The selection has the row of the triple in the other graph.
    intro hempty
    have hhit : ("urn:h", t) ∈ h.visible.query none .any :=
      QuadStore.mem_query.2 ⟨QuadStore.inScope_none _, contains_strayIn.2 ⟨rfl, rfl⟩, rfl⟩
    rw [List.map_eq_nil_iff.1 hempty] at hhit
    cases hhit

end Handle

end QuadClient
