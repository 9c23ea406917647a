import QuadClient.Proofs.Statement.Body
import QuadClient.Proofs.Statement.Slot

/-!
# What is understood of a text

A text is carried out if it has a header, if the words of its body open a selection or a
deletion, and if three slots stand behind them. This is all that is asked of it. Nothing is said
of what stands behind the third slot, nor of what stands between the graph of a deletion and its
conditions. A text with more conditions than one pattern is therefore carried out as if it had
only the first.
-/

namespace QuadClient

open QuadClient.Text

namespace Request

/-- Whether a request is made of what a text says; a template is known as a whole. -/
def isRead : Request → Bool
  | .count _ _ => true
  | .select _ _ _ => true
  | .erase _ _ => true
  | _ => false

/-- What a body asks for, counting or not: the body, the request, the rest behind the third
slot. -/
inductive BodyAt (params : List Param) : Bool → List Char → Request → List Char → Prop
  | count {b s rest : List Char} {graph : Option String} {p : Pattern}
      (hscope : ScopeAt params b graph s) (hp : PatternAt s p rest) :
      BodyAt params true b (.count graph p) rest
  | select {b s rest : List Char} {graph : Option String} {p : Pattern}
      (hscope : ScopeAt params b graph s) (hp : PatternAt s p rest) :
      BodyAt params false b
        (.select graph p (if "limit 1".toList.isSuffixOf b then some 1 else none)) rest
  /-- The conditions stand behind the first opening, which may be part of the name of the graph.
  A deletion that is counted is made all the same. -/
  | erase {counting : Bool} {graph behind before s rest : List Char} {p : Pattern}
      (hgraph : '>' ∉ graph) (hbefore : ¬ opening <:+: before)
      (hs : graph ++ '>' :: behind = before ++ (opening ++ s)) (hp : PatternAt s p rest) :
      BodyAt params counting ("delete from graph <".toList ++ (graph ++ '>' :: behind))
        (.erase (String.ofList graph) p) rest

/-! ### Bodies -/

section Bodies

variable {params : List Param} {counting : Bool} {b rest : List Char} {q : Request}

theorem opening_ne_nil : opening ≠ [] := by
  decide

/-- The brace at the end of the words stands nowhere else in them, so where they are found first
is where they stand first. -/
theorem afterFirst?_opening {before : List Char} (hbefore : ¬ opening <:+: before)
    (s : List Char) : afterFirst? opening (before ++ (opening ++ s)) = some s := by
  have hbrace : '\x7b' ∉ "where ".toList := by decide
  have hwords : opening = "where ".toList ++ ['\x7b'] := by decide
  rw [hwords] at hbefore ⊢
  exact afterFirst?_append hbrace hbefore s

/-- A body that names the scope of a selection opens with another word than a deletion. -/
theorem ScopeAt.no_deletion {graph : Option String} {s : List Char}
    (h : ScopeAt params b graph s) : "delete from graph <".toList.isPrefixOf? b = none := by
  cases h <;> simp [isPrefixOf?_cons]

theorem ScopeAt.not_deletion {graph : Option String} {s r : List Char} :
    ¬ ScopeAt params ("delete from graph <".toList ++ r) graph s := by
  intro h
  have hnone := h.no_deletion
  rw [isPrefixOf?_append] at hnone
  cases hnone

/-- A deletion that is made has a graph, conditions and a pattern in them. -/
theorem bodyAt_of_deletion {s : List Char} (h : deletion s = q) (hq : q.isRead = true) :
    ∃ rest, BodyAt params counting ("delete from graph <".toList ++ s) q rest := by
  unfold deletion at h
  split at h
  · cases h
    cases hq
  · next graph behind hcut =>
    split at h
    · next p hpattern =>
      cases h
      obtain ⟨conditions, hafter, hp⟩ := Option.bind_eq_some_iff.1 hpattern
      obtain ⟨rest, hp⟩ := pattern?_eq_some_iff.1 hp
      -- Any text may stand between the graph and the first opening of conditions.
      obtain ⟨before, hs, hbefore⟩ := afterFirst?_eq_some opening_ne_nil hafter
      obtain ⟨rfl, hgraph⟩ := cutAt?_eq_some hcut
      exact ⟨rest, .erase hgraph hbefore hs hp⟩
    · cases h
      cases hq

/-- A selection that is answered has a scope and a pattern inside of it. -/
theorem bodyAt_of_selection (h : selection counting params b = .ok q) (hq : q.isRead = true) :
    ∃ rest, BodyAt params counting b q rest := by
  unfold selection at h
  cases hscope : scope? params b with
  | error e =>
    rw [hscope] at h
    cases h
  | ok scope =>
    rw [hscope] at h
    dsimp only [bind, Except.bind] at h
    split at h
    · cases h
      cases hq
    · next graph s =>
      split at h
      · cases h
        cases hq
      · next p hpattern =>
        obtain ⟨rest, hp⟩ := pattern?_eq_some_iff.1 hpattern
        cases counting with
        | true =>
          cases h
          exact ⟨rest, .count (scope?_eq_ok_iff.1 hscope) hp⟩
        | false =>
          cases h
          exact ⟨rest, .select (scope?_eq_ok_iff.1 hscope) hp⟩

/-- Behind its graph and its conditions the pattern of a deletion is read. -/
theorem deletion_of_conditions {graph behind before s rest : List Char} {p : Pattern}
    (hgraph : '>' ∉ graph) (hbefore : ¬ opening <:+: before)
    (hs : graph ++ '>' :: behind = before ++ (opening ++ s)) (hp : PatternAt s p rest) :
    deletion (graph ++ '>' :: behind) = .erase (String.ofList graph) p := by
  have hafter : afterFirst? "where \x7b".toList (graph ++ '>' :: behind) = some s := by
    rw [hs]
    exact afterFirst?_opening hbefore s
  simp only [deletion, cutAt?_append hgraph, hafter, Option.bind_some,
    pattern?_eq_some_iff.2 ⟨rest, hp⟩]

/-- Behind its scope the pattern of a selection is read. -/
theorem selection_of_scopeAt {graph : Option String} {s : List Char} {p : Pattern}
    (hscope : ScopeAt params b graph s) (hp : PatternAt s p rest) :
    selection counting params b =
      if counting then .ok (.count graph p)
      else .ok (.select graph p (if "limit 1".toList.isSuffixOf b then some 1 else none)) := by
  simp only [selection, scope?_eq_ok_iff.2 hscope, bind, Except.bind,
    pattern?_eq_some_iff.2 ⟨rest, hp⟩]
  rfl

end Bodies

/-! ### Texts -/

section Texts

variable {text : String} {params : List Param} {counting : Bool} {lines rest : List Char}
  {q : Request}

/-- A text that is carried out has a header, and a body that asks for what is done. -/
theorem bodyAt_of_ofText (h : ofText text params = .ok q) (hq : q.isRead = true) :
    ∃ counting lines rest, text.toList = headed counting lines ∧
      BodyAt params counting (body lines) q rest := by
  unfold ofText at h
  -- None of the three templates is a request that is made of what a text says.
  split at h
  · cases h
    cases hq
  split at h
  · cases h
    cases hq
  split at h
  · cases h
    cases hq
  dsimp only at h
  split at h
  · cases h
    cases hq
  · next lines hheader =>
    refine ⟨(counted text.toList).1, lines, ?_⟩
    suffices ∃ rest, BodyAt params (counted text.toList).1 (body lines) q rest by
      obtain ⟨rest, hbody⟩ := this
      exact ⟨rest, eq_headed hheader, hbody⟩
    split at h
    · next s hdelete =>
      rw [isPrefixOf?_eq_some hdelete]
      exact bodyAt_of_deletion (Except.ok.inj h) hq
    · exact bodyAt_of_selection h hq

/-- A body that asks for something, behind its header, has it carried out. -/
theorem ofText_of_bodyAt (htext : text.toList = headed counting lines)
    (h : BodyAt params counting (body lines) q rest) : ofText text params = .ok q := by
  rw [ofText_headed htext]
  generalize body lines = b at h
  cases h with
  | count hscope hp =>
    rw [hscope.no_deletion]
    exact selection_of_scopeAt hscope hp
  | select hscope hp =>
    rw [hscope.no_deletion]
    exact selection_of_scopeAt hscope hp
  | erase hgraph hbefore hs hp =>
    rw [isPrefixOf?_append]
    exact congrArg Except.ok (deletion_of_conditions hgraph hbefore hs hp)

/-- Whatever a body asks for is a request that is made of what a text says. -/
theorem BodyAt.isRead {b : List Char} (h : BodyAt params counting b q rest) :
    q.isRead = true := by
  cases h <;> rfl

/-- A body can be read in one way only. -/
theorem BodyAt.unique {b rest' : List Char} {q' : Request} (h : BodyAt params counting b q rest)
    (h' : BodyAt params counting b q' rest') : q = q' ∧ rest = rest' := by
  cases h with
  | count hscope hp =>
    cases h' with
    | count hscope' hp' =>
      obtain ⟨rfl, rfl⟩ := hscope.unique hscope'
      obtain ⟨rfl, rfl⟩ := hp.unique hp'
      exact ⟨rfl, rfl⟩
    | erase => exact (ScopeAt.not_deletion hscope).elim
  | select hscope hp =>
    -- No body is both a deletion and a selection.
    cases h' with
    | select hscope' hp' =>
      obtain ⟨rfl, rfl⟩ := hscope.unique hscope'
      obtain ⟨rfl, rfl⟩ := hp.unique hp'
      exact ⟨rfl, rfl⟩
    | erase => exact (ScopeAt.not_deletion hscope).elim
  | @erase _ graph behind before s _ p hgraph hbefore hs hp =>
    generalize hb : "delete from graph <".toList ++ (graph ++ '>' :: behind) = b at h'
    cases h' with
    | count hscope' =>
      subst hb
      exact (ScopeAt.not_deletion hscope').elim
    | select hscope' =>
      subst hb
      exact (ScopeAt.not_deletion hscope').elim
    | @erase _ graph' behind' before' s' _ p' hgraph' hbefore' hs' hp' =>
      -- The name of the graph ends at the first bracket in both readings.
      have hname := congrArg (cutAt? '>') (List.append_cancel_left hb)
      rw [cutAt?_append hgraph, cutAt?_append hgraph', Option.some.injEq, Prod.mk.injEq] at hname
      obtain ⟨rfl, rfl⟩ := hname
      -- The conditions are behind the first opening in both.
      have hconditions := congrArg (afterFirst? opening) (hs.symm.trans hs')
      rw [afterFirst?_opening hbefore, afterFirst?_opening hbefore', Option.some.injEq]
        at hconditions
      subst hconditions
      obtain ⟨rfl, rfl⟩ := hp.unique hp'
      exact ⟨rfl, rfl⟩

end Texts

/-- **Everything that is understood of a text.** A count, a selection or a deletion is made
exactly if the text has a header, the words of its body open one, and the three slots of the
pattern stand behind these words. The `rest` behind the slots may be anything. -/
theorem ofText_read_iff (text : String) (params : List Param) (q : Request) :
    (ofText text params = .ok q ∧ q.isRead = true) ↔
      ∃ counting lines rest, text.toList = headed counting lines ∧
        BodyAt params counting (body lines) q rest := by
  constructor
  · rintro ⟨h, hq⟩
    exact bodyAt_of_ofText h hq
  · rintro ⟨counting, lines, rest, htext, hbody⟩
    exact ⟨ofText_of_bodyAt htext hbody, hbody.isRead⟩

/-- The filter of this deletion is not seen. -/
example :
    let conditions := "where \x7b ?s ?p ?o . filter(false) \x7d"
    ofText ("sparql\ndelete from graph <urn:g> \x7b ?s ?p ?o \x7d " ++ conditions) [] =
      .ok (.erase "urn:g" .any) := by
  decide +kernel

/-- Closing braces, and behind them perhaps the limit of a selection. -/
def Closes (rest : List Char) : Prop :=
  ∃ braces limit, rest = braces ++ limit ∧ (∀ c ∈ braces, isBlank c = true ∨ c = '\x7d') ∧
    (limit = [] ∨ limit = "limit 1".toList)

/-- In closing braces and a limit there is no dot. -/
theorem Closes.notMem_dot {rest : List Char} (h : Closes rest) : '.' ∉ rest := by
  obtain ⟨braces, limit, rfl, hbraces, hlimit⟩ := h
  intro hdot
  rcases List.mem_append.1 hdot with hdot | hdot
  · rcases hbraces '.' hdot with hblank | hbrace
    · exact absurd hblank (by decide)
    · exact absurd hbrace (by decide)
  · rcases hlimit with rfl | rfl
    · cases hdot
    · exact absurd hdot (by decide)

/-- A selection with two triples is read as one with the first of them. -/
theorem not_ofText_read_whole :
    ¬ ∀ (text : String) (params : List Param) (q : Request),
      ofText text params = .ok q → q.isRead = true →
        ∃ counting lines rest, text.toList = headed counting lines ∧
          BodyAt params counting (body lines) q rest ∧ Closes rest := by
  intro hwhole
  let b := "select * where \x7b ?s ?p ?o . ?o <urn:q> ?x \x7d".toList
  have hfirst : BodyAt [] false b (.select none .any none) " . ?o <urn:q> ?x \x7d".toList := by
    have hscope : ScopeAt [] b none " ?s ?p ?o . ?o <urn:q> ?x \x7d".toList :=
      scope?_eq_ok_iff.1 (by decide +kernel)
    have hpattern : PatternAt " ?s ?p ?o . ?o <urn:q> ?x \x7d".toList .any
        " . ?o <urn:q> ?x \x7d".toList :=
      ⟨" ?p ?o . ?o <urn:q> ?x \x7d".toList, " ?o . ?o <urn:q> ?x \x7d".toList,
        slot?_eq_some_iff.1 (by decide +kernel), slot?_eq_some_iff.1 (by decide +kernel),
        slot?_eq_some_iff.1 (by decide +kernel)⟩
    exact .select hscope hpattern
  have htext : "sparql\nselect * where \x7b ?s ?p ?o . ?o <urn:q> ?x \x7d".toList =
      headed false b := by
    decide +kernel
  have hbody : body b = b := by
    decide +kernel
  have hread := ofText_of_bodyAt htext (hbody.symm ▸ hfirst)
  obtain ⟨counting, lines, rest, hlines, hbodyAt, hcloses⟩ := hwhole _ [] _ hread rfl
  obtain ⟨rfl, rfl⟩ := headed_injective (htext.symm.trans hlines)
  -- The two readings of the text are the same, so the rest is the one with the second triple.
  rw [hbody] at hbodyAt
  obtain ⟨-, rfl⟩ := hfirst.unique hbodyAt
  exact hcloses.notMem_dot (by decide)

end Request

end QuadClient
