import QuadClient.Proofs.Statement.Selection

/-!
# Statements read back

Every statement that a pattern is compiled to is read back as the request it was compiled from,
in the scope it was compiled for. For a deletion no literal may hold the phrase that opens the
conditions, since the reader takes the first one it finds.
-/

namespace QuadClient

open QuadClient.Text

/-- What follows the header of a deletion. -/
def Scope.eraseBody (s : Scope) (p : Pattern) : String :=
  "delete from graph <" ++ s.graph ++ "> \x7b " ++ p.text ++ " \x7d from <" ++ s.graph ++
    "> where \x7b " ++ p.text ++ " \x7d"

/-- A deletion is a statement without directives. -/
theorem Scope.erase_eq (s : Scope) (p : Pattern) :
    s.erase p = (Statement.ofBody (s.eraseBody p)).text := by
  show Statement.header ++ "delete from graph <" ++ s.graph ++ "> \x7b " ++ p.text ++
    " \x7d from <" ++ s.graph ++ "> where \x7b " ++ p.text ++ " \x7d" =
      Statement.header ++ "" ++ ("delete from graph <" ++ s.graph ++ "> \x7b " ++ p.text ++
        " \x7d from <" ++ s.graph ++ "> where \x7b " ++ p.text ++ " \x7d")
  simp only [String.append_assoc, String.empty_append]

namespace Request

variable {p : Pattern} {o : ReadOptions}

/-- The directive for the storage has no name in it, and so no line feed. -/
theorem storage_oneLine : '\n' ∉ (Directive.storage "").text.toList := by
  show '\n' ∉ ("define input:storage \"" ++ "" ++ "\"").toList
  simp

/-- A text that ends in a brace has no limit behind it. -/
theorem isSuffixOf_limit (r : List Char) :
    "limit 1".toList.isSuffixOf (r ++ ['\x7d']) = false := by
  rw [Bool.eq_false_iff]
  intro h
  obtain ⟨t, ht⟩ := List.isSuffixOf_iff_suffix.1 h
  have hlast := congrArg List.getLast? ht
  simp at hlast

/-- A selection in every graph ends in a brace. -/
theorem not_limited_selectAnywhere (p : Pattern) :
    "limit 1".toList.isSuffixOf (Scope.selectAnywhere p).toList = false := by
  have htext : (Scope.selectAnywhere p).toList =
      "select * where \x7b ".toList ++ (p.text.toList ++ [' ']) ++ ['\x7d'] := by
    show ("select * where \x7b " ++ p.text ++ " \x7d").toList = _
    simp
  rw [htext, isSuffixOf_limit]

/-- A pattern compiled to a count is read back as the count of its matches. -/
theorem ofText_count_in (name : String) (ho : ∀ rules, o.ruleSet = some rules → '\n' ∉ rules.toList)
    (hp : p.Legible) :
    ofText (Scope.count ⟨name, o⟩ p).text (Scope.count ⟨name, o⟩ p).params =
      .ok (.count (if o.everyGraph then none else some name) p) := by
  have hread : ∀ t ∈ p.terms, t.Readable := fun t ht => (hp t ht).1
  have hfeed := feed_notMem_text fun t ht => (hp t ht).2
  have hds (b : String) : (((Statement.ofBody b).add (.storage "")).reading o).OneLine :=
    ((Statement.oneLine_ofBody b).add storage_oneLine).reading ho
  cases heach : o.everyGraph with
  | true =>
    simp only [Scope.count, heach]
    exact ofText_countText_of_isSelection (hds _) hread
      (by simpa using isSelection_anywhere [] hfeed)
  -- The name of the graph is the parameter, and stands nowhere in the text.
  | false =>
    simp only [Scope.count, heach]
    exact ofText_countText_of_isSelection (hds _) hread
      (by simpa using isSelection_parameter name hfeed)

/-- A pattern compiled to a question for any match is read back as the selection of one. -/
theorem ofText_any_in {name : String} (hname : o.everyGraph = false → Enclosed name)
    (ho : ∀ rules, o.ruleSet = some rules → '\n' ∉ rules.toList) (hp : p.Legible) (params : List Param) :
    ofText (Scope.any ⟨name, o⟩ p) params =
      .ok (.select (if o.everyGraph then none else some name) p (some 1)) := by
  have hread : ∀ t ∈ p.terms, t.Readable := fun t ht => (hp t ht).1
  have hfeed := feed_notMem_text fun t ht => (hp t ht).2
  have hds (b : String) : (((Statement.ofBody b).add (.storage "")).reading o).OneLine :=
    ((Statement.oneLine_ofBody b).add storage_oneLine).reading ho
  have hlimit (b : String) : "limit 1".toList.isSuffixOf (b ++ " limit 1").toList = true := by
    rw [List.isSuffixOf_iff_suffix]
    exact ⟨b.toList ++ [' '], by simp⟩
  cases heach : o.everyGraph with
  -- No graph is named, so the name of the handle's graph need not be enclosed.
  | true =>
    rw [Scope.any, Scope.select, if_pos heach, ofText_text_of_isSelection (hds _) hread
      (by simpa using isSelection_anywhere_limited params hfeed)]
    simp only [Statement.body_reading, Statement.body_add, Statement.body_ofBody, hlimit]
    rfl
  | false =>
    rw [Scope.any, Scope.select, if_neg (by simp [heach]), ofText_text_of_isSelection (hds _) hread
      (by simpa using isSelection_graph params (hname heach) hfeed)]
    simp only [Statement.body_reading, Statement.body_add, Statement.body_ofBody, hlimit]
    rfl

/-- A pattern compiled to an enumeration is read back as the selection of every match. -/
theorem ofText_enumerate_in {name : String} (hname : o.everyGraph = false → Enclosed name)
    (ho : ∀ rules, o.ruleSet = some rules → '\n' ∉ rules.toList) (hp : p.Legible)
    (params : List Param) :
    ofText (Scope.enumerate ⟨name, o⟩ p) params =
      .ok (.select (if o.everyGraph then none else some name) p none) := by
  have hread : ∀ t ∈ p.terms, t.Readable := fun t ht => (hp t ht).1
  have hfeed := feed_notMem_text fun t ht => (hp t ht).2
  have hds (b : String) : ((Statement.ofBody b).reading o).OneLine :=
    (Statement.oneLine_ofBody b).reading ho
  cases heach : o.everyGraph with
  | true =>
    rw [Scope.enumerate, if_pos heach, ofText_text_of_isSelection (hds _) hread
      (by simpa using isSelection_anywhere params hfeed)]
    simp only [Statement.body_reading, Statement.body_ofBody, not_limited_selectAnywhere]
    rfl
  | false =>
    -- It ends in a brace, and so it has no limit.
    have hlimit : "limit 1".toList.isSuffixOf
        ("select * from <" ++ name ++ "> where \x7b " ++ p.text ++ " \x7d").toList = false := by
      have htext : ("select * from <" ++ name ++ "> where \x7b " ++ p.text ++ " \x7d").toList =
          "select * from <".toList ++ (name.toList ++ ("> where \x7b ".toList ++
            (p.text.toList ++ [' ']))) ++ ['\x7d'] := by
        simp
      rw [htext, isSuffixOf_limit]
    rw [Scope.enumerate, if_neg (by simp [heach]), ofText_text_of_isSelection (hds _) hread
      (by simpa using isSelection_from params (hname heach) hfeed)]
    simp only [Statement.body_reading, Statement.body_ofBody, hlimit]
    rfl

/-- No name that is not enclosed is ever read from the text of a selection. -/
theorem enclosed_of_select {text name : String} {p : Pattern} {limit : Option Nat}
    (h : ofText text [] = .ok (.select (some name) p limit)) : Enclosed name := by
  obtain ⟨counting, lines, rest, -, hbody⟩ := bodyAt_of_ofText h rfl
  have hfeed := feed_notMem_body lines
  generalize body lines = b at hbody hfeed
  -- Of the readings of a body only the selection gives such a request.
  cases hbody with
  | select hscope hp => exact enclosed_of_scopeAt hfeed hscope

/-- A selection in every graph that the caller wrote is read as just that: the directive for the
graph is passed over with the others. -/
theorem ofText_adhoc {name : String} (hname : '\n' ∉ name.toList)
    (ho : ∀ rules, o.ruleSet = some rules → '\n' ∉ rules.toList) (hp : p.Legible)
    (params : List Param) :
    ofText (Scope.adhoc ⟨name, o⟩ (Scope.selectAnywhere p)).text params =
      .ok (.select none p none) := by
  have hread : ∀ t ∈ p.terms, t.Readable := fun t ht => (hp t ht).1
  have hfeed := feed_notMem_text fun t ht => (hp t ht).2
  have hreading := (Statement.oneLine_ofBody (Scope.selectAnywhere p)).reading ho
  have hgraph : '\n' ∉ (Directive.implicitGraph name).text.toList := by
    show '\n' ∉ ("define input:default-graph-uri <" ++ name ++ ">").toList
    simpa using hname
  have hds : (Scope.adhoc ⟨name, o⟩ (Scope.selectAnywhere p)).OneLine := by
    unfold Scope.adhoc
    split
    · exact hreading
    · exact hreading.add hgraph
  have hbody : (Scope.adhoc ⟨name, o⟩ (Scope.selectAnywhere p)).body = Scope.selectAnywhere p := by
    unfold Scope.adhoc
    split <;> simp
  rw [ofText_text_of_isSelection hds hread (by rw [hbody]; exact isSelection_anywhere params hfeed),
    hbody, not_limited_selectAnywhere]
  rfl

/-! ### Graphs named by an IRI -/

/-- With an IRI for its graph, a pattern compiled to a count is read back as it. -/
theorem ofText_count (g : Iri) (ho : ∀ rules, o.ruleSet = some rules → '\n' ∉ rules.toList)
    (hp : p.Legible) :
    ofText (Scope.count ⟨g.text, o⟩ p).text (Scope.count ⟨g.text, o⟩ p).params =
      .ok (.count (if o.everyGraph then none else some g.text) p) :=
  ofText_count_in g.text ho hp

/-- With an IRI for its graph, the question for a match is read back. -/
theorem ofText_any (g : Iri) (ho : ∀ rules, o.ruleSet = some rules → '\n' ∉ rules.toList)
    (hp : p.Legible) (params : List Param) :
    ofText (Scope.any ⟨g.text, o⟩ p) params =
      .ok (.select (if o.everyGraph then none else some g.text) p (some 1)) :=
  ofText_any_in (fun _ => g.enclosed) ho hp params

/-- With an IRI for its graph, an enumeration is read back. -/
theorem ofText_enumerate (g : Iri)
    (ho : ∀ rules, o.ruleSet = some rules → '\n' ∉ rules.toList) (hp : p.Legible)
    (params : List Param) :
    ofText (Scope.enumerate ⟨g.text, o⟩ p) params =
      .ok (.select (if o.everyGraph then none else some g.text) p none) :=
  ofText_enumerate_in (fun _ => g.enclosed) ho hp params

/-- The conditions of a deletion are those behind the second naming of the graph. -/
theorem deletion_text (g : Iri) (hp : ∀ t ∈ p.terms, t.Readable)
    (hfree : ∀ t ∈ p.terms, t.FreeOfWhere) :
    deletion (g.text.toList ++ '>' :: (" \x7b ".toList ++ (p.text.toList ++ ' ' :: '\x7d' ::
      (" from ".toList ++ '<' :: (g.text.toList ++ '>' :: ' ' ::
        ("where \x7b".toList ++ ' ' :: (p.text.toList ++ ' ' :: ['\x7d']))))))) =
      .erase g.text p := by
  have hbracket := Iri.notMem_text (c := '>') (by decide) g
  have hbrace := Iri.notMem_text (c := '\x7b') (by decide) g
  have hblank : isBlank ' ' = true := by decide
  have hmark : '\x7b' ∈ opening := by decide
  -- The opening of the conditions has a brace in it, and an IRI has none.
  have hgraph : ¬ opening <:+: g.text.toList := not_infix_of_notMem hmark hbrace
  have hfront : ¬ opening <:+: g.text.toList ++ '>' :: (" \x7b ".toList ++
      (p.text.toList ++ [' ']) ++ '\x7d' ::
        -- Piece by piece the front has no opening in it, and at no joint one begins.
        (" from ".toList ++ '<' :: (g.text.toList ++ '>' :: [' ']))) :=
    not_infix_append (by decide) hgraph
      (not_infix_append (by decide) (text_free hfree)
        (not_infix_append (by decide) (not_infix_of_notMem hmark (by decide))
          (not_infix_append (by decide) hgraph (not_infix_of_notMem hmark (by decide)))))
  have hpattern : PatternAt (' ' :: (p.text.toList ++ ' ' :: ['\x7d'])) p [' ', '\x7d'] :=
    .blank hblank (patternAt_text hp hblank _)
  have hwords : opening = "where \x7b".toList := rfl
  refine (deletion_of_conditions hbracket hfront ?_ hpattern).trans ?_
  · simp only [hwords, List.append_assoc, List.cons_append, List.nil_append]
  · rw [String.ofList_toList]

/-- A deletion is read from behind the opening of its graph. -/
theorem ofText_erase_eq {name : String} (hname : Enclosed name) (hp : '\n' ∉ p.text.toList)
    (params : List Param) :
    ofText (Scope.erase ⟨name, o⟩ p) params =
      .ok (deletion (name.toList ++ '>' :: (" \x7b ".toList ++ (p.text.toList ++ ' ' :: '\x7d' ::
        (" from ".toList ++ '<' :: (name.toList ++ '>' :: ' ' ::
          ("where \x7b".toList ++ ' ' :: (p.text.toList ++ ' ' :: ['\x7d'])))))))) := by
  let body := Scope.eraseBody ⟨name, o⟩ p
  have hword : body.toList = "delete".toList ++ (" from graph <".toList ++ (name.toList ++
      ("> \x7b ".toList ++ (p.text.toList ++ (" \x7d from <".toList ++ (name.toList ++
        ("> where \x7b ".toList ++ (p.text.toList ++ [' ']))))))) ++ ['\x7d']) := by
    show ("delete from graph <" ++ name ++ "> \x7b " ++ p.text ++ " \x7d from <" ++ name ++
      "> where \x7b " ++ p.text ++ " \x7d").toList = _
    simp
  have hbody : IsBody body.toList := by
    rw [hword]
    have hmid := And.intro hname.feed (And.intro hp (And.intro hname.feed hp))
    exact isBody_of_word (Or.inr rfl) (by simpa using hmid) (by decide)
  have hopening : body.toList = "delete from graph <".toList ++ (name.toList ++ '>' ::
      (" \x7b ".toList ++ (p.text.toList ++ ' ' :: '\x7d' ::
        (" from ".toList ++ '<' :: (name.toList ++ '>' :: ' ' ::
          ("where \x7b".toList ++ ' ' :: (p.text.toList ++ ' ' :: ['\x7d']))))))) := by
    show ("delete from graph <" ++ name ++ "> \x7b " ++ p.text ++ " \x7d from <" ++ name ++
      "> where \x7b " ++ p.text ++ " \x7d").toList = _
    simp
  rw [Scope.erase_eq, ofText_text (Statement.oneLine_ofBody body) hbody, Statement.body_ofBody,
    hopening, isPrefixOf?_append]

/-- A pattern compiled to a deletion is read back as the deletion of its matches. -/
theorem ofText_erase (g : Iri) (hp : p.Legible) (hfree : ∀ t ∈ p.terms, t.FreeOfWhere)
    (params : List Param) :
    ofText (Scope.erase ⟨g.text, o⟩ p) params = .ok (.erase g.text p) := by
  have hfeed := feed_notMem_text fun t ht => (hp t ht).2
  rw [ofText_erase_eq g.enclosed hfeed]
  exact congrArg Except.ok (deletion_text g (fun t ht => (hp t ht).1) hfree)

/-- Whatever a name is between the brackets, no deletion is read from another graph. A name that
holds the phrase that opens the conditions may bring another pattern, or none. -/
theorem ofText_erase_in {name : String} (hname : Enclosed name) (hp : '\n' ∉ p.text.toList)
    (params : List Param) :
    ofText (Scope.erase ⟨name, o⟩ p) params = .ok .other ∨
      ∃ q, ofText (Scope.erase ⟨name, o⟩ p) params = .ok (.erase name q) := by
  rw [ofText_erase_eq hname hp]
  simp only [deletion, cutAt?_append hname.bracket, String.ofList_toList]
  split
  · -- The conditions that are found first may hold a pattern of their own.
    exact Or.inr ⟨_, rfl⟩
  · exact Or.inl rfl

/-- What a pattern is compiled to is read back as what was asked about it, in the scope it was
compiled for; no rule set and no other option of the reader changes that. -/
theorem ofText_compiled (g : Iri) (o : ReadOptions) (p : Pattern)
    (ho : ∀ rules, o.ruleSet = some rules → '\n' ∉ rules.toList) (hp : p.Legible) :
    let s : Scope := ⟨g.text, o⟩
    let graph := if o.everyGraph then none else some g.text
    ofText (s.count p).text (s.count p).params = .ok (.count graph p) ∧
      (∀ params, ofText (s.any p) params = .ok (.select graph p (some 1))) ∧
      (∀ params, ofText (s.enumerate p) params = .ok (.select graph p none)) ∧
      ((∀ t ∈ p.terms, t.FreeOfWhere) →
        ∀ params, ofText (s.erase p) params = .ok (.erase g.text p)) :=
  ⟨ofText_count g ho hp, ofText_any g ho hp, ofText_enumerate g ho hp, ofText_erase g hp⟩

/-- A literal full of quotes, backslashes and words of the language is read back as it is. -/
theorem ofText_compiled_quoted :
    let o : ReadOptions := { ruleSet := some "rules", sameAs := true }
    let g : Iri := ⟨"urn:g", by decide⟩
    let p : Pattern :=
      ⟨none, some (.iri ⟨"urn:p", by decide⟩), some (.literal (.plain "\\' > limit 1 '"))⟩
    ((∀ rules, o.ruleSet = some rules → '\n' ∉ rules.toList) ∧ p.Legible) ∧
      ofText (Scope.erase ⟨g.text, o⟩ p) [] = .ok (.erase "urn:g" p) := by
  intro o g p
  have ho : ∀ rules, o.ruleSet = some rules → '\n' ∉ rules.toList := by
    intro rules hrules
    cases hrules
    decide
  have hp : p.Legible := by decide +kernel
  exact ⟨⟨ho, hp⟩, (ofText_compiled g o p ho hp).2.2.2 (by decide +kernel) []⟩

end Request

end QuadClient
