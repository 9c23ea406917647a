import QuadClient.Proofs.Statement.PatternText
import QuadClient.Proofs.Statement.Understood

/-!
# Selections read back

The bodies that select the matches of a pattern. Their forms share the first words and differ
behind them: the scope is a parameter, a graph named in front of or inside the conditions, or
every graph. In the last form the text of the pattern stands where the others have a name, and
the sign that opens a slot tells them apart.
-/

namespace QuadClient

open QuadClient.Text

/-- A name that stays between the brackets it is put into, and on one line. -/
structure Enclosed (name : String) : Prop where
  bracket : '>' ∉ name.toList
  feed : '\n' ∉ name.toList

instance (name : String) : Decidable (Enclosed name) :=
  decidable_of_iff ('>' ∉ name.toList ∧ '\n' ∉ name.toList) ⟨fun h => ⟨h.1, h.2⟩, fun h => ⟨h.1, h.2⟩⟩

theorem enclosed_ofList {name : List Char} (hbracket : '>' ∉ name) (hfeed : '\n' ∉ name) :
    Enclosed (String.ofList name) := by
  refine ⟨?_, ?_⟩
  · simpa using hbracket
  · simpa using hfeed

/-- The name of a graph is an IRI, and an IRI has neither of the two. -/
theorem Iri.enclosed (g : Iri) : Enclosed g.text :=
  ⟨Iri.notMem_text (by decide) g, Iri.notMem_text (by decide) g⟩

namespace Request

/-! ### The scope of a selection -/

theorem isBlank_of_mem_space : ∀ c ∈ [' '], isBlank c = true := by
  intro c hc
  rw [List.mem_singleton.1 hc]
  decide

/-- No graph is named. A pattern opens with the sign of its first slot, which no name of a
graph begins with. -/
theorem scopeAt_anywhere (params : List Param) {c : Char} (hc : c ≠ 'g') (r : List Char) :
    ScopeAt params ("select * where \x7b".toList ++ ' ' :: c :: r) none (' ' :: c :: r) := by
  -- The other forms have the first letter of the word that names a graph where the pattern begins.
  refine .anywhere ?_ ?_
  · simp [Template.graphScope, Ne.symm hc]
  · simp [Ne.symm hc]

/-- Without parameters the name of a graph is read from between its brackets. -/
theorem enclosed_of_scopeAt {b r : List Char} {name : String} (hb : '\n' ∉ b)
    (h : ScopeAt [] b (some name) r) : Enclosed name := by
  cases h with
  | parameter hgraph => cases hgraph
  | inside hname hblanks => exact enclosed_ofList hname fun hfeed => hb (by simp [hfeed])
  | source hname hblanks => exact enclosed_ofList hname fun hfeed => hb (by simp [hfeed])

/-- The pattern stands between blanks behind the opening of a selection. -/
theorem selection_of_scope {counting : Bool} {params : List Param} {b : List Char}
    {graph : Option String} {p : Pattern} (hp : ∀ t ∈ p.terms, t.Readable) {r : List Char}
    (hscope : scope? params b = .ok (some (graph, ' ' :: (p.text.toList ++ ' ' :: r)))) :
    selection counting params b =
      if counting then .ok (.count graph p)
      else .ok (.select graph p (if "limit 1".toList.isSuffixOf b then some 1 else none)) := by
  have hblank : isBlank ' ' = true := by decide
  exact selection_of_scopeAt (scope?_eq_ok_iff.1 hscope) (.blank hblank (patternAt_text hp hblank r))

/-! ### Selections -/

/-- A body may begin with either word and end with any character that is no blank, on one line. -/
theorem isBody_of_word {w : List Char} (hw : w = "select".toList ∨ w = "delete".toList)
    {mid : List Char} (hmid : '\n' ∉ mid) {d : Char} (hd : isBlank d = false) :
    IsBody (w ++ (mid ++ [d])) := by
  have hfeed : d ≠ '\n' := by
    rintro rfl
    exact absurd hd (by decide)
  have hlast : (w ++ (mid ++ [d])).getLast? = some d := by
    rw [← List.append_assoc, List.getLast?_concat]
  rcases hw with rfl | rfl
  · refine ⟨?_, ⟨'s', rfl, by decide⟩, ⟨d, hlast, hd⟩, ?_⟩
    · simpa using ⟨hmid, Ne.symm hfeed⟩
    · have hs : isBlank 's' = false := by decide
      simp [isDirective, trimStart, hs, List.isPrefixOf]
  · refine ⟨?_, ⟨'d', rfl, by decide⟩, ⟨d, hlast, hd⟩, ?_⟩
    · simpa using ⟨hmid, Ne.symm hfeed⟩
    · have hs : isBlank 'd' = false := by decide
      simp [isDirective, trimStart, hs, List.isPrefixOf]

/-- A body that selects the matches of a pattern. -/
structure IsSelection (params : List Param) (graph : Option String) (p : Pattern)
    (b : List Char) : Prop where
  body : IsBody b
  no_deletion : "delete from graph <".toList.isPrefixOf? b = none
  scope : ∃ r, scope? params b = .ok (some (graph, ' ' :: (p.text.toList ++ ' ' :: r)))

/-- A body that begins with the word of a selection and has its scope is a selection. -/
theorem isSelection_of_word {params : List Param} {graph : Option String} {p : Pattern}
    {b mid r : List Char} {d : Char} (hb : b = "select".toList ++ (mid ++ [d]))
    (hmid : '\n' ∉ mid) (hd : isBlank d = false)
    (hscope : scope? params b = .ok (some (graph, ' ' :: (p.text.toList ++ ' ' :: r)))) :
    IsSelection params graph p b where
  body := by
    rw [hb]
    exact isBody_of_word (Or.inl rfl) hmid hd
  no_deletion := by
    rw [hb]
    simp [isPrefixOf?_cons]
  scope := ⟨r, hscope⟩

variable {params : List Param} {graph : Option String} {p : Pattern} {s : Statement}

/-- A statement with such a body is read as a selection, whatever its directives are. -/
theorem ofText_text_of_isSelection (hds : s.OneLine) (hp : ∀ t ∈ p.terms, t.Readable)
    (hs : IsSelection params graph p s.body.toList) :
    ofText s.text params = .ok (.select graph p
      (if "limit 1".toList.isSuffixOf s.body.toList then some 1 else none)) := by
  obtain ⟨r, hscope⟩ := hs.scope
  rw [ofText_text hds hs.body, hs.no_deletion]
  exact selection_of_scope hp hscope

/-- Written as a count, it is read as a count. -/
theorem ofText_countText_of_isSelection (hds : s.OneLine) (hp : ∀ t ∈ p.terms, t.Readable)
    (hs : IsSelection params graph p s.body.toList) :
    ofText s.countText params = .ok (.count graph p) := by
  obtain ⟨r, hscope⟩ := hs.scope
  rw [ofText_countText hds hs.body hs.no_deletion]
  exact selection_of_scope hp hscope

/-- A slot begins with a mark of its own, whatever stands in it. -/
theorem slotText_eq_cons (slot : Option Term) (name : String) :
    ∃ c r, c ≠ 'g' ∧ (Pattern.slotText slot name).toList = c :: r := by
  cases slot with
  | none => exact ⟨'?', name.toList, by decide, by simp [Pattern.slotText]⟩
  | some t =>
    cases t with
    | iri i =>
      exact ⟨'<', i.text.toList ++ ['>'], by decide, by simp [Pattern.slotText, Term.inline]⟩
    | blank b =>
      exact ⟨'<', blankMark.toList ++ (b.text.toList ++ ['>']), by decide,
        by simp [Pattern.slotText, Term.inline]⟩
    | literal l =>
      obtain ⟨tail, -, -, heq⟩ := inline_literal l
      exact ⟨'\'', guardQuotes l.value.toList ++ '\'' :: tail, by decide, heq⟩

/-- So does a pattern, with the mark of its first slot. -/
theorem text_eq_cons (p : Pattern) : ∃ c r, c ≠ 'g' ∧ p.text.toList = c :: r := by
  obtain ⟨c, r, hc, h⟩ := slotText_eq_cons p.subject "s"
  refine ⟨c, r ++ ' ' :: ((Pattern.slotText p.predicate "p").toList ++
    ' ' :: (Pattern.slotText p.object "o").toList), hc, ?_⟩
  simp [Pattern.text, h]

/-- A selection in every graph is read with no graph named, whatever stands behind its braces. -/
theorem scope?_selectAnywhere (params : List Param) (p : Pattern) (tail : List Char) :
    scope? params ((Scope.selectAnywhere p).toList ++ tail) =
      .ok (some (none, ' ' :: (p.text.toList ++ ' ' :: '\x7d' :: tail))) := by
  obtain ⟨c, r, hc, htext⟩ := text_eq_cons p
  have hbody : (Scope.selectAnywhere p).toList ++ tail =
      "select * where \x7b".toList ++ ' ' :: c :: (r ++ ' ' :: '\x7d' :: tail) := by
    show ("select * where \x7b " ++ p.text ++ " \x7d").toList ++ tail = _
    simp [htext]
  rw [hbody, scope?_eq_ok_iff.2 (scopeAt_anywhere params hc _), htext]
  rfl

/-- The body of a selection in every graph. -/
theorem isSelection_anywhere (params : List Param) (hp : '\n' ∉ p.text.toList) :
    IsSelection params none p (Scope.selectAnywhere p).toList := by
  have htext : (Scope.selectAnywhere p).toList =
      "select".toList ++ (" * where \x7b ".toList ++ (p.text.toList ++ [' ']) ++ ['\x7d']) := by
    show ("select * where \x7b " ++ p.text ++ " \x7d").toList = _
    simp
  have hscope := scope?_selectAnywhere params p []
  rw [List.append_nil] at hscope
  exact isSelection_of_word htext (by simpa using hp) (by decide) hscope

/-- The body of a selection of one match in every graph. -/
theorem isSelection_anywhere_limited (params : List Param) (hp : '\n' ∉ p.text.toList) :
    IsSelection params none p (Scope.selectAnywhere p ++ " limit 1").toList := by
  have htext : (Scope.selectAnywhere p ++ " limit 1").toList =
      "select".toList ++
        (" * where \x7b ".toList ++ (p.text.toList ++ " \x7d limit ".toList) ++ ['1']) := by
    show ("select * where \x7b " ++ p.text ++ " \x7d" ++ " limit 1").toList = _
    simp
  have hscope := scope?_selectAnywhere params p " limit 1".toList
  rw [← String.toList_append] at hscope
  exact isSelection_of_word htext (by simpa using hp) (by decide) hscope

/-- The body of a count in one graph, whose name is a parameter. -/
theorem isSelection_parameter (g : String) (hp : '\n' ∉ p.text.toList) :
    IsSelection [.text g] (some g) p
      ("select * where \x7b " ++ Template.graphScope ++ " \x7b " ++ p.text ++
        " \x7d \x7d").toList := by
  have htext :
      ("select * where \x7b " ++ Template.graphScope ++ " \x7b " ++ p.text ++
          " \x7d \x7d").toList =
        "select".toList ++ (" * where \x7b ".toList ++ (Template.graphScope.toList ++
          (" \x7b ".toList ++ (p.text.toList ++ " \x7d ".toList))) ++ ['\x7d']) := by
    simp
  have hopening :
      ("select * where \x7b " ++ Template.graphScope ++ " \x7b " ++ p.text ++
          " \x7d \x7d").toList =
        ("select * where \x7b " ++ Template.graphScope ++ " \x7b").toList ++
          ' ' :: (p.text.toList ++ ' ' :: "\x7d \x7d".toList) := by
    simp
  have hgraph : textParam [.text g] 0 = .ok g := rfl
  have hscope := scope?_eq_ok_iff.2
    (.parameter hgraph (' ' :: (p.text.toList ++ ' ' :: "\x7d \x7d".toList)))
  rw [← hopening] at hscope
  have hmark : '\n' ∉ Template.graphScope.toList := by decide
  exact isSelection_of_word htext (by simpa using ⟨hmark, hp⟩) (by decide) hscope

/-- The body of a selection in one graph, whose name is in the text. -/
theorem isSelection_graph (params : List Param) {name : String} (hname : Enclosed name)
    (hp : '\n' ∉ p.text.toList) :
    IsSelection params (some name) p
      ("select * where \x7b graph <" ++ name ++ "> \x7b " ++ p.text ++ " \x7d \x7d" ++
        " limit 1").toList := by
  have htext :
      ("select * where \x7b graph <" ++ name ++ "> \x7b " ++ p.text ++ " \x7d \x7d" ++
          " limit 1").toList =
        "select".toList ++ (" * where \x7b graph <".toList ++ (name.toList ++
          ("> \x7b ".toList ++ (p.text.toList ++ " \x7d \x7d limit ".toList))) ++ ['1']) := by
    simp
  have hopening :
      ("select * where \x7b graph <" ++ name ++ "> \x7b " ++ p.text ++ " \x7d \x7d" ++
          " limit 1").toList =
        "select * where \x7b graph <".toList ++ (name.toList ++ '>' :: ([' '] ++ (['\x7b'] ++
          (' ' :: (p.text.toList ++ ' ' :: "\x7d \x7d limit 1".toList))))) := by
    simp
  have hscope : scope? params _ = _ := scope?_eq_ok_iff.2 (.inside hname.bracket isBlank_of_mem_space
    (' ' :: (p.text.toList ++ ' ' :: "\x7d \x7d limit 1".toList)))
  rw [← hopening, String.ofList_toList] at hscope
  exact isSelection_of_word htext (by simpa using ⟨hname.feed, hp⟩) (by decide) hscope

/-- The body of an enumeration of one graph. -/
theorem isSelection_from (params : List Param) {name : String} (hname : Enclosed name)
    (hp : '\n' ∉ p.text.toList) :
    IsSelection params (some name) p
      ("select * from <" ++ name ++ "> where \x7b " ++ p.text ++ " \x7d").toList := by
  have htext :
      ("select * from <" ++ name ++ "> where \x7b " ++ p.text ++ " \x7d").toList =
        "select".toList ++ (" * from <".toList ++ (name.toList ++
          ("> where \x7b ".toList ++ (p.text.toList ++ [' ']))) ++ ['\x7d']) := by
    simp
  have hopening :
      ("select * from <" ++ name ++ "> where \x7b " ++ p.text ++ " \x7d").toList =
        "select * from <".toList ++ (name.toList ++ '>' :: ([' '] ++ ("where \x7b".toList ++
          (' ' :: (p.text.toList ++ ' ' :: ['\x7d']))))) := by
    simp
  have hscope : scope? params _ = _ := scope?_eq_ok_iff.2 (.source hname.bracket isBlank_of_mem_space
    (' ' :: (p.text.toList ++ ' ' :: ['\x7d'])))
  rw [← hopening, String.ofList_toList] at hscope
  exact isSelection_of_word htext (by simpa using ⟨hname.feed, hp⟩) (by decide) hscope

end Request

end QuadClient
