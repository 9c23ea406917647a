import QuadClient.Proofs.Text.Lines
import QuadClient.Proofs.Text.Search
import QuadClient.Statement.Request

/-!
# The grammar of slots and scopes

What may stand where a slot or the scope of a selection is read, as judgments on a text and what
is left of it. The rest stands in the judgment because a variable and a language end where the
rest begins with a blank, and a literal without either is known by what the rest does not begin
with. The readers find exactly what the judgments say, so a text can be read in one way only.
-/

namespace QuadClient

open QuadClient.Text

namespace Request

/-! ### Judgments -/

/-- A literal behind its closing quote: the text, the literal with that value, the rest. -/
inductive LiteralAt (value : String) : List Char → Term → List Char → Prop
  | plain {rest : List Char} (htag : rest.head? ≠ some '@') (htype : ¬ "^^<".toList <+: rest) :
      LiteralAt value rest (.literal (.plain value)) rest
  | tagged {tag rest : List Char} {t : Term} (htag : ∀ c ∈ tag, isBlank c = false)
      (hrest : ∀ c ∈ rest.head?, isBlank c = true)
      (ht : Term.ofTagged value (String.ofList tag) = .ok t) :
      LiteralAt value ('@' :: (tag ++ rest)) t rest
  | typed {datatype rest : List Char} {t : Term} (hdatatype : '>' ∉ datatype)
      (ht : Term.ofTyped value (String.ofList datatype) = .ok t) :
      LiteralAt value ('^' :: '^' :: '<' :: (datatype ++ '>' :: rest)) t rest

/-- A slot behind any number of blanks: the text, the slot, the rest. The name of a variable
is any run of characters. -/
inductive SlotAt : List Char → Option Term → List Char → Prop
  | blank {c : Char} {s : List Char} {slot : Option Term} {rest : List Char}
      (hc : isBlank c = true) (hs : SlotAt s slot rest) : SlotAt (c :: s) slot rest
  | unbound {name rest : List Char} (hname : ∀ c ∈ name, isBlank c = false)
      (hrest : ∀ c ∈ rest.head?, isBlank c = true) : SlotAt ('?' :: (name ++ rest)) none rest
  | node {node rest : List Char} {t : Term} (hnode : '>' ∉ node)
      (ht : Term.ofNodeText (String.ofList node) = .ok t) :
      SlotAt ('<' :: (node ++ '>' :: rest)) (some t) rest
  | literal {v s rest : List Char} {t : Term} (hv : v.getLast? ≠ some '\\')
      (hs : LiteralAt (String.ofList v) s t rest) :
      SlotAt ('\'' :: (guardQuotes v ++ '\'' :: s)) (some t) rest

/-- The three slots of a pattern, one behind the other: the text, the pattern, the rest. -/
def PatternAt (s : List Char) (p : Pattern) (rest : List Char) : Prop :=
  ∃ behindSubject behindPredicate, SlotAt s p.subject behindSubject ∧
    SlotAt behindSubject p.predicate behindPredicate ∧ SlotAt behindPredicate p.object rest

/-- How a selection opens: its body, the graph it names, what stands inside its braces. -/
inductive ScopeAt (params : List Param) : List Char → Option String → List Char → Prop
  | parameter {graph : String} (hgraph : textParam params 0 = .ok graph) (s : List Char) :
      ScopeAt params (("select * where \x7b " ++ Template.graphScope ++ " \x7b").toList ++ s)
        (some graph) s
  | inside {graph blanks : List Char} (hgraph : '>' ∉ graph)
      (hblanks : ∀ c ∈ blanks, isBlank c = true) (s : List Char) :
      ScopeAt params
        ("select * where \x7b graph <".toList ++ (graph ++ '>' :: (blanks ++ (['\x7b'] ++ s))))
        (some (String.ofList graph)) s
  | source {graph blanks : List Char} (hgraph : '>' ∉ graph)
      (hblanks : ∀ c ∈ blanks, isBlank c = true) (s : List Char) :
      ScopeAt params
        ("select * from <".toList ++ (graph ++ '>' :: (blanks ++ ("where \x7b".toList ++ s))))
        (some (String.ofList graph)) s
  /-- No graph is named. The forms that name one behind the same words go first. -/
  | anywhere {s : List Char}
      (hparameter : ¬ ("select * where \x7b " ++ Template.graphScope ++ " \x7b").toList <+:
        "select * where \x7b".toList ++ s)
      (hinside : ¬ "select * where \x7b graph <".toList <+: "select * where \x7b".toList ++ s) :
      ScopeAt params ("select * where \x7b".toList ++ s) none s

/-! ### Quotes -/

/-- Induction on the value. A backslash of the value is followed by what its successor is
written as, and that begins with a quote only behind the value. -/
theorem quoted?_guardQuotes {v : List Char} (h : v.getLast? ≠ some '\\') (r : List Char) :
    quoted? (guardQuotes v ++ '\'' :: r) = some (v, r) := by
  induction v with
  | nil => rfl
  | cons c v ih =>
    cases v with
    -- The last character is no backslash, so the closing quote is not taken for a guarded one.
    | nil =>
      have hc : c ≠ '\\' := fun e => h (by simp [e])
      by_cases hq : c = '\''
      · subst hq
        rfl
      · simp [guardQuotes, quoted?, hc, hq]
    -- A backslash would guard a quote behind it, but the next character, however it is written,
    -- does not begin with one.
    | cons d v =>
      have hrest := ih (by simpa using h)
      by_cases hq : c = '\''
      · subst hq
        rw [guardQuotes, if_pos rfl, List.cons_append, List.cons_append, quoted?, hrest]
        rfl
      · have hnext : ∀ u, guardQuotes (d :: v) ++ '\'' :: r ≠ '\'' :: u := by
          intro u hu
          by_cases hd : d = '\''
          · subst hd
            rw [guardQuotes, if_pos rfl] at hu
            cases hu
          · rw [guardQuotes, if_neg hd, List.cons_append, List.cons.injEq] at hu
            exact hd hu.1
        rw [guardQuotes, if_neg hq, List.cons_append, quoted?, hrest]
        · rfl
        · intro u hc hu
          exact hnext u hu
        · exact hq

/-- What is read inside of quotes is a value with its quotes guarded, and it ends in no
backslash. -/
theorem quoted?_eq_some {s v rest : List Char} (h : quoted? s = some (v, rest)) :
    s = guardQuotes v ++ '\'' :: rest ∧ v.getLast? ≠ some '\\' := by
  fun_induction quoted? s generalizing v with
  | case1 => cases h
  | case2 r ih =>
    obtain ⟨⟨u, rest'⟩, hr, heq⟩ := Option.map_eq_some_iff.1 h
    cases heq
    obtain ⟨rfl, hlast⟩ := ih hr
    refine ⟨by simp [guardQuotes], ?_⟩
    cases u with
    | nil => simp
    | cons d u => simpa using hlast
  | case3 r =>
    cases h
    exact ⟨rfl, by simp⟩
  | case4 c r hescape hquote ih =>
    obtain ⟨⟨u, rest'⟩, hr, heq⟩ := Option.map_eq_some_iff.1 h
    cases heq
    obtain ⟨rfl, hlast⟩ := ih hr
    have hc : c ≠ '\'' := hquote
    refine ⟨by simp [guardQuotes, hc], ?_⟩
    cases u with
    | nil =>
      -- A backslash in front of the closing quote would have guarded it.
      intro hback
      rw [List.getLast?_singleton, Option.some.injEq] at hback
      exact hescape rest hback rfl
    | cons d u => simpa using hlast

/-! ### Literals -/

theorem toOption_eq_some {ε α : Type} {x : Except ε α} {a : α} :
    x.toOption = some a ↔ x = .ok a := by
  cases x with
  | error e => simp [Except.toOption]
  | ok b => simp [Except.toOption]

/-- A literal that is read is one of the three. -/
theorem literal?_sound {value : String} {s rest : List Char} {t : Term}
    (h : literal? value s = some (t, rest)) : LiteralAt value s t rest := by
  unfold literal? at h
  split at h
  · next r =>
    obtain ⟨u, hu, heq⟩ := Option.map_eq_some_iff.1 h
    cases heq
    obtain ⟨hr, htag, hrest⟩ := splitAtBlank_eq_iff.1 (rfl : splitAtBlank r = _)
    have := LiteralAt.tagged htag hrest (toOption_eq_some.1 hu)
    rwa [← hr] at this
  · next r =>
    -- The datatype ends at its bracket, and what is in front of it is read as an IRI.
    obtain ⟨⟨datatype, r'⟩, hcut, hread⟩ := Option.bind_eq_some_iff.1 h
    obtain ⟨u, hu, heq⟩ := Option.map_eq_some_iff.1 hread
    cases heq
    obtain ⟨rfl, hdatatype⟩ := cutAt?_eq_some hcut
    exact .typed hdatatype (toOption_eq_some.1 hu)
  · next htag htype =>
    -- Neither a tag nor a datatype begins behind the quote.
    cases h
    refine .plain ?_ ?_
    · intro hhead
      obtain ⟨r, hr⟩ := List.head?_eq_some_iff.1 hhead
      exact htag r hr
    · rintro ⟨r, hr⟩
      exact htype r hr.symm

/-- Each of the three is read. -/
theorem literal?_complete {value : String} {s rest : List Char} {t : Term}
    (h : LiteralAt value s t rest) : literal? value s = some (t, rest) := by
  cases h with
  | plain htag htype =>
    unfold literal?
    split
    · exact absurd rfl htag
    · next r => exact absurd ⟨r, rfl⟩ htype
    · rfl
  | tagged htag hrest ht =>
    simp only [literal?, splitAtBlank_eq_iff.2 ⟨rfl, htag, hrest⟩, ht]
    rfl
  | typed hdatatype ht =>
    simp only [literal?, cutAt?_append hdatatype, Option.bind_eq_bind, Option.bind_some, ht]
    rfl

theorem head?_blank {c : Char} (hc : isBlank c = true) (r : List Char) :
    ∀ d ∈ (c :: r).head?, isBlank d = true := by
  intro d hd
  rw [List.head?_cons, Option.mem_some] at hd
  exact hd ▸ hc

/-- A literal in front of a blank needs neither. -/
theorem LiteralAt.plain_of_blank {value : String} {c : Char} (hc : isBlank c = true)
    (r : List Char) : LiteralAt value (c :: r) (.literal (.plain value)) (c :: r) := by
  refine .plain ?_ ?_
  · intro hhead
    rw [List.head?_cons, Option.some.injEq] at hhead
    subst hhead
    exact absurd hc (by decide)
  · rintro ⟨s, hs⟩
    have hhead : '^' = c := (List.cons.inj hs).1
    subst hhead
    exact absurd hc (by decide)

/-! ### Slots -/

theorem slot?_of_blank {c : Char} (hc : isBlank c = true) (s : List Char) :
    slot? (c :: s) = slot? s := by
  simp only [slot?, trimStart_cons_of_blank hc]

/-- What is read behind the blanks is read with them. -/
theorem SlotAt.of_trimStart {s : List Char} {slot : Option Term} {rest : List Char}
    (h : SlotAt (trimStart s) slot rest) : SlotAt s slot rest := by
  induction s with
  | nil => exact h
  | cons c s ih =>
    cases hc : isBlank c with
    | true =>
      rw [trimStart_cons_of_blank hc] at h
      exact .blank hc (ih h)
    | false => rwa [trimStart_cons_of_not hc] at h

/-- A slot that is read is a variable, a node or a literal. -/
theorem slot?_sound {s : List Char} {slot : Option Term} {rest : List Char}
    (h : slot? s = some (slot, rest)) : SlotAt s slot rest := by
  refine SlotAt.of_trimStart ?_
  unfold slot? at h
  split at h
  · next r hopening =>
    cases h
    obtain ⟨hr, hname, hrest⟩ := splitAtBlank_eq_iff.1 (rfl : splitAtBlank r = _)
    have := SlotAt.unbound hname hrest
    rwa [← hr, ← hopening] at this
  · next r hopening =>
    rw [hopening]
    obtain ⟨⟨node, r'⟩, hcut, hread⟩ := Option.bind_eq_some_iff.1 h
    obtain ⟨t, ht, heq⟩ := Option.map_eq_some_iff.1 hread
    cases heq
    obtain ⟨rfl, hnode⟩ := cutAt?_eq_some hcut
    exact .node hnode (toOption_eq_some.1 ht)
  · next r hopening =>
    rw [hopening]
    obtain ⟨⟨v, r'⟩, hquoted, hread⟩ := Option.bind_eq_some_iff.1 h
    obtain ⟨⟨t, r''⟩, ht, heq⟩ := Option.map_eq_some_iff.1 hread
    cases heq
    obtain ⟨rfl, hlast⟩ := quoted?_eq_some hquoted
    exact .literal hlast (literal?_sound ht)
  · cases h

/-- Each slot is read, whatever is behind it. -/
theorem slot?_complete {s : List Char} {slot : Option Term} {rest : List Char}
    (h : SlotAt s slot rest) : slot? s = some (slot, rest) := by
  induction h with
  | blank hc hs ih => rw [slot?_of_blank hc, ih]
  -- The mark of a slot is no blank, so nothing is cut off its front.
  | unbound hname hrest =>
    have hmark : isBlank '?' = false := by decide
    simp only [slot?, trimStart_cons_of_not hmark, splitAtBlank_eq_iff.2 ⟨rfl, hname, hrest⟩]
  | node hnode ht =>
    have hmark : isBlank '<' = false := by decide
    simp only [slot?, trimStart_cons_of_not hmark, cutAt?_append hnode, Option.bind_eq_bind,
      Option.bind_some, ht]
    rfl
  | literal hv hs =>
    have hmark : isBlank '\'' = false := by decide
    simp only [slot?, trimStart_cons_of_not hmark, quoted?_guardQuotes hv, Option.bind_eq_bind,
      Option.bind_some, literal?_complete hs]
    rfl

/-- The reader of slots finds exactly what may stand there. -/
theorem slot?_eq_some_iff {s : List Char} {slot : Option Term} {rest : List Char} :
    slot? s = some (slot, rest) ↔ SlotAt s slot rest :=
  ⟨slot?_sound, slot?_complete⟩

/-- A slot can be read in one way only. -/
theorem SlotAt.unique {s : List Char} {slot slot' : Option Term} {rest rest' : List Char}
    (h : SlotAt s slot rest) (h' : SlotAt s slot' rest') : slot = slot' ∧ rest = rest' := by
  have heq := (slot?_eq_some_iff.2 h).symm.trans (slot?_eq_some_iff.2 h')
  simpa using heq

/-! ### Patterns -/

theorem PatternAt.blank {c : Char} {s rest : List Char} {p : Pattern} (hc : isBlank c = true)
    (h : PatternAt s p rest) : PatternAt (c :: s) p rest := by
  obtain ⟨s₁, s₂, hsubject, hpredicate, hobject⟩ := h
  exact ⟨s₁, s₂, .blank hc hsubject, hpredicate, hobject⟩

/-- The reader of patterns asks for three slots and for nothing behind them. -/
theorem pattern?_eq_some_iff {s : List Char} {p : Pattern} :
    pattern? s = some p ↔ ∃ rest, PatternAt s p rest := by
  constructor
  · intro h
    obtain ⟨⟨subject, s₁⟩, hsubject, h⟩ := Option.bind_eq_some_iff.1 h
    obtain ⟨⟨predicate, s₂⟩, hpredicate, h⟩ := Option.bind_eq_some_iff.1 h
    obtain ⟨⟨object, rest⟩, hobject, h⟩ := Option.bind_eq_some_iff.1 h
    cases h
    exact ⟨rest, s₁, s₂, slot?_eq_some_iff.1 hsubject, slot?_eq_some_iff.1 hpredicate,
      slot?_eq_some_iff.1 hobject⟩
  · rintro ⟨rest, s₁, s₂, hsubject, hpredicate, hobject⟩
    simp only [pattern?, slot?_eq_some_iff.2 hsubject, slot?_eq_some_iff.2 hpredicate,
      slot?_eq_some_iff.2 hobject, Option.bind_eq_bind, Option.bind_some]
    rfl

/-- A pattern can be read in one way only. -/
theorem PatternAt.unique {s : List Char} {p p' : Pattern} {rest rest' : List Char}
    (h : PatternAt s p rest) (h' : PatternAt s p' rest') : p = p' ∧ rest = rest' := by
  obtain ⟨s₁, s₂, hsubject, hpredicate, hobject⟩ := h
  obtain ⟨s₁', s₂', hsubject', hpredicate', hobject'⟩ := h'
  obtain ⟨hs, rfl⟩ := hsubject.unique hsubject'
  obtain ⟨hp, rfl⟩ := hpredicate.unique hpredicate'
  obtain ⟨ho, rfl⟩ := hobject.unique hobject'
  refine ⟨?_, rfl⟩
  cases p
  cases p'
  rw [Pattern.mk.injEq]
  exact ⟨hs, hp, ho⟩

/-! ### Scopes -/

/-- A name between its brackets, blanks, and the words that open the conditions. -/
theorem named_eq_some {words s r : List Char} {graph : Option String}
    (h : (do
      let (name, rest) ← cutAt? '>' s
      let rest ← words.isPrefixOf? (trimStart rest)
      return (some (String.ofList name), rest) : Option (Option String × List Char)) =
        some (graph, r)) :
    ∃ name blanks, graph = some (String.ofList name) ∧ '>' ∉ name ∧
      (∀ c ∈ blanks, isBlank c = true) ∧ s = name ++ '>' :: (blanks ++ (words ++ r)) := by
  obtain ⟨⟨name, rest⟩, hcut, hrest⟩ := Option.bind_eq_some_iff.1 h
  obtain ⟨r', hwords, heq⟩ := Option.bind_eq_some_iff.1 hrest
  cases heq
  obtain ⟨rfl, hname⟩ := cutAt?_eq_some hcut
  obtain ⟨blanks, hblanks, hall⟩ := exists_blanks rest
  rw [isPrefixOf?_eq_some hwords] at hall
  exact ⟨name, blanks, rfl, hname, hblanks, by rw [← hall]⟩

/-- A scope that is read is one of the four. -/
theorem scope?_sound {params : List Param} {b s : List Char} {graph : Option String}
    (h : scope? params b = .ok (some (graph, s))) : ScopeAt params b graph s := by
  unfold scope? at h
  dsimp only at h
  split at h
  · next r hopening =>
    rw [isPrefixOf?_eq_some hopening]
    cases hgraph : textParam params 0 with
    | error e =>
      rw [hgraph] at h
      cases h
    | ok g =>
      rw [hgraph] at h
      cases h
      exact .parameter hgraph s
  · next hparameter =>
    split at h
    · next r hopening =>
      rw [isPrefixOf?_eq_some hopening]
      obtain ⟨name, blanks, rfl, hname, hblanks, rfl⟩ := named_eq_some (Except.ok.inj h)
      exact .inside hname hblanks s
    · next hinside =>
      split at h
      · next r hopening =>
        rw [isPrefixOf?_eq_some hopening]
        obtain ⟨name, blanks, rfl, hname, hblanks, rfl⟩ := named_eq_some (Except.ok.inj h)
        exact .source hname hblanks s
      · obtain ⟨r, hopening, heq⟩ := Option.bind_eq_some_iff.1 (Except.ok.inj h)
        cases heq
        obtain rfl := isPrefixOf?_eq_some hopening
        exact .anywhere (not_prefix_of_isPrefixOf? hparameter) (not_prefix_of_isPrefixOf? hinside)

/-- Each of the four is read. -/
theorem scope?_complete {params : List Param} {b s : List Char} {graph : Option String}
    (h : ScopeAt params b graph s) : scope? params b = .ok (some (graph, s)) := by
  cases h with
  | parameter hgraph =>
    simp only [scope?, isPrefixOf?_append, hgraph]
    rfl
  | @inside name blanks hname hblanks =>
    have hparameter : ("select * where \x7b " ++ Template.graphScope ++ " \x7b").toList.isPrefixOf?
        ("select * where \x7b graph <".toList ++
          (name ++ '>' :: (blanks ++ (['\x7b'] ++ s)))) = none := by
      simp [Template.graphScope, isPrefixOf?_cons]
    have hwords : trimStart (blanks ++ (['\x7b'] ++ s)) = ['\x7b'] ++ s :=
      trimStart_append hblanks _
    simp only [scope?, hparameter, isPrefixOf?_append, cutAt?_append hname,
      Option.bind_eq_bind, Option.bind_some, hwords]
    rfl
  | @source name blanks hname hblanks =>
    have hparameter : ("select * where \x7b " ++ Template.graphScope ++ " \x7b").toList.isPrefixOf?
        ("select * from <".toList ++
          (name ++ '>' :: (blanks ++ ("where \x7b".toList ++ s)))) = none := by
      simp [Template.graphScope, isPrefixOf?_cons]
    -- The forms that go before this one begin with other words.
    have hinside : "select * where \x7b graph <".toList.isPrefixOf? ("select * from <".toList ++
        (name ++ '>' :: (blanks ++ ("where \x7b".toList ++ s)))) = none := by
      simp [isPrefixOf?_cons]
    have hwords : trimStart (blanks ++ ("where \x7b".toList ++ s)) = "where \x7b".toList ++ s := by
      rw [trimStart_append hblanks]
      simp [trimStart, isBlank]
    simp only [scope?, hparameter, hinside, isPrefixOf?_append, cutAt?_append hname,
      Option.bind_eq_bind, Option.bind_some, hwords]
    rfl
  -- That the two other forms are not there is what makes it this one.
  | anywhere hparameter hinside =>
    have hsource : "select * from <".toList.isPrefixOf?
        ("select * where \x7b".toList ++ s) = none := by
      simp [isPrefixOf?_cons]
    simp only [scope?, isPrefixOf?_eq_none hparameter, isPrefixOf?_eq_none hinside,
      hsource, isPrefixOf?_append, Option.bind_eq_bind, Option.bind_some]
    rfl

/-- The reader of scopes finds exactly what may stand there. -/
theorem scope?_eq_ok_iff {params : List Param} {b s : List Char} {graph : Option String} :
    scope? params b = .ok (some (graph, s)) ↔ ScopeAt params b graph s :=
  ⟨scope?_sound, scope?_complete⟩

/-- A scope can be read in one way only. -/
theorem ScopeAt.unique {params : List Param} {b s s' : List Char} {graph graph' : Option String}
    (h : ScopeAt params b graph s) (h' : ScopeAt params b graph' s') :
    graph = graph' ∧ s = s' := by
  have heq := (scope?_eq_ok_iff.2 h).symm.trans (scope?_eq_ok_iff.2 h')
  simpa using heq

end Request

end QuadClient
