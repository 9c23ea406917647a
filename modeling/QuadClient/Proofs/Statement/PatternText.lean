import QuadClient.Proofs.Statement.Slot

/-!
# What the text of a pattern does not hold

A pattern whose literals hold no line feed stands on one line. The phrase that opens the
conditions of a deletion ends in a brace, and the only braces of a pattern's text are those
inside its literals, so the phrase is in the text only if a literal holds it.
-/

namespace QuadClient

open QuadClient.Text

namespace Request

/-! ### Line feeds -/

/-- Guarding the quotes of a value adds backslashes and nothing else. -/
theorem mem_of_mem_guardQuotes {c : Char} {v : List Char} (h : c ∈ guardQuotes v) :
    c = '\\' ∨ c ∈ v := by
  induction v with
  | nil => cases h
  | cons d v ih =>
    rw [guardQuotes] at h
    -- A quote is written as two characters, any other character as itself.
    split at h
    · rcases List.mem_cons.1 h with h | h
      · exact Or.inl h
      · rcases List.mem_cons.1 h with h | h
        · exact Or.inr (by simp [h])
        · exact (ih h).imp_right (List.mem_cons_of_mem _)
    · rcases List.mem_cons.1 h with h | h
      · exact Or.inr (by simp [h])
      · exact (ih h).imp_right (List.mem_cons_of_mem _)

/-- What follows the quoted part of a literal holds neither a line feed nor a brace. -/
theorem inline_literal (l : Literal) :
    ∃ tail : List Char, '\n' ∉ tail ∧ '\x7b' ∉ tail ∧
      (Term.literal l).inline.toList = '\'' :: (guardQuotes l.value.toList ++ '\'' :: tail) := by
  cases l with
  | plain v =>
    refine ⟨[], by decide, by decide, ?_⟩
    simp [Term.inline, Literal.language?, Literal.shownDatatype?, Literal.value]
  | tagged v tag =>
    have hfeed := LanguageTag.notMem_text (c := '\n') (by decide) tag
    have hbrace := LanguageTag.notMem_text (c := '\x7b') (by decide) tag
    refine ⟨'@' :: tag.text.toList, by simpa using hfeed, by simpa using hbrace, ?_⟩
    simp [Term.inline, Literal.language?, Literal.value]
  | typed v dt hdt =>
    have hfeed := Iri.notMem_text (c := '\n') (by decide) dt
    have hbrace := Iri.notMem_text (c := '\x7b') (by decide) dt
    by_cases hshown : dt = Iri.langString
    · refine ⟨[], by decide, by decide, ?_⟩
      simp [Term.inline, Literal.language?, Literal.shownDatatype?, Literal.value, hshown]
    · refine ⟨'^' :: '^' :: '<' :: (dt.text.toList ++ ['>']), by simpa using hfeed,
        by simpa using hbrace, ?_⟩
      simp [Term.inline, Literal.language?, Literal.shownDatatype?, Literal.value, hshown]

theorem feed_notMem_inline {t : Term} (ht : t.OneLine) : '\n' ∉ t.inline.toList := by
  cases t with
  | iri i =>
    have := Iri.notMem_text (c := '\n') (by decide) i
    simpa [Term.inline] using this
  | blank b =>
    have := BlankLabel.notMem_text (c := '\n') (by decide) b
    simpa [Term.inline, blankMark] using this
  | literal l =>
    have hguard : '\n' ∉ guardQuotes l.value.toList := by
      intro h
      rcases mem_of_mem_guardQuotes h with h | h
      · exact absurd h (by decide)
      · exact ht h
    obtain ⟨tail, htail, -, heq⟩ := inline_literal l
    rw [heq]
    simpa using ⟨hguard, htail⟩

/-- A slot's text stands on one line, bound or not, if its name does. -/
theorem feed_notMem_slotText (slot : Option Term) (hslot : ∀ t, slot = some t → t.OneLine)
    (name : String) (hname : '\n' ∉ name.toList) :
    '\n' ∉ (Pattern.slotText slot name).toList := by
  cases slot with
  | none => simpa [Pattern.slotText] using hname
  | some t => exact feed_notMem_inline (hslot t rfl)

/-- A pattern stands on one line if its literals do. -/
theorem feed_notMem_text {p : Pattern} (hp : ∀ t ∈ p.terms, t.OneLine) :
    '\n' ∉ p.text.toList := by
  have hsubject := feed_notMem_slotText p.subject
    (fun t ht => hp t (by simp [Pattern.terms, ht])) "s" (by decide)
  have hpredicate := feed_notMem_slotText p.predicate
    (fun t ht => hp t (by simp [Pattern.terms, ht])) "p" (by decide)
  have hobject := feed_notMem_slotText p.object
    (fun t ht => hp t (by simp [Pattern.terms, ht])) "o" (by decide)
  simpa [Pattern.text] using ⟨hsubject, hpredicate, hobject⟩

/-! ### The phrase that opens the conditions of a deletion -/

/-- A phrase without backslashes in front of the guarded text is in front of the text itself. -/
theorem prefix_of_guardQuotes {phrase v : List Char} (hslash : '\\' ∉ phrase)
    (h : phrase <+: guardQuotes v) : phrase <+: v := by
  induction phrase generalizing v with
  | nil => exact List.nil_prefix
  | cons c phrase ih =>
    cases v with
    | nil => simp [guardQuotes] at h
    | cons d v =>
      rw [guardQuotes] at h
      -- A guarded quote begins with a backslash, which the phrase does not hold.
      split at h
      · have hc : c = '\\' := (List.cons_prefix_cons.1 h).1
        exact absurd (by simp [hc]) hslash
      · obtain ⟨rfl, hrest⟩ := List.cons_prefix_cons.1 h
        have hphrase : '\\' ∉ phrase := fun e => hslash (by simp [e])
        exact List.cons_prefix_cons.2 ⟨rfl, ih hphrase hrest⟩

/-- Guarding the quotes of a text puts no phrase into it that has neither quotes nor
backslashes. -/
theorem infix_of_guardQuotes {phrase v : List Char} (hslash : '\\' ∉ phrase)
    (hquote : '\'' ∉ phrase) (h : phrase <:+: guardQuotes v) : phrase <:+: v := by
  induction v with
  | nil => exact h
  | cons d v ih =>
    rw [guardQuotes] at h
    split at h
    · next hd =>
      subst hd
      -- The phrase lies behind the two characters that the quote became.
      rcases infix_split (a := []) hslash h with h | h
      · exact h.trans List.nil_infix
      · rcases infix_split (a := []) hquote h with h | h
        · exact h.trans List.nil_infix
        · exact List.infix_cons (ih h)
    · next hd =>
      rcases List.infix_cons_iff.1 h with h | h
      · have hprefix : phrase <+: guardQuotes (d :: v) := by rwa [guardQuotes, if_neg hd]
        exact (prefix_of_guardQuotes hslash hprefix).isInfix
      · exact List.infix_cons (ih h)

/-- The text of a slot opens with a sign that the phrase does not hold, and the phrase is not
in what follows the sign, up to the blank behind the slot. -/
theorem slotText_free (slot : Option Term) (hslot : ∀ t, slot = some t → t.FreeOfWhere)
    (name : String) (hname : '\x7b' ∉ name.toList) :
    ∃ c r, c ∉ opening ∧ ¬ opening <:+: r ++ [' '] ∧
      (Pattern.slotText slot name).toList = c :: r := by
  have hbrace : '\x7b' ∈ opening := by decide
  cases slot with
  | none =>
    refine ⟨'?', name.toList, by decide, not_infix_of_notMem hbrace (by simpa using hname), ?_⟩
    simp [Pattern.slotText]
  | some t =>
    -- Only the value of a literal can hold the brace that the phrase ends in.
    cases t with
    | iri i =>
      have hi := Iri.notMem_text (c := '\x7b') (by decide) i
      refine ⟨'<', i.text.toList ++ ['>'], by decide, ?_, by simp [Pattern.slotText, Term.inline]⟩
      exact not_infix_of_notMem hbrace (by simpa using hi)
    | blank b =>
      have hb := BlankLabel.notMem_text (c := '\x7b') (by decide) b
      refine ⟨'<', blankMark.toList ++ (b.text.toList ++ ['>']), by decide, ?_,
        by simp [Pattern.slotText, Term.inline]⟩
      exact not_infix_of_notMem hbrace (by simpa [blankMark] using hb)
    | literal l =>
      obtain ⟨tail, -, htail, heq⟩ := inline_literal l
      refine ⟨'\'', guardQuotes l.value.toList ++ '\'' :: tail, by decide, ?_, heq⟩
      have hvalue : ¬ opening <:+: guardQuotes l.value.toList := fun h =>
        hslot _ rfl (infix_of_guardQuotes (by decide) (by decide) h)
      rw [List.append_assoc, List.cons_append]
      exact not_infix_append (by decide) hvalue
        (not_infix_of_notMem hbrace (by simpa using htail))

/-- The pattern between its braces does not hold the phrase. -/
theorem text_free {p : Pattern} (hp : ∀ t ∈ p.terms, t.FreeOfWhere) :
    ¬ opening <:+: " \x7b ".toList ++ (p.text.toList ++ [' ']) := by
  obtain ⟨c, subject, hc, hsubject, heqs⟩ := slotText_free p.subject
    (fun t ht => hp t (by simp [Pattern.terms, ht])) "s" (by decide)
  obtain ⟨d, predicate, hd, hpredicate, heqp⟩ := slotText_free p.predicate
    (fun t ht => hp t (by simp [Pattern.terms, ht])) "p" (by decide)
  obtain ⟨e, object, he, hobject, heqo⟩ := slotText_free p.object
    (fun t ht => hp t (by simp [Pattern.terms, ht])) "o" (by decide)
  have htext : p.text.toList ++ [' '] =
      c :: (subject ++ [' '] ++ d :: (predicate ++ [' '] ++ e :: (object ++ [' ']))) := by
    simp only [Pattern.text, String.toList_append, heqs, heqp, heqo]
    simp
  rw [htext]
  exact not_infix_append hc (by decide)
    (not_infix_append hd hsubject (not_infix_append he hpredicate hobject))

end Request

end QuadClient
