import QuadClient.Text.Search

/-!
# Beginnings, ends and occurrences

What the searches of a text find. The first occurrence of a phrase is found where it was put,
if the text in front of it does not hold the phrase and the last character of the phrase stands
nowhere else in it. A phrase that does not hold some character does not reach across it, and
a text has one end behind the last of its marks.
-/

namespace QuadClient.Text

/-! ### Beginnings and ends -/

theorem isPrefixOf?_cons (c d : Char) (a s : List Char) :
    (c :: a).isPrefixOf? (d :: s) = if c == d then a.isPrefixOf? s else none := rfl

@[simp] theorem isPrefixOf?_append (a b : List Char) : a.isPrefixOf? (a ++ b) = some b := by
  induction a with
  | nil => rfl
  | cons c r ih => rw [List.cons_append, isPrefixOf?_cons, beq_self_eq_true, if_pos rfl, ih]

/-- What is found is the text behind the beginning. -/
theorem isPrefixOf?_eq_some {a s b : List Char} (h : a.isPrefixOf? s = some b) :
    s = a ++ b := by
  induction a generalizing s with
  | nil => exact Option.some.inj h
  | cons c r ih =>
    cases s with
    | nil => cases h
    | cons d s =>
      rw [isPrefixOf?_cons] at h
      split at h
      · next hc =>
        rw [ih h, LawfulBEq.eq_of_beq hc]
        rfl
      · cases h

theorem isPrefixOf?_eq_none {a s : List Char} (h : ¬ a <+: s) : a.isPrefixOf? s = none := by
  cases hs : a.isPrefixOf? s with
  | none => rfl
  | some b => exact absurd ⟨b, (isPrefixOf?_eq_some hs).symm⟩ h

theorem not_prefix_of_isPrefixOf? {a s : List Char} (h : a.isPrefixOf? s = none) : ¬ a <+: s := by
  rintro ⟨b, rfl⟩
  simp at h

@[simp] theorem isSuffixOf?_append (a b : List Char) : b.isSuffixOf? (a ++ b) = some a := by
  show ((b.reverse).isPrefixOf? (a ++ b).reverse).map List.reverse = some a
  simp

theorem isSuffixOf?_eq_some {a s b : List Char} (h : b.isSuffixOf? s = some a) : s = a ++ b := by
  obtain ⟨r, hr, rfl⟩ := Option.map_eq_some_iff.1 h
  have hs := congrArg List.reverse (isPrefixOf?_eq_some hr)
  simpa using hs

/-! ### Occurrences -/

/-- What is found stands behind the first occurrence. -/
theorem afterFirst?_eq_some {phrase s b : List Char} (hphrase : phrase ≠ [])
    (h : afterFirst? phrase s = some b) :
    ∃ a, s = a ++ (phrase ++ b) ∧ ¬ phrase <:+: a := by
  have hnil : ¬ phrase <:+: [] := fun h => hphrase (List.infix_nil.1 h)
  induction s with
  | nil => simp [afterFirst?, hphrase] at h
  | cons c r ih =>
    unfold afterFirst? at h
    split at h
    · next rest hrest =>
      -- The phrase stands right here.
      cases h
      have hr : c :: r = phrase ++ b := isPrefixOf?_eq_some hrest
      exact ⟨[], hr, hnil⟩
    · next hhere =>
      -- The phrase stands further on: it is neither here nor in the text in front of it.
      obtain ⟨a, rfl, ha⟩ := ih h
      refine ⟨c :: a, rfl, ?_⟩
      intro hinfix
      rcases List.infix_cons_iff.1 hinfix with hprefix | hinfix
      · refine not_prefix_of_isPrefixOf? hhere ?_
        exact hprefix.trans ⟨phrase ++ b, rfl⟩
      · exact ha hinfix

/-- A phrase is found where a text begins with it. -/
theorem afterFirst?_append_self (phrase b : List Char) :
    afterFirst? phrase (phrase ++ b) = some b := by
  cases hs : phrase ++ b with
  | nil =>
    obtain ⟨rfl, rfl⟩ := List.append_eq_nil_iff.1 hs
    rfl
  | cons c r =>
    simp only [afterFirst?]
    rw [← hs, isPrefixOf?_append]

/-- The phrase ends in a mark that stands nowhere else in it, so no occurrence begins in the
text in front and ends in the phrase. -/
theorem afterFirst?_append {phrase : List Char} {mark : Char} (hmark : mark ∉ phrase)
    {a : List Char} (ha : ¬ phrase ++ [mark] <:+: a) (b : List Char) :
    afterFirst? (phrase ++ [mark]) (a ++ (phrase ++ [mark] ++ b)) = some b := by
  induction a with
  | nil => exact afterFirst?_append_self _ b
  | cons c r ih =>
    have hr : ¬ phrase ++ [mark] <:+: r := fun h => ha (List.infix_cons h)
    have hnot : ¬ phrase ++ [mark] <+: c :: r ++ (phrase ++ [mark] ++ b) := by
      intro h
      -- An occurrence here would end in the text in front, or reach into the phrase.
      rcases List.prefix_or_prefix_of_prefix h (List.prefix_append _ _) with h' | ⟨x, hx⟩
      · exact ha h'.isInfix
      · -- The rest `x` of the phrase would be a beginning of the phrase itself.
        have hself : c :: r ++ x <+: c :: r ++ (phrase ++ [mark] ++ b) := by
          rw [hx]
          exact h
        rw [List.prefix_append_right_inj, List.append_assoc] at hself
        have hlen : x.length ≤ phrase.length := by
          have := congrArg List.length hx
          simp only [List.length_append, List.length_cons, List.length_nil] at this
          omega
        have hpre : x <+: phrase :=
          List.prefix_of_prefix_length_le hself (List.prefix_append _ _) hlen
        cases hlast : x.getLast? with
        | none =>
          rw [List.getLast?_eq_none_iff.1 hlast, List.append_nil] at hx
          exact ha (hx ▸ List.infix_rfl)
        | some d =>
          have hd : d = mark := by
            have hends := congrArg List.getLast? hx
            rw [List.getLast?_append, hlast] at hends
            simpa using hends
          exact hmark (hd ▸ hpre.subset (List.mem_of_getLast? hlast))
    rw [List.cons_append, afterFirst?, ← List.cons_append, isPrefixOf?_eq_none hnot]
    exact ih hr

/-- An occurrence lies on one side of a character that the phrase does not hold. -/
theorem infix_split {phrase a b : List Char} {c : Char} (hc : c ∉ phrase)
    (h : phrase <:+: a ++ c :: b) : phrase <:+: a ∨ phrase <:+: b := by
  -- The phrase is on the left, on the right, or across the character, which it would have to hold.
  rcases List.infix_append_iff.1 h with h | h | ⟨p, q, rfl, hp, hq⟩
  · exact Or.inl h
  · rcases List.infix_cons_iff.1 h with h | h
    · cases phrase with
      | nil => exact Or.inl List.nil_infix
      | cons d r =>
        obtain ⟨t, ht⟩ := h
        rw [List.cons_append, List.cons.injEq] at ht
        exact absurd (by simp [ht.1]) hc
    · exact Or.inr h
  · cases q with
    | nil => exact Or.inl (by simpa using hp.isInfix)
    | cons d r =>
      obtain ⟨t, ht⟩ := hq
      rw [List.cons_append, List.cons.injEq] at ht
      exact absurd (by simp [ht.1]) hc

/-- Two texts that do not hold a phrase, with a character between them that is not in it. -/
theorem not_infix_append {phrase a b : List Char} {c : Char} (hc : c ∉ phrase)
    (ha : ¬ phrase <:+: a) (hb : ¬ phrase <:+: b) : ¬ phrase <:+: a ++ c :: b := by
  intro h
  rcases infix_split hc h with h | h
  · exact ha h
  · exact hb h

theorem not_infix_of_notMem {phrase a : List Char} {c : Char} (hc : c ∈ phrase)
    (ha : c ∉ a) : ¬ phrase <:+: a :=
  fun h => ha (h.subset hc)

/-! ### The last mark -/

/-- A text is cut in one way around the last of its marks. -/
theorem eq_around_last {mark : Char} {a b c d : List Char} (hb : mark ∉ b) (hd : mark ∉ d)
    (h : a ++ mark :: b = c ++ mark :: d) : a = c ∧ b = d := by
  -- Read from its end, the text is cut at its first mark.
  have hback : b.reverse ++ mark :: a.reverse = d.reverse ++ mark :: c.reverse := by
    simpa using congrArg List.reverse h
  have hcut := congrArg (cutAt? mark) hback
  rw [cutAt?_append (by simpa using hb), cutAt?_append (by simpa using hd)] at hcut
  simp only [Option.some.injEq, Prod.mk.injEq, List.reverse_inj] at hcut
  exact ⟨hcut.2, hcut.1⟩

end QuadClient.Text
