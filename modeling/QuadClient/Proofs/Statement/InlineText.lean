import QuadClient.Proofs.Coding.RoundTrip
import QuadClient.Proofs.Statement.Slot

/-!
# Which inline texts are read back

The inline text of a term in front of a blank is read back as the term, with two exceptions. No
slot at all is read as a literal that ends in a backslash, because the quote behind such a
backslash is taken for a guarded one. And the datatype of tagged literals is not written, so
a literal that has it without a tag has the inline text of the plain literal.
-/

namespace QuadClient

open QuadClient.Text

/-! ### Stored forms -/

/-- The quote behind the value of a literal closes it. -/
def Term.Closed : Term → Prop
  | .literal l => l.value.toList.getLast? ≠ some '\\'
  | _ => True

namespace Term

variable {t : Term}

/-- The terms that a slot reads back are those whose quotes close and whose datatype is written. -/
theorem readable_iff : t.Readable ↔ t.Closed ∧ ¬ t.IsUntaggedLangString := by
  cases t with
  | iri i => exact iff_of_true trivial ⟨trivial, id⟩
  | blank b => exact iff_of_true trivial ⟨trivial, id⟩
  | literal l => exact Iff.rfl

/-- In the text of a statement a term and its stored form are the same. -/
theorem inline_stored (t : Term) : t.stored.inline = t.inline := by
  cases t with
  | iri i => rfl
  | blank b => rfl
  | literal l =>
    by_cases h : l.IsUntaggedLangString
    · rw [stored, if_pos h]
      cases l with
      | plain v => exact h.elim
      -- The one literal that is stored as another one is an untagged literal of the tagged
      -- datatype, whose datatype is not written.
      | tagged v tag => exact h.elim
      | typed v dt hdt =>
        have hshown : (Literal.typed v dt hdt).shownDatatype? = none := if_pos h
        simp only [inline, hshown]
        rfl
    · rw [stored, if_neg h]

/-- The stored form differs in the datatype at most. -/
theorem stored_value {l : Literal} :
    ∃ l', (literal l).stored = literal l' ∧ l'.value = l.value := by
  by_cases h : l.IsUntaggedLangString
  · exact ⟨_, if_pos h, rfl⟩
  · exact ⟨_, if_neg h, rfl⟩

theorem closed_stored (h : t.Closed) : t.stored.Closed := by
  cases t with
  | iri i => trivial
  | blank b => trivial
  | literal l =>
    obtain ⟨l', hl', hvalue⟩ := stored_value (l := l)
    rw [hl', Closed, hvalue]
    exact h

theorem readable_stored (h : t.Closed) : t.stored.Readable :=
  readable_iff.2 ⟨closed_stored h, t.not_stored⟩

theorem oneLine_stored (h : t.OneLine) : t.stored.OneLine := by
  cases t with
  | iri i => trivial
  | blank b => trivial
  | literal l =>
    obtain ⟨l', hl', hvalue⟩ := stored_value (l := l)
    rw [hl', OneLine, hvalue]
    exact h

end Term

namespace Request

/-! ### What slots can hold -/

/-- A literal that is read has the value that stood between its quotes. -/
theorem value_of_literalAt {value : String} {s rest : List Char} {t : Term}
    (h : LiteralAt value s t rest) : ∃ l, t = .literal l ∧ l.value = value := by
  cases h with
  | plain _ _ => exact ⟨.plain value, rfl, rfl⟩
  | @tagged tag _ _ _ _ ht =>
    unfold Term.ofTagged at ht
    split at ht
    · cases ht
      exact ⟨_, rfl, rfl⟩
    · cases ht
  | @typed datatype _ _ _ ht =>
    unfold Term.ofTyped at ht
    split at ht
    · cases ht
      exact ⟨_, rfl, Literal.value_ofTyped _ _⟩
    · cases ht

/-- No text between angle brackets is read as a literal. -/
theorem isLiteral_of_ofNodeText {text : String} {t : Term} (h : Term.ofNodeText text = .ok t) :
    t.isLiteral = false := by
  unfold Term.ofNodeText at h
  split at h
  · unfold Term.ofLabel at h
    split at h <;> cases h
    rfl
  · unfold Term.ofIri at h
    split at h <;> cases h
    rfl

/-- Whatever the text, no slot of it is read as a literal that ends in a backslash. -/
theorem closed_of_slotAt {s rest : List Char} {slot : Option Term} (h : SlotAt s slot rest) :
    ∀ t ∈ slot, t.Closed := by
  induction h with
  | blank _ _ ih => exact ih
  | unbound _ _ => simp
  | @node _ _ t _ ht =>
    intro u hmem
    cases hmem
    have hnode := isLiteral_of_ofNodeText ht
    cases t with
    | iri i => trivial
    | blank b => trivial
    | literal l => cases hnode
  | @literal v _ _ _ hv hs =>
    intro u hmem
    cases hmem
    obtain ⟨l, rfl, hvalue⟩ := value_of_literalAt hs
    rw [Term.Closed, hvalue, String.toList_ofList]
    exact hv

/-! ### What is read -/

/-- A value between its quotes is read back if and only if it does not end in a backslash. Quotes
and other backslashes may stand in it anywhere. -/
theorem quoted?_guardQuotes_iff {v r : List Char} :
    quoted? (guardQuotes v ++ '\'' :: r) = some (v, r) ↔ v.getLast? ≠ some '\\' :=
  ⟨fun h => (quoted?_eq_some h).2, fun h => quoted?_guardQuotes h r⟩

/-- In front of a blank, the inline text of a term is read as its stored form. -/
theorem slotAt_inline_stored {t : Term} (ht : t.Closed) {c : Char} (hc : isBlank c = true)
    (r : List Char) : SlotAt (t.inline.toList ++ c :: r) (some t.stored) (c :: r) := by
  rw [← t.inline_stored]
  exact slotAt_inline (Term.readable_stored ht) hc r

/-- **Which inline texts are read back.** In front of a blank, whatever follows it, the inline text
of a term is read as the term and leaves the rest, if and only if the term is neither a literal
that ends in a backslash nor a literal without a tag that has the datatype of tagged ones. The
latter is read as the plain literal; the former is read from no text at all. A value between quotes
survives the guarding of its quotes if and only if it does not end in a backslash. -/
theorem inline_read_iff (t : Term) {c : Char} (hc : isBlank c = true) (r : List Char) :
    (slot? (t.inline.toList ++ c :: r) = some (some t, c :: r) ↔
      t.Closed ∧ ¬ t.IsUntaggedLangString) ∧
      (t.Closed → slot? (t.inline.toList ++ c :: r) = some (some t.stored, c :: r)) ∧
      (¬ t.Closed → ∀ s rest, slot? s ≠ some (some t, rest)) ∧
      ∀ v s : List Char, quoted? (guardQuotes v ++ '\'' :: s) = some (v, s) ↔
        v.getLast? ≠ some '\\' := by
  refine ⟨⟨fun h => ?_, fun ⟨hclosed, htag⟩ => ?_⟩, fun hclosed => ?_, fun hclosed s rest h => ?_,
    fun v s => quoted?_guardQuotes_iff⟩
  · have hread := slot?_eq_some_iff.1 h
    have hclosed := closed_of_slotAt hread t rfl
    -- A text is read in one way only, so the term is its own stored form.
    obtain ⟨hsame, -⟩ := (slotAt_inline_stored hclosed hc r).unique hread
    exact ⟨hclosed, Term.stored_eq_self_iff.1 (Option.some.inj hsame)⟩
  · have hread := slotAt_inline_stored hclosed hc r
    rw [Term.stored_of_not htag] at hread
    exact slot?_eq_some_iff.2 hread
  · exact slot?_eq_some_iff.2 (slotAt_inline_stored hclosed hc r)
  · exact hclosed (closed_of_slotAt (slot?_eq_some_iff.1 h) t rfl)

/-- Two backslashes in front of a quote, and a quote at the end. -/
theorem inline_read_iff_quoted :
    let t : Term := .literal (.plain "\\\\'> a\\b'")
    isBlank '\n' = true ∧
      slot? (t.inline.toList ++ ['\n', '?']) = some (some t, ['\n', '?']) := by
  intro t
  have hc : isBlank '\n' = true := by decide
  have hclosed : t.Closed := by
    show "\\\\'> a\\b'".toList.getLast? ≠ some '\\'
    decide
  exact ⟨hc, (inline_read_iff t hc ['?']).1.2 ⟨hclosed, id⟩⟩

end Request

end QuadClient
