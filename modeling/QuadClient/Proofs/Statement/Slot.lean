import QuadClient.Proofs.Iri.Characters
import QuadClient.Proofs.Rdf.Characters
import QuadClient.Proofs.Statement.Grammar
import QuadClient.Statement.Compile

/-!
# Slots read back

A slot of a statement holds a variable or the inline text of a term, and the reader of slots
finds what the printer put there. Quotes inside a literal have a backslash in front, and each
backslash that was put in is the one directly before its quote: whatever backslashes the
literal holds itself, the reader pairs the quote with that one. Only a backslash at the very
end of a literal is paired with the closing quote by mistake.
-/

namespace QuadClient

open QuadClient.Text

/-! ### Terms that can be read back -/

/-- The inline text of the term is read back as the term. -/
def Term.Readable : Term → Prop
  | .literal l => l.value.toList.getLast? ≠ some '\\' ∧ ¬ l.IsUntaggedLangString
  | _ => True

/-- No line of a statement ends inside the inline text of the term. -/
def Term.OneLine : Term → Prop
  | .literal l => '\n' ∉ l.value.toList
  | _ => True

/-- The phrase that opens the conditions of a deletion. -/
def Request.opening : List Char := "where \x7b".toList

/-- The phrase that opens the conditions of a deletion does not stand in the term. -/
def Term.FreeOfWhere : Term → Prop
  | .literal l => ¬ Request.opening <:+: l.value.toList
  | _ => True

instance : (t : Term) → Decidable t.Readable
  | .iri _ => isTrue trivial
  | .blank _ => isTrue trivial
  | .literal l =>
    inferInstanceAs (Decidable (l.value.toList.getLast? ≠ some '\\' ∧ ¬ l.IsUntaggedLangString))

instance : (t : Term) → Decidable t.OneLine
  | .iri _ => isTrue trivial
  | .blank _ => isTrue trivial
  | .literal l => inferInstanceAs (Decidable ('\n' ∉ l.value.toList))

instance : (t : Term) → Decidable t.FreeOfWhere
  | .iri _ => isTrue trivial
  | .blank _ => isTrue trivial
  | .literal l => inferInstanceAs (Decidable (¬ Request.opening <:+: l.value.toList))

/-- The terms in the bound slots. -/
def Pattern.terms (p : Pattern) : List Term :=
  p.subject.toList ++ p.predicate.toList ++ p.object.toList

/-- Every bound slot can be read back from a statement. -/
def Pattern.Legible (p : Pattern) : Prop :=
  ∀ t ∈ p.terms, t.Readable ∧ t.OneLine

instance (p : Pattern) : Decidable p.Legible :=
  inferInstanceAs (Decidable (∀ t ∈ p.terms, t.Readable ∧ t.OneLine))

/-- Every bound slot holds an IRI or a blank node. -/
def Pattern.NodesOnly (p : Pattern) : Prop :=
  ∀ t ∈ p.terms, t.isLiteral = false

instance (p : Pattern) : Decidable p.NodesOnly :=
  inferInstanceAs (Decidable (∀ t ∈ p.terms, t.isLiteral = false))

/-- Only a literal can be misread. -/
theorem Pattern.NodesOnly.legible {p : Pattern} (hp : p.NodesOnly) : p.Legible := by
  intro t ht
  have hnode := hp t ht
  cases t with
  | iri i => exact ⟨trivial, trivial⟩
  | blank b => exact ⟨trivial, trivial⟩
  | literal l => cases hnode

namespace Request

/-! ### Slots -/

/-- The inline text of a literal is read back up to the blank behind it. -/
theorem slotAt_inline_literal {l : Literal} (hlast : l.value.toList.getLast? ≠ some '\\')
    (htag : ¬ l.IsUntaggedLangString) {c : Char} (hc : isBlank c = true) (r : List Char) :
    SlotAt ((Term.literal l).inline.toList ++ c :: r) (some (.literal l)) (c :: r) := by
  cases l with
  | plain v =>
    have := SlotAt.literal hlast (LiteralAt.plain_of_blank hc r)
    simpa [Term.inline, Literal.language?, Literal.shownDatatype?, Literal.value] using this
  | tagged v tag =>
    -- A tag has no blank in it, so it ends at the blank behind it.
    have hword : ∀ d ∈ tag.text.toList, isBlank d = false := fun d hd =>
      LanguageTag.isBlank_of_isTagChar (LanguageTag.isTagChar_of_mem hd)
    have hread : Term.ofTagged (String.ofList v.toList) (String.ofList tag.text.toList) =
        .ok (.literal (.tagged v tag)) := by
      rw [String.ofList_toList, String.ofList_toList, Term.ofTagged_text]
    have := SlotAt.literal hlast (LiteralAt.tagged hword (head?_blank hc r) hread)
    simpa [Term.inline, Literal.language?, Literal.value] using this
  | typed v dt hdt =>
    have hshown : dt ≠ Iri.langString := htag
    -- A datatype is an IRI, which has no closing bracket in it.
    have hbracket : '>' ∉ dt.text.toList := Iri.notMem_text (by decide) dt
    have hread : Term.ofTyped (String.ofList v.toList) (String.ofList dt.text.toList) =
        .ok (.literal (.ofTyped v dt)) := by
      rw [String.ofList_toList, String.ofList_toList, Term.ofTyped_text]
    have : SlotAt ('\'' :: (guardQuotes v.toList ++
        '\'' :: '^' :: '^' :: '<' :: (dt.text.toList ++ '>' :: c :: r))) _ _ :=
      .literal hlast (.typed hbracket hread)
    simpa [Term.inline, Literal.language?, Literal.shownDatatype?, hshown, Literal.value, hdt]
      using this

/-- The inline text of a term is read back up to the blank behind it. -/
theorem slotAt_inline {t : Term} (ht : t.Readable) {c : Char} (hc : isBlank c = true)
    (r : List Char) : SlotAt (t.inline.toList ++ c :: r) (some t) (c :: r) := by
  cases t with
  | iri i =>
    have hi : '>' ∉ i.text.toList := Iri.notMem_text (by decide) i
    have hread : Term.ofNodeText (String.ofList i.text.toList) = .ok (.iri i) := by
      rw [String.ofList_toList, Term.ofNodeText_iri]
    have : SlotAt ('<' :: (i.text.toList ++ '>' :: c :: r)) _ _ := .node hi hread
    simpa [Term.inline] using this
  | blank b =>
    -- The label of a blank node has none either.
    have hb : '>' ∉ (blankMark ++ b.text).toList := by
      have := BlankLabel.notMem_text (c := '>') (by decide) b
      simpa [blankMark] using this
    have hread : Term.ofNodeText (String.ofList (blankMark ++ b.text).toList) = .ok (.blank b) := by
      rw [String.ofList_toList, Term.ofNodeText_blank]
    have : SlotAt ('<' :: ((blankMark ++ b.text).toList ++ '>' :: c :: r)) _ _ := .node hb hread
    simpa [Term.inline, blankMark] using this
  | literal l => exact slotAt_inline_literal ht.1 ht.2 hc r

/-- A slot is read back up to the blank behind it. -/
theorem slotAt_slotText (slot : Option Term) (hslot : ∀ t, slot = some t → t.Readable)
    (name : String) (hname : ∀ d ∈ name.toList, isBlank d = false) {c : Char}
    (hc : isBlank c = true) (r : List Char) :
    SlotAt ((Pattern.slotText slot name).toList ++ c :: r) slot (c :: r) := by
  cases slot with
  | none =>
    have := SlotAt.unbound hname (head?_blank hc r)
    simpa [Pattern.slotText] using this
  | some t => exact slotAt_inline (hslot t rfl) hc r

/-! ### Patterns -/

/-- The text of a pattern is read back, whatever stands behind the blank after it. -/
theorem patternAt_text {p : Pattern} (hp : ∀ t ∈ p.terms, t.Readable) {c : Char}
    (hc : isBlank c = true) (r : List Char) : PatternAt (p.text.toList ++ c :: r) p (c :: r) := by
  have hblank : isBlank ' ' = true := by decide
  -- The names of the three variables are single letters.
  have hname (d : Char) (hd : isBlank d = false) : ∀ e ∈ [d], isBlank e = false := by
    intro e he
    rw [List.mem_singleton.1 he]
    exact hd
  -- From the last slot to the first, each has the rest of the text behind it.
  have hobject := slotAt_slotText p.object
    (fun t ht => hp t (by simp [Pattern.terms, ht])) "o" (hname 'o' (by decide)) hc r
  have hpredicate := slotAt_slotText p.predicate
    (fun t ht => hp t (by simp [Pattern.terms, ht])) "p" (hname 'p' (by decide)) hblank
    ((Pattern.slotText p.object "o").toList ++ c :: r)
  have hsubject := slotAt_slotText p.subject
    (fun t ht => hp t (by simp [Pattern.terms, ht])) "s" (hname 's' (by decide)) hblank
    ((Pattern.slotText p.predicate "p").toList ++
      ' ' :: ((Pattern.slotText p.object "o").toList ++ c :: r))
  refine ⟨_, _, ?_, .blank hblank hpredicate, .blank hblank hobject⟩
  simpa [Pattern.text] using hsubject

end Request

end QuadClient
