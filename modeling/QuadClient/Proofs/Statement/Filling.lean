import QuadClient.Proofs.Statement.Pieces
import QuadClient.Proofs.Statement.PatternText

/-!
# Filling the open slots of a pattern

The open slots of a pattern stand in its text as the variables `?s ?p ?o`. Putting terms into
that text is the same as filling the slots first, as long as the reader that puts them in takes
the bound slots for what they are. It knows about quotes but not about angle brackets, and inside
quotes a backslash does nothing. So there are two things it can mistake: a question mark inside
an IRI, for a reference, and a single quote inside an IRI or a literal, for the edge of a quoted
region. The second only matters to the references behind that quote: where no question mark has a
bound name behind it, nothing is put in, however the regions lie.
-/

namespace QuadClient

namespace Substitution

variable {lookup : String → Option Term}

/-! ### Texts that are copied -/

/-- No question mark of the text is the start of a bound reference; `rest` is what follows. -/
def MarksStay (lookup : String → Option Term) : List Char → List Char → Prop
  | [], _ => True
  | c :: s, rest => (c = '?' → term? lookup (s ++ rest) = none) ∧ MarksStay lookup s rest

/-- Behind a single quote of the text no question mark is the start of a bound reference, in the
text or in the `rest` behind it. -/
def QuotesHarmless (lookup : String → Option Term) : List Char → List Char → Prop
  | [], _ => True
  | c :: s, rest =>
    (c = '\'' → MarksStay lookup (s ++ rest) []) ∧ QuotesHarmless lookup s rest

instance decidableMarksStay : (s rest : List Char) → Decidable (MarksStay lookup s rest)
  | [], _ => isTrue trivial
  | c :: s, rest =>
    have := decidableMarksStay s rest
    inferInstanceAs (Decidable ((c = '?' → term? lookup (s ++ rest) = none) ∧ _))

instance decidableQuotesHarmless :
    (s rest : List Char) → Decidable (QuotesHarmless lookup s rest)
  | [], _ => isTrue trivial
  | c :: s, rest =>
    have := decidableQuotesHarmless s rest
    inferInstanceAs (Decidable ((c = '\'' → MarksStay lookup (s ++ rest) []) ∧ _))

/-- Without question marks there is nothing to look up. -/
theorem marksStay_of_notMem {s : List Char} (h : '?' ∉ s) (rest : List Char) :
    MarksStay lookup s rest := by
  induction s with
  | nil => trivial
  | cons c s ih =>
    have hc : c ≠ '?' := fun e => h (by simp [e])
    have hs : '?' ∉ s := fun e => h (by simp [e])
    exact ⟨fun e => absurd e hc, ih hs⟩

/-- Without quotes there is nothing behind them. -/
theorem quotesHarmless_of_notMem {s : List Char} (h : '\'' ∉ s) (rest : List Char) :
    QuotesHarmless lookup s rest := by
  induction s with
  | nil => trivial
  | cons c s ih =>
    have hc : c ≠ '\'' := fun e => h (by simp [e])
    have hs : '\'' ∉ s := fun e => h (by simp [e])
    exact ⟨fun e => absurd e hc, ih hs⟩

theorem MarksStay.append {a b rest : List Char} (ha : MarksStay lookup a (b ++ rest))
    (hb : MarksStay lookup b rest) : MarksStay lookup (a ++ b) rest := by
  induction a with
  | nil => exact hb
  | cons c a ih =>
    obtain ⟨hmark, ha⟩ := ha
    refine ⟨fun e => ?_, ih ha⟩
    have hnone := hmark e
    rwa [← List.append_assoc] at hnone

/-- What is said of all question marks of a text is said of those at its end. -/
theorem MarksStay.suffix {a b rest : List Char} (h : MarksStay lookup (a ++ b) rest) :
    MarksStay lookup b rest := by
  induction a with
  | nil => exact h
  | cons c a ih => exact ih h.2

/-- Both parts are harmless, the first one in front of the second. -/
theorem QuotesHarmless.append {a b rest : List Char} (ha : QuotesHarmless lookup a (b ++ rest))
    (hb : QuotesHarmless lookup b rest) : QuotesHarmless lookup (a ++ b) rest := by
  induction a with
  | nil => exact hb
  | cons c a ih =>
    obtain ⟨hquote, ha⟩ := ha
    refine ⟨fun e => ?_, ih ha⟩
    have hstay := hquote e
    rwa [← List.append_assoc] at hstay

/-- Behind the first single quote no reference is bound. -/
theorem QuotesHarmless.behind {a b rest : List Char}
    (h : QuotesHarmless lookup (a ++ '\'' :: b) rest) : MarksStay lookup (b ++ rest) [] := by
  induction a with
  | nil => exact h.1 rfl
  | cons c a ih => exact ih h.2

/-- A delimiter ends the name, whatever stands behind it. -/
theorem term?_append {s rest : List Char} (hrest : ∀ c ∈ rest.head?, isDelimiter c = true) :
    term? lookup (s ++ rest) = term? lookup s := by
  have hname : name (s ++ rest) = name s := by
    induction s with
    | nil => exact name_append (n := []) (by simp) hrest
    | cons c s ih =>
      have hih : (s ++ rest).takeWhile (fun c => !isDelimiter c) =
          s.takeWhile fun c => !isDelimiter c := String.ofList_injective ih
      by_cases hc : isDelimiter c = true <;> simp [name, hc, hih]
  rw [term?, term?, hname]

/-- What begins with a delimiter can be put behind the rest without changing a name. -/
theorem MarksStay.behind {s rest rest' : List Char} (h : MarksStay lookup s rest)
    (hrest : ∀ c ∈ rest'.head?, isDelimiter c = true) : MarksStay lookup s (rest ++ rest') := by
  induction s with
  | nil => trivial
  | cons c s ih =>
    refine ⟨fun e => ?_, ih h.2⟩
    rw [← List.append_assoc, term?_append hrest]
    exact h.1 e

/-- Text behind a delimiter has no part in the names in front of it. -/
theorem MarksStay.cut {s rest : List Char} (h : MarksStay lookup (s ++ rest) [])
    (hrest : ∀ c ∈ rest.head?, isDelimiter c = true) : MarksStay lookup s [] := by
  induction s with
  | nil => trivial
  | cons c s ih =>
    refine ⟨fun e => ?_, ih h.2⟩
    have hnone : term? lookup (s ++ rest ++ []) = none := h.1 e
    rwa [List.append_nil, term?_append hrest, ← List.append_nil s] at hnone

/-- Only the text up to the delimiter counts behind a quote. -/
theorem QuotesHarmless.cut {s t rest : List Char} (h : QuotesHarmless lookup s (t ++ rest))
    (hrest : ∀ c ∈ rest.head?, isDelimiter c = true) : QuotesHarmless lookup s t := by
  induction s with
  | nil => trivial
  | cons c s ih =>
    refine ⟨fun e => ?_, ih h.2⟩
    have hstay := h.1 e
    rw [← List.append_assoc] at hstay
    exact hstay.cut hrest

/-- Where no reference is bound nothing can be put in, however the quotes stand. -/
theorem fromMode_of_marksStay {s : List Char} (h : MarksStay lookup s []) {mode : Mode}
    (hmode : mode ≠ .replaced) : fromMode lookup mode s = s := by
  induction s generalizing mode with
  | nil => simp [fromMode]
  | cons c s ih =>
    obtain ⟨hmark, hs⟩ := h
    cases mode with
    | plain =>
      -- The character is copied, and no state behind it replaces anything either.
      have hslash : fromMode lookup .escaped s = s := ih hs (by decide)
      have hquote : fromMode lookup (.quoted c) s = s := ih hs (by simp)
      have hplain : fromMode lookup .plain s = s := ih hs (by decide)
      by_cases hc : c = '?'
      · have hnone : term? lookup s = none := by simpa using hmark hc
        simp [fromMode, hc, hnone, hplain]
      · simp [fromMode, hc, hslash, hquote, hplain]
    | escaped =>
      have hplain : fromMode lookup .plain s = s := ih hs (by decide)
      simp [fromMode, hplain]
    | quoted mark =>
      have hnext : fromMode lookup (if c = mark then .plain else .quoted mark) s = s :=
        ih hs (by split <;> simp)
      simp [fromMode, hnext]
    | replaced => exact absurd rfl hmode

/-- The reader copies the text, and where it goes on it stands outside quotes, or nothing is put
in any more. -/
theorem fromMode_copy {s rest : List Char} (hslash : '\\' ∉ s) (hdouble : '"' ∉ s)
    (hmarks : MarksStay lookup s rest) (hquotes : QuotesHarmless lookup s rest) :
    fromMode lookup .plain (s ++ rest) = s ++ fromMode lookup .plain rest := by
  induction s with
  | nil => rfl
  | cons c s ih =>
    have hc : c ≠ '\\' := fun e => hslash (by simp [e])
    have hc' : c ≠ '"' := fun e => hdouble (by simp [e])
    have hrest := ih (fun e => hslash (by simp [e])) (fun e => hdouble (by simp [e])) hmarks.2
      hquotes.2
    by_cases hquote : c = '\''
    · -- The quote opens or closes a region; whichever it is, all that follows is copied.
      have hstay := hquotes.1 hquote
      have hquoted : fromMode lookup (.quoted c) (s ++ rest) = s ++ rest :=
        fromMode_of_marksStay hstay (by simp)
      have hplain : fromMode lookup .plain rest = rest :=
        fromMode_of_marksStay hstay.suffix (by decide)
      simp only [List.cons_append, fromMode, if_neg hc, if_pos (Or.inr hquote), hquoted, hplain]
    · by_cases hmark : c = '?'
      · have hnone := hmarks.1 hmark
        simp [fromMode, hmark, hnone, hrest]
      · simp [fromMode, hc, hc', hquote, hmark, hrest]

end Substitution

open Substitution

variable {lookup : String → Option Term}

/-! ### Terms -/

/-- The reader takes the IRI, between its brackets and in front of `rest`, for plain text. -/
def Iri.Inert (lookup : String → Option Term) (rest : List Char) (i : Iri) : Prop :=
  -- The closing bracket is no delimiter, so it belongs to a name that reaches the end.
  MarksStay lookup i.text.toList ['>'] ∧ QuotesHarmless lookup (i.text.toList ++ ['>']) rest

/-- What is written of a literal behind its value in quotes. -/
def Literal.tail (l : Literal) : List Char :=
  match l.language?, l.shownDatatype? with
  | some tag, _ => '@' :: tag.text.toList
  | none, some dt => '^' :: '^' :: '<' :: (dt.text.toList ++ ['>'])
  | none, none => []

/-- The reader takes the term in front of `rest` for what it is. -/
def Term.Inert (lookup : String → Option Term) (rest : List Char) : Term → Prop
  | .iri i => i.Inert lookup rest
  | .blank _ => True
  | .literal l =>
    -- A quote of the value has a backslash in front by then, which the reader takes no notice of.
    QuotesHarmless lookup (guardQuotes l.value.toList) ('\'' :: l.tail ++ rest) ∧
      ∀ i ∈ l.shownDatatype?, i.Inert lookup rest

instance (rest : List Char) (i : Iri) : Decidable (i.Inert lookup rest) :=
  inferInstanceAs (Decidable (_ ∧ _))

instance (rest : List Char) : (t : Term) → Decidable (t.Inert lookup rest)
  | .iri i => inferInstanceAs (Decidable (i.Inert lookup rest))
  | .blank _ => isTrue trivial
  | .literal l =>
    inferInstanceAs (Decidable
      (QuotesHarmless lookup (guardQuotes l.value.toList) ('\'' :: l.tail ++ rest) ∧
        ∀ i ∈ l.shownDatatype?, i.Inert lookup rest))

/-- The delimiter in front of `rest` ends the names of the IRI, so `rest` decides nothing. -/
theorem Iri.Inert.alone {i : Iri} {rest : List Char} (h : i.Inert lookup rest)
    (hrest : ∀ c ∈ rest.head?, isDelimiter c = true) : i.Inert lookup [] :=
  ⟨h.1, QuotesHarmless.cut h.2 hrest⟩

/-- What is taken for what it is in front of a delimiter is so at the end of a text too. -/
theorem Term.Inert.alone {t : Term} {rest : List Char} (h : t.Inert lookup rest)
    (hrest : ∀ c ∈ rest.head?, isDelimiter c = true) : t.Inert lookup [] := by
  cases t with
  | iri i => exact Iri.Inert.alone h hrest
  | blank b => trivial
  | literal l =>
    obtain ⟨hvalue, hdatatype⟩ := h
    refine ⟨?_, fun i hi => (hdatatype i hi).alone hrest⟩
    rw [List.append_nil]
    exact hvalue.cut hrest

/-- An IRI in its brackets is copied, whatever stands in front of the bracket. -/
theorem Iri.Inert.copied {i : Iri} {rest : List Char} (h : i.Inert lookup rest)
    (hrest : ∀ c ∈ rest.head?, isDelimiter c = true) (front : List Char)
    (hfront : ∀ c ∈ front, c ∈ ['^', '<']) :
    fromMode lookup .plain (front ++ (i.text.toList ++ '>' :: rest)) =
      front ++ (i.text.toList ++ '>' :: fromMode lookup .plain rest) := by
  have hfree : ∀ c, c ∉ ['^', '<'] → c ∉ front := fun c hc e => hc (hfront c e)
  have hslash := Iri.notMem_text (c := '\\') (by decide) i
  have hdouble := Iri.notMem_text (c := '"') (by decide) i
  have hmarks : MarksStay lookup (front ++ (i.text.toList ++ ['>'])) rest :=
    (marksStay_of_notMem (hfree _ (by decide)) _).append
      ((h.1.behind hrest).append (marksStay_of_notMem (by decide) rest))
  have hquotes : QuotesHarmless lookup (front ++ (i.text.toList ++ ['>'])) rest :=
    (quotesHarmless_of_notMem (hfree _ (by decide)) _).append h.2
  have hcopy := fromMode_copy (s := front ++ (i.text.toList ++ ['>']))
    (by simp [hslash, hfree '\\' (by decide)]) (by simp [hdouble, hfree '"' (by decide)])
    hmarks hquotes
  simpa using hcopy

/-- The inline text of a literal is its value in guarded quotes and what stands behind them. -/
theorem Literal.toList_inline (l : Literal) : (Term.literal l).inline.toList =
    '\'' :: (guardQuotes l.value.toList ++ '\'' :: l.tail) := by
  cases htag : l.language? with
  | some tag => simp [Term.inline, Literal.tail, htag]
  | none =>
    cases hdatatype : l.shownDatatype? with
    | some dt => simp [Term.inline, Literal.tail, htag, hdatatype]
    | none => simp [Term.inline, Literal.tail, htag, hdatatype]

/-- What stands behind the value of a literal is copied. -/
theorem Literal.tail_copied (l : Literal) {rest : List Char}
    (hrest : ∀ c ∈ rest.head?, isDelimiter c = true)
    (hinert : ∀ i ∈ l.shownDatatype?, i.Inert lookup rest) :
    fromMode lookup .plain (l.tail ++ rest) = l.tail ++ fromMode lookup .plain rest := by
  rw [Literal.tail]
  split
  · next tag htag =>
    -- A tag holds none of the characters that the reader looks for.
    have hslash := LanguageTag.notMem_text (c := '\\') (by decide) tag
    have hdouble := LanguageTag.notMem_text (c := '"') (by decide) tag
    have hsingle := LanguageTag.notMem_text (c := '\'') (by decide) tag
    have hmark := LanguageTag.notMem_text (c := '?') (by decide) tag
    exact fromMode_copy (by simpa using hslash) (by simpa using hdouble)
      (marksStay_of_notMem (by simpa using hmark) rest)
      (quotesHarmless_of_notMem (by simpa using hsingle) rest)
  · next dt htag hdatatype =>
    have hcopied := (hinert dt hdatatype).copied hrest ['^', '^', '<'] (by simp)
    simpa using hcopied
  · rfl

/-- The inline text of a term is copied. A literal with a single quote in its value is read as
a region that ends at the first of them; nothing is put in behind it. -/
theorem Term.Inert.copied {t : Term} {rest : List Char} (h : t.Inert lookup rest)
    (hrest : ∀ c ∈ rest.head?, isDelimiter c = true) :
    fromMode lookup .plain (t.inline.toList ++ rest) =
      t.inline.toList ++ fromMode lookup .plain rest := by
  cases t with
  | iri i =>
    have hcopied := Iri.Inert.copied h hrest ['<'] (by simp)
    simpa [Term.inline] using hcopied
  | blank b =>
    have hslash := BlankLabel.notMem_text (c := '\\') (by decide) b
    have hdouble := BlankLabel.notMem_text (c := '"') (by decide) b
    have hsingle := BlankLabel.notMem_text (c := '\'') (by decide) b
    have hmark := BlankLabel.notMem_text (c := '?') (by decide) b
    exact fromMode_copy (by simpa [Term.inline, blankMark] using hslash)
      (by simpa [Term.inline, blankMark] using hdouble)
      (marksStay_of_notMem (by simpa [Term.inline, blankMark] using hmark) rest)
      (quotesHarmless_of_notMem (by simpa [Term.inline, blankMark] using hsingle) rest)
  | literal l =>
    obtain ⟨hvalue, hdatatype⟩ := h
    have htail := l.tail_copied hrest hdatatype
    rw [l.toList_inline]
    by_cases hquote : '\'' ∈ l.value.toList
    · -- The region ends at the first quote of the value, and no reference behind it is bound.
      obtain ⟨a, b, hsplit, ha⟩ := List.eq_append_cons_of_mem hquote
      have hbody : '\'' ∉ a ++ ['\\'] := by simpa using ha
      have hguard : guardQuotes l.value.toList = (a ++ ['\\']) ++ '\'' :: guardQuotes b := by
        rw [hsplit, guardQuotes_append, guardQuotes_of_no_quote ha, guardQuotes, if_pos rfl]
        simp
      rw [hguard] at hvalue
      have hstay := hvalue.behind
      let behind := guardQuotes b ++ ('\'' :: l.tail ++ rest)
      have hplain : fromMode lookup .plain behind = behind :=
        fromMode_of_marksStay hstay (by decide)
      have hplain' : fromMode lookup .plain rest = rest := by
        refine fromMode_of_marksStay (MarksStay.suffix (a := guardQuotes b ++ '\'' :: l.tail) ?_)
          (by decide)
        simpa using hstay
      have hregion : fromMode lookup (.quoted '\'') (a ++ ['\\'] ++ '\'' :: behind) =
          a ++ ['\\'] ++ '\'' :: fromMode lookup .plain behind := fromMode_quoted hbody behind
      simp only [behind, List.append_assoc, List.cons_append, List.nil_append] at hplain hregion
      simp [fromMode, hguard, hregion, hplain, hplain']
    · rw [guardQuotes_of_no_quote hquote]
      have hregion : fromMode lookup (.quoted '\'') (l.value.toList ++ '\'' :: (l.tail ++ rest)) =
          l.value.toList ++ '\'' :: fromMode lookup .plain (l.tail ++ rest) :=
        fromMode_quoted hquote (l.tail ++ rest)
      simp [fromMode, hregion, htail]

/-! ### Slots and patterns -/

namespace Pattern

/-- The pattern with its open slots filled as far as their variables are bound. -/
def fill (lookup : String → Option Term) (p : Pattern) : Pattern where
  subject := p.subject.or (lookup "s")
  predicate := p.predicate.or (lookup "p")
  object := p.object.or (lookup "o")

/-- Putting terms into the text of the pattern is filling its slots. -/
def FillsText (lookup : String → Option Term) (p : Pattern) : Prop :=
  substitute lookup p.text = (p.fill lookup).text

instance (lookup : String → Option Term) (p : Pattern) : Decidable (p.FillsText lookup) :=
  inferInstanceAs (Decidable (_ = _))

/-- The reader takes every bound slot for what it is. -/
structure Inert (lookup : String → Option Term) (p : Pattern) : Prop where
  /-- the subject, in front of the other two -/
  subject : ∀ t ∈ p.subject,
    t.Inert lookup (" " ++ slotText p.predicate "p" ++ " " ++ slotText p.object "o").toList
  /-- the predicate, in front of the object -/
  predicate : ∀ t ∈ p.predicate, t.Inert lookup (" " ++ slotText p.object "o").toList
  /-- the object, at the end of the text -/
  object : ∀ t ∈ p.object, t.Inert lookup []

instance (lookup : String → Option Term) (p : Pattern) : Decidable (p.Inert lookup) :=
  decidable_of_iff (_ ∧ _ ∧ _) ⟨fun ⟨hs, hp, ho⟩ => ⟨hs, hp, ho⟩, fun h => ⟨h.1, h.2, h.3⟩⟩

/-- A variable becomes its term if it is bound, and stays if it is not. -/
theorem fromMode_variable {name : String} {rest : List Char} (hne : name ≠ "")
    (hname : ∀ c ∈ name.toList, c.isAlpha = true) (hrest : ∀ c ∈ rest.head?, isDelimiter c = true) :
    fromMode lookup .plain ((slotText none name).toList ++ rest) =
      (slotText (lookup name) name).toList ++ fromMode lookup .plain rest := by
  have hother : ∀ d : Char, d.isAlpha = false → d ∉ name.toList := by
    intro d hd hmem
    rw [hname d hmem] at hd
    cases hd
  have hfree : ∀ c ∈ name.toList, isDelimiter c = false := by
    intro c hc
    -- The letters are told from the six delimiters one by one.
    cases hdelimiter : isDelimiter c with
    | false => rfl
    | true =>
      have hmem : c ∈ [' ', ',', ')', '(', ';', '.'] := of_decide_eq_true hdelimiter
      have halpha := hname c hc
      simp only [List.mem_cons, List.not_mem_nil, or_false] at hmem
      rcases hmem with rfl | rfl | rfl | rfl | rfl | rfl <;> cases halpha
  have hread : Substitution.name (name.toList ++ rest) = name := by
    simpa using name_append hfree hrest
  cases hlookup : lookup name with
  | some t =>
    -- A bound variable is a reference piece, which is replaced.
    have hfits : (Piece.reference name).Fits lookup rest := ⟨hne, ⟨t, hlookup⟩, hfree, hrest⟩
    have hpiece := fromMode_piece hfits
    simpa [slotText, Piece.source, Piece.output, hlookup] using hpiece
  | none =>
    -- An unbound one is a question mark in front of a name that has no term.
    have hnone : term? lookup (name.toList ++ rest) = none :=
      term?_eq_none.2 (Or.inr (by rw [hread, hlookup]))
    have hmarks : MarksStay lookup ('?' :: name.toList) rest :=
      ⟨fun _ => hnone, marksStay_of_notMem (hother '?' (by decide)) rest⟩
    have hcopy := fromMode_copy (s := '?' :: name.toList)
      (by simpa using hother '\\' (by decide)) (by simpa using hother '"' (by decide)) hmarks
      (quotesHarmless_of_notMem (by simpa using hother '\'' (by decide)) rest)
    simpa [slotText] using hcopy

/-- A slot is copied if it is bound, and filled from the lookup if it is open. -/
theorem fromMode_slotText {slot : Option Term} (name : String) (rest : List Char)
    (hne : name ≠ "") (hname : ∀ c ∈ name.toList, c.isAlpha = true)
    (hrest : ∀ c ∈ rest.head?, isDelimiter c = true) (hslot : ∀ t ∈ slot, t.Inert lookup rest) :
    fromMode lookup .plain ((slotText slot name).toList ++ rest) =
      (slotText (slot.or (lookup name)) name).toList ++ fromMode lookup .plain rest := by
  cases slot with
  | none => exact fromMode_variable hne hname hrest
  | some t => exact (hslot t rfl).copied hrest

/-- **Putting terms into the text fills the slots.** Take a pattern none of whose IRIs has a
question mark in front of a bound name and in whose text no question mark in front of a bound name
follows a single quote of an IRI or of a literal's value. Putting the terms of a lookup into its
text gives the text of the pattern whose open slots are filled with them, and the inline text of a
bound slot is not changed, whatever else its IRI or its value holds. -/
theorem substitute_text {lookup : String → Option Term} {p : Pattern} (h : p.Inert lookup) :
    p.FillsText lookup ∧ ∀ t ∈ p.terms, substitute lookup t.inline = t.inline := by
  obtain ⟨hsubject, hpredicate, hobject⟩ := h
  have hblank : ∀ rest : List Char, ∀ c ∈ (' ' :: rest).head?, isDelimiter c = true := by
    intro rest c hc
    cases hc
    rfl
  have hend : ∀ c ∈ ([] : List Char).head?, isDelimiter c = true := by simp
  constructor
  · -- From the last slot to the first: each one takes the text behind it as already read.
    have ho := fromMode_slotText "o" [] (by decide) (by simp) hend hobject
    have hp := fromMode_slotText "p" (' ' :: (slotText p.object "o").toList)
      (by decide) (by simp) (hblank _) fun t ht => by simpa using hpredicate t ht
    have hs := fromMode_slotText "s"
      (' ' :: ((slotText p.predicate "p").toList ++ ' ' :: (slotText p.object "o").toList))
      (by decide) (by simp) (hblank _) fun t ht => by simpa using hsubject t ht
    rw [fromMode_delimiter (by decide)] at hs hp
    rw [List.append_nil] at ho
    rw [hp, ho] at hs
    have htext : p.text.toList = (slotText p.subject "s").toList ++
        ' ' :: ((slotText p.predicate "p").toList ++ ' ' :: (slotText p.object "o").toList) := by
      simp [Pattern.text]
    rw [FillsText, substitute, htext, hs]
    apply String.toList_injective
    simp [Pattern.text, fill, fromMode]
  · have hinert : ∀ t ∈ p.terms, t.Inert lookup [] := by
      intro t ht
      simp only [Pattern.terms, List.mem_append, Option.mem_toList] at ht
      rcases ht with (ht | ht) | ht
      · have hbehind := hsubject t ht
        -- A blank or the end of the text stands behind each slot.
        simp only [String.toList_append] at hbehind
        exact hbehind.alone (hblank _)
      · have hbehind := hpredicate t ht
        simp only [String.toList_append] at hbehind
        exact hbehind.alone (hblank _)
      · exact hobject t ht
    intro t ht
    have hcopied := (hinert t ht).copied hend
    rw [List.append_nil] at hcopied
    rw [substitute, hcopied]
    apply String.toList_injective
    simp [fromMode]

/-- A lookup that binds the subject of a pattern and nothing else. -/
def bindsSubject (name : String) : Option Term :=
  if name = "s" then some (.iri ⟨"urn:a", by decide⟩) else none

/-- Question marks that no bound name follows, in front of a quote and behind it. -/
def hardSlots : Pattern :=
  ⟨none, some (.iri ⟨"urn:p?q", by decide⟩), some (.literal (.plain "?s it's ?s\\"))⟩

theorem substitute_text_hardSlots :
    hardSlots.Inert bindsSubject ∧
      (hardSlots.fill bindsSubject).subject = some (.iri ⟨"urn:a", by decide⟩) ∧
      hardSlots.FillsText bindsSubject := by
  have hinert : hardSlots.Inert bindsSubject := by decide
  exact ⟨hinert, rfl, (substitute_text hinert).1⟩

/-- Elsewhere the two differ: a reference is found inside an IRI, or behind a quote inside a
literal, or one is missed because a quote inside an IRI opened a region. -/
theorem not_substitute_text_misread :
    ¬ Pattern.FillsText bindsSubject ⟨none, none, some (.iri ⟨"urn:x?s.y", by decide⟩)⟩ ∧
      ¬ Pattern.FillsText bindsSubject ⟨none, none, some (.literal (.plain "it's ?s "))⟩ ∧
      ¬ Pattern.FillsText (fun _ => bindsSubject "s")
        ⟨some (.iri ⟨"urn:o'x", by decide⟩), none, none⟩ := by
  refine ⟨?_, ?_, ?_⟩ <;> decide +kernel

end Pattern

end QuadClient
