import QuadClient.Coding.Cell
import QuadClient.Local.Change
import QuadClient.Proofs.Outcome

/-!
# Coded terms read back

The parameters of a template give the triple back that was coded into them, and the cell of a
term stands for that term. One kind of literal is the exception: without a tag, the datatype of
tagged literals is not written down, so such a literal comes back as the plain one.
-/

namespace QuadClient

/-! ### The term a store keeps -/

/-- The term that comes back once a term was written down. -/
def Term.stored (t : Term) : Term :=
  match t with
  | .literal l => if l.IsUntaggedLangString then .literal (.plain l.value) else .literal l
  | t => t

/-- The triple that comes back once a triple was written down. -/
def Triple.stored (t : Triple) : Triple :=
  { t with object := t.object.stored }

theorem Term.stored_of_not {t : Term} (h : ¬ t.IsUntaggedLangString) : t.stored = t := by
  cases t with
  | iri i => rfl
  | blank b => rfl
  | literal l => exact if_neg h

/-- What is kept is never that kind of literal. -/
theorem Term.not_stored (t : Term) : ¬ t.stored.IsUntaggedLangString := by
  cases t with
  | iri i => exact id
  | blank b => exact id
  | literal l =>
    by_cases h : l.IsUntaggedLangString
    · rw [Term.stored, if_pos h]
      exact id
    · rw [Term.stored, if_neg h]
      exact h

/-- The term itself comes back, unless it is a literal that no text form tells from a plain one. -/
theorem Term.stored_eq_self_iff {t : Term} : t.stored = t ↔ ¬ t.IsUntaggedLangString :=
  ⟨fun h => h ▸ t.not_stored, stored_of_not⟩

theorem Triple.stored_of_not {t : Triple} (h : ¬ t.object.IsUntaggedLangString) :
    t.stored = t := by
  rw [Triple.stored, Term.stored_of_not h]

/-! ### Slots -/

/-- The slots of a term give back the term that the store keeps. -/
theorem Term.ofSlots_objectCode (t : Term) :
    Term.ofSlots t.objectCode.kind.code t.objectCode.value t.objectCode.extra = .ok t.stored := by
  cases t with
  | iri i => simp [objectCode, ofSlots, stored]
  | blank b => simp [objectCode, ofSlots, stored]
  | literal l =>
    cases l with
    | plain v =>
      simp [objectCode, ofSlots, stored, Literal.language?, Literal.shownDatatype?, Literal.value,
        Literal.IsUntaggedLangString]
    | tagged v tag =>
      simp [objectCode, ofSlots, stored, Literal.language?, Literal.value,
        Literal.IsUntaggedLangString]
    -- A datatype is written down if it is not the one of tagged literals.
    | typed v dt hdt =>
      by_cases h : dt = Iri.langString
      · simp [objectCode, ofSlots, stored, Literal.language?, Literal.shownDatatype?,
          Literal.value, Literal.IsUntaggedLangString, h]
      · simp [objectCode, ofSlots, stored, Literal.language?, Literal.shownDatatype?,
          Literal.value, Literal.IsUntaggedLangString, h, hdt]

/-- The slots of a term always give a term back, and it is the term itself except for one kind of
literal: without a tag, the datatype of tagged literals is not written into the slots. -/
theorem Term.ofSlots_objectCode_eq_self_iff (t : Term) :
    Term.ofSlots t.objectCode.kind.code t.objectCode.value t.objectCode.extra = .ok t.stored ∧
    (Term.ofSlots t.objectCode.kind.code t.objectCode.value t.objectCode.extra = .ok t ↔
      ¬ t.IsUntaggedLangString) := by
  refine ⟨Term.ofSlots_objectCode t, ?_⟩
  rw [Term.ofSlots_objectCode, Except.ok.injEq]
  exact Term.stored_eq_self_iff

/-- A literal typed with the datatype of tagged literals loses its datatype in the slots. -/
theorem Term.not_ofSlots_objectCode_untagged :
    ¬ ∀ t : Term,
      Term.ofSlots t.objectCode.kind.code t.objectCode.value t.objectCode.extra = .ok t := by
  intro h
  have hplain : Term.ofSlots 3 "a" none = .ok (.literal (.plain "a")) := rfl
  have htyped := h (.literal (.typed "a" .langString (by decide)))
  cases hplain.symm.trans htyped

/-- The text of a subject gives the subject back, and it is no literal. -/
theorem Term.nodeText_subject {t : Term} {s : String} (h : t.nodeText .subject = .ok s) :
    Term.ofNodeText s = .ok t ∧ t.isLiteral = false := by
  cases t with
  | iri i =>
    cases h
    exact ⟨ofNodeText_iri i, rfl⟩
  | blank b =>
    cases h
    exact ⟨ofNodeText_blank b, rfl⟩
  | literal l => cases h

/-- The text of a predicate gives the predicate back, and it is an IRI. -/
theorem Term.nodeText_predicate {t : Term} {s : String} (h : t.nodeText .predicate = .ok s) :
    Term.ofNodeText s = .ok t ∧ t.isIri = true := by
  cases t with
  | iri i =>
    cases h
    exact ⟨ofNodeText_iri i, rfl⟩
  | blank b => cases h
  | literal l => cases h

/-! ### Triples -/

variable {t : Triple} {e : TripleCode}

/-- What it takes for a triple to be coded. -/
theorem Triple.encode_eq_ok :
    t.encode = .ok e ↔ ∃ subject predicate, t.subject.nodeText .subject = .ok subject ∧
      t.predicate.nodeText .predicate = .ok predicate ∧
        e = ⟨subject, predicate, t.object.objectCode⟩ := by
  simp only [encode, bind_eq_ok, pure, Except.pure, Except.ok.injEq]
  constructor
  · rintro ⟨subject, hs, predicate, hp, rfl⟩
    exact ⟨subject, predicate, hs, hp, rfl⟩
  · rintro ⟨subject, predicate, hs, hp, rfl⟩
    exact ⟨subject, hs, predicate, hp, rfl⟩

theorem Triple.isStorable_of_encode (h : t.encode = .ok e) : t.isStorable = true := by
  obtain ⟨subject, predicate, hs, hp, -⟩ := Triple.encode_eq_ok.1 h
  rw [isStorable, (Term.nodeText_subject hs).2, (Term.nodeText_predicate hp).2]
  rfl

/-- Codes are there for the triples that may be stored, and for no others. -/
theorem Triple.exists_encode_iff (t : Triple) : (∃ e, t.encode = .ok e) ↔ t.isStorable = true := by
  constructor
  · rintro ⟨e, he⟩
    exact isStorable_of_encode he
  · obtain ⟨subject, predicate, object⟩ := t
    cases subject with
    -- The cases that are left out have a literal as the subject, or a predicate that is not an
    -- IRI.
    | literal l => exact nofun
    | iri i =>
      cases predicate with
      | iri j => exact fun _ => ⟨_, rfl⟩
      | blank b => exact nofun
      | literal l => exact nofun
    | blank b =>
      cases predicate with
      | iri j => exact fun _ => ⟨_, rfl⟩
      | blank b' => exact nofun
      | literal l => exact nofun

/-- The parameters of a template give the triple back, and the graph. -/
theorem Request.tripleParams_params (h : t.encode = .ok e) (graph : String) :
    Request.tripleParams (e.params graph) = .ok (graph, t.stored) := by
  obtain ⟨subject, predicate, hs, hp, rfl⟩ := Triple.encode_eq_ok.1 h
  -- Each of the parameters is read on its own, and together they give the graph and the triple.
  have hsubject := (Term.nodeText_subject hs).1
  have hpredicate := (Term.nodeText_predicate hp).1
  have hobject := Term.ofSlots_objectCode t.object
  have htext (s : String) : (Param.text s).text? = some s := rfl
  have hint (n : Int) : (Param.int n).int? = some n := rfl
  simp only [Request.tripleParams, TripleCode.params, ObjectCode.params, List.length_cons,
    List.length_nil, if_true, Request.textParam, Request.nodeParam, List.getElem?_cons_zero,
    List.getElem?_cons_succ, Option.bind_some, htext, hint, Param.text?_ofText?, bind,
    Except.bind, hsubject, hpredicate, hobject, Request.paramTerm]
  rfl

/-! ### Cells -/

/-- The cell of a term stands for the term. -/
theorem Cell.term?_ofTerm (t : Term) : (Cell.ofTerm t).term? = some t.stored := by
  have hflag : Cell.flaggedIri &&& Cell.flaggedIri = Cell.flaggedIri := by decide
  cases t with
  | iri i => simp [ofTerm, term?, extendedTerm, hflag, Term.stored, Except.toOption]
  | blank b => simp [ofTerm, term?, extendedTerm, hflag, Term.stored, Except.toOption]
  | literal l =>
    cases l with
    | plain v =>
      simp [ofTerm, term?, boxedTerm, Term.stored, Literal.language?, Literal.shownDatatype?,
        Literal.value, Literal.IsUntaggedLangString, Except.toOption]
    | tagged v tag =>
      simp [ofTerm, term?, boxedTerm, Term.stored, Literal.language?, Literal.value,
        Literal.IsUntaggedLangString, Except.toOption]
    | typed v dt hdt =>
      -- A literal without a tag is put into its cell with its datatype, unless that is the one of
      -- tagged literals.
      by_cases h : dt = Iri.langString
      · simp [ofTerm, term?, boxedTerm, Term.stored, Literal.language?, Literal.shownDatatype?,
          Literal.value, Literal.IsUntaggedLangString, h, Except.toOption]
      · simp [ofTerm, term?, boxedTerm, Term.stored, Literal.language?, Literal.shownDatatype?,
          Literal.value, Literal.IsUntaggedLangString, h, hdt, Except.toOption]

/-- What comes back is of the same kind. -/
theorem Term.kind_stored (t : Term) : t.stored.isIri = t.isIri ∧ t.stored.isBlank = t.isBlank ∧
    t.stored.isLiteral = t.isLiteral := by
  cases t with
  | iri i => exact ⟨rfl, rfl, rfl⟩
  | blank b => exact ⟨rfl, rfl, rfl⟩
  | literal l =>
    by_cases h : l.IsUntaggedLangString
    · rw [Term.stored, if_pos h]
      exact ⟨rfl, rfl, rfl⟩
    · rw [Term.stored, if_neg h]
      exact ⟨rfl, rfl, rfl⟩

/-- A datatype is an absolute IRI, so the reader does not complete it. -/
theorem Cell.boxedTerm_datatype (value : String) (datatype : Iri) :
    boxedTerm value none (some datatype.text) = .ok (.literal (.ofTyped value datatype)) := by
  simp [boxedTerm]

/-- **Cells give terms back.** The cell of every term stands for a term of the same kind: a blank
node is never taken for an IRI, nor an IRI for a literal. It is the term itself if and only if the
term is not a literal without a tag that has the datatype of tagged ones; such a literal comes back
as the plain one of the same value. No IRI of a datatype is taken for a name in the schema
namespace. -/
theorem Cell.ofTerm_read_iff (t : Term) :
    (ofTerm t).term? = some t.stored ∧
      ((ofTerm t).term? = some t ↔ ¬ t.IsUntaggedLangString) ∧
      (∀ u, (ofTerm t).term? = some u →
        u.isIri = t.isIri ∧ u.isBlank = t.isBlank ∧ u.isLiteral = t.isLiteral) ∧
      (∀ l : Literal, l.IsUntaggedLangString →
        (ofTerm (.literal l)).term? = some (.literal (.plain l.value))) ∧
      ∀ (value : String) (datatype : Iri),
        (Cell.boxed value none (some datatype.text)).term? =
          some (.literal (.ofTyped value datatype)) := by
  refine ⟨term?_ofTerm t, ?_, fun u hu => ?_, fun l hl => ?_, fun value datatype => ?_⟩
  · rw [term?_ofTerm, Option.some.injEq]
    exact Term.stored_eq_self_iff
  · rw [term?_ofTerm, Option.some.injEq] at hu
    exact hu ▸ t.kind_stored
  · rw [term?_ofTerm, Term.stored, if_pos hl]
  · rw [term?, boxedTerm_datatype]
    rfl

end QuadClient
