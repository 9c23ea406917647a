import QuadClient.Rdf.Term

/-!
# Triples and patterns

A triple holds any term in any slot; which terms a slot may hold is decided when a triple is
coded for the store. A pattern leaves some of the slots open.
-/

namespace QuadClient

/-- A statement about a subject. -/
structure Triple where
  /-- what the statement is about -/
  subject : Term
  /-- the property -/
  predicate : Term
  /-- the value of the property -/
  object : Term
  deriving DecidableEq, Hashable

/-- A triple with open slots. -/
structure Pattern where
  /-- the subject, if it is given -/
  subject : Option Term := none
  /-- the predicate, if it is given -/
  predicate : Option Term := none
  /-- the object, if it is given -/
  object : Option Term := none
  deriving DecidableEq

/-- The form for people. -/
def Triple.display (t : Triple) : String :=
  t.subject.display ++ " " ++ t.predicate.display ++ " " ++ t.object.display ++ " ."

namespace Pattern

/-- The pattern that every triple matches. -/
def any : Pattern := {}

/-- The pattern that only this triple matches. -/
def ofTriple (t : Triple) : Pattern :=
  ⟨some t.subject, some t.predicate, some t.object⟩

/-- No slot is open. -/
def isBound (p : Pattern) : Bool :=
  p.subject.isSome && p.predicate.isSome && p.object.isSome

/-- Every slot is open. -/
def isAny (p : Pattern) : Bool :=
  p.subject.isNone && p.predicate.isNone && p.object.isNone

/-- The triple of a pattern without open slots. -/
def triple? (p : Pattern) : Option Triple := do
  return ⟨← p.subject, ← p.predicate, ← p.object⟩

/-- Whether a term fits a slot. -/
def fits (slot : Option Term) (t : Term) : Bool :=
  match slot with
  | none => true
  | some bound => bound == t

/-- Whether a triple fits every slot. -/
def accepts (p : Pattern) (t : Triple) : Bool :=
  fits p.subject t.subject && fits p.predicate t.predicate && fits p.object t.object

theorem fits_iff {slot : Option Term} {t : Term} :
    fits slot t = true ↔ ∀ b, slot = some b → b = t := by
  cases slot <;> simp [fits]

theorem accepts_iff {p : Pattern} {t : Triple} :
    p.accepts t = true ↔
      (∀ b, p.subject = some b → b = t.subject) ∧
      (∀ b, p.predicate = some b → b = t.predicate) ∧
      (∀ b, p.object = some b → b = t.object) := by
  simp [accepts, fits_iff, and_assoc]

@[simp] theorem any_accepts (t : Triple) : any.accepts t = true := rfl

/-- A pattern made from a triple accepts that triple and no other. -/
theorem ofTriple_accepts_iff {t u : Triple} : (ofTriple t).accepts u = true ↔ t = u := by
  obtain ⟨s, p, o⟩ := t
  obtain ⟨s', p', o'⟩ := u
  simp [ofTriple, accepts, fits, and_assoc]

@[simp] theorem triple?_ofTriple (t : Triple) : (ofTriple t).triple? = some t := rfl

end Pattern

end QuadClient
