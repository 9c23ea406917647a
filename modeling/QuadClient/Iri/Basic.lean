import QuadClient.Iri.Syntax

/-!
# Absolute IRIs

An `Iri` is a text that passed the syntax check, kept exactly as it was written.
-/

namespace QuadClient

instance (s : List Char) : Decidable (Iri.Syntax.check s = .ok ()) :=
  match h : Iri.Syntax.check s with
  | .ok () => isTrue rfl
  | .error _ => isFalse (by simp)

/-- An absolute IRI. -/
structure Iri where
  /-- the text as it was written -/
  text : String
  /-- the text is an absolute IRI -/
  valid : Iri.Syntax.check text.toList = .ok ()
  deriving DecidableEq

namespace Iri

instance : Hashable Iri := ⟨fun i => hash i.text⟩

/-- Two IRIs with the same text are the same IRI. -/
@[ext] theorem ext {a b : Iri} (h : a.text = b.text) : a = b := by
  cases a; cases b; cases h; rfl

/-- Checks a text; the error names the first fault. -/
def parse (text : String) : Except Fault Iri :=
  match h : Syntax.check text.toList with
  | .ok () => .ok ⟨text, h⟩
  | .error fault => .error fault

/-- Whether a text is an absolute IRI. -/
def isAbsolute (text : String) : Bool :=
  (Syntax.check text.toList).toBool

/-- The text between angle brackets. -/
def display (i : Iri) : String :=
  "<" ++ i.text ++ ">"

@[simp] theorem parse_text (i : Iri) : parse i.text = .ok i := by
  obtain ⟨text, valid⟩ := i
  simp only [parse]
  split
  · rfl
  · next h => rw [valid] at h; cases h

@[simp] theorem isAbsolute_text (i : Iri) : isAbsolute i.text = true := by
  simp [isAbsolute, i.valid, Except.toBool]

end Iri

end QuadClient
