import QuadClient.Coding.Slots

/-!
# Terms in statement text

A term is written into a statement as an IRI in angle brackets or as a literal in single
quotes. A quote inside a literal has a backslash in front; nothing else is escaped, so a
statement must not be made from texts that are not trusted.
-/

namespace QuadClient

/-- Puts a backslash in front of every single quote. -/
def guardQuotes : List Char → List Char
  | [] => []
  | c :: r => if c = '\'' then '\\' :: c :: guardQuotes r else c :: guardQuotes r

/-- The form of a term inside a statement. -/
def Term.inline : Term → String
  | .iri i => "<" ++ i.text ++ ">"
  | .blank b => "<" ++ blankMark ++ b.text ++ ">"
  | .literal l =>
    let quoted := "'" ++ String.ofList (guardQuotes l.value.toList) ++ "'"
    match l.language?, l.shownDatatype? with
    | some tag, _ => quoted ++ "@" ++ tag.text
    | none, some dt => quoted ++ "^^<" ++ dt.text ++ ">"
    | none, none => quoted

@[simp] theorem guardQuotes_nil : guardQuotes [] = [] := rfl

theorem guardQuotes_append (a b : List Char) :
    guardQuotes (a ++ b) = guardQuotes a ++ guardQuotes b := by
  induction a with
  | nil => rfl
  | cons c r ih => by_cases h : c = '\'' <;> simp [guardQuotes, h, ih]

/-- A text without single quotes is written as it is. -/
theorem guardQuotes_of_no_quote {s : List Char} (h : '\'' ∉ s) : guardQuotes s = s := by
  induction s with
  | nil => rfl
  | cons c r ih =>
    have hc : c ≠ '\'' := fun e => h (by simp [e])
    have hr : '\'' ∉ r := fun e => h (by simp [e])
    simp [guardQuotes, hc, ih hr]

end QuadClient
