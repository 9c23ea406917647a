/-!
# Looking for a text in a text
-/

namespace QuadClient.Text

/-- What follows the first occurrence of `needle`, if there is one. -/
def afterFirst? (needle : List Char) : List Char → Option (List Char)
  | [] => if needle.isEmpty then some [] else none
  | c :: r =>
    match needle.isPrefixOf? (c :: r) with
    | some rest => some rest
    | none => afterFirst? needle r

/-- Cuts a text around its first `mark`: what stands before it and what stands after it. -/
def cutAt? (mark : Char) : List Char → Option (List Char × List Char)
  | [] => none
  | c :: r => if c = mark then some ([], r) else (cutAt? mark r).map fun (a, b) => (c :: a, b)

/-- The pieces of a text between the occurrences of `mark`; always at least one piece. -/
def pieces (mark : Char) : List Char → List (List Char)
  | [] => [[]]
  | c :: r =>
    match pieces mark r with
    | [] => [[c]]
    -- A mark begins a new piece, any other character joins the one behind it.
    | p :: ps => if c = mark then [] :: p :: ps else (c :: p) :: ps

theorem cutAt?_append {mark : Char} {a b : List Char} (h : mark ∉ a) :
    cutAt? mark (a ++ mark :: b) = some (a, b) := by
  induction a with
  | nil => simp [cutAt?]
  | cons c r ih =>
    have hc : c ≠ mark := fun e => h (by simp [e])
    have hr : mark ∉ r := fun e => h (by simp [e])
    simp [cutAt?, hc, ih hr]

theorem cutAt?_eq_some {mark : Char} {s a b : List Char} (h : cutAt? mark s = some (a, b)) :
    s = a ++ mark :: b ∧ mark ∉ a := by
  induction s generalizing a with
  | nil => simp [cutAt?] at h
  | cons c r ih =>
    unfold cutAt? at h
    split at h
    · next e => simp only [Option.some.injEq, Prod.mk.injEq] at h; obtain ⟨rfl, rfl⟩ := h; simp [e]
    · next e =>
      obtain ⟨⟨a', b'⟩, h', he⟩ := Option.map_eq_some_iff.1 h
      simp only [Prod.mk.injEq] at he
      obtain ⟨rfl, rfl⟩ := he
      obtain ⟨rfl, hn⟩ := ih h'
      exact ⟨rfl, by simp [hn, Ne.symm e]⟩

end QuadClient.Text
