/-!
# Ranges of characters

A property of characters that follows no rule is given by the ranges of their numbers. As the
ranges are in order, a search ends at the first one that lies behind the character.
-/

namespace QuadClient.Text

namespace Ranges

/-- No range is empty, and each one ends in front of the next one. -/
def isOrdered : List (Nat × Nat) → Bool
  | [] => true
  | [(low, high)] => low ≤ high
  | (low, high) :: (low', high') :: rest =>
    low ≤ high && high < low' && isOrdered ((low', high') :: rest)

/-- A number is in one of the ranges. -/
def covers (n : Nat) : List (Nat × Nat) → Bool
  | [] => false
  | (low, high) :: rest => low ≤ n && (n ≤ high || covers n rest)

/-- In front of the first range there is nothing. -/
theorem covers_of_lt {n low high : Nat} {rest : List (Nat × Nat)} (h : n < low) :
    covers n ((low, high) :: rest) = false := by
  have : ¬ low ≤ n := by omega
  simp [covers, this]

/-- The search finds every number of every range. -/
theorem covers_eq_true_iff {n : Nat} {list : List (Nat × Nat)} (h : isOrdered list = true) :
    covers n list = true ↔ ∃ r ∈ list, r.1 ≤ n ∧ n ≤ r.2 := by
  induction list with
  | nil => simp [covers]
  | cons first rest ih =>
    obtain ⟨low, high⟩ := first
    cases rest with
    | nil => simp [covers]
    | cons second rest =>
      obtain ⟨low', high'⟩ := second
      simp only [isOrdered, Bool.and_eq_true, decide_eq_true_eq] at h
      have later : covers n ((low', high') :: rest) = true → low' ≤ n := by
        intro hcovers
        rcases Nat.lt_or_ge n low' with hlt | hle
        · rw [covers_of_lt hlt] at hcovers
          exact absurd hcovers Bool.false_ne_true
        · exact hle
      rw [covers, Bool.and_eq_true, Bool.or_eq_true, decide_eq_true_eq, decide_eq_true_eq]
      constructor
      · rintro ⟨hlow, hhigh | hcovers⟩
        · exact ⟨(low, high), by simp, hlow, hhigh⟩
        · obtain ⟨r, hr, hmem⟩ := (ih h.2).1 hcovers
          exact ⟨r, List.mem_cons_of_mem _ hr, hmem⟩
      · rintro ⟨r, hr, hmem⟩
        rcases List.mem_cons.1 hr with rfl | hr
        · exact ⟨hmem.1, .inl hmem.2⟩
        · -- A later range begins behind this one.
          have hcovers := (ih h.2).2 ⟨r, hr, hmem⟩
          have := later hcovers
          exact ⟨by omega, .inr hcovers⟩

end Ranges

/-- Ranges of the numbers of characters, both ends included. -/
structure Ranges where
  /-- the least and the greatest number of each range -/
  list : List (Nat × Nat)
  /-- the ranges are in order -/
  ordered : Ranges.isOrdered list = true

/-- A character is in one of the ranges. -/
instance : Membership Char Ranges where
  mem r c := ∃ range ∈ r.list, range.1 ≤ c.toNat ∧ c.toNat ≤ range.2

/-- The search decides it, as the ranges are in order. -/
instance (r : Ranges) (c : Char) : Decidable (c ∈ r) :=
  decidable_of_iff (Ranges.covers c.toNat r.list = true) (Ranges.covers_eq_true_iff r.ordered)

end QuadClient.Text
