import Mathlib.Algebra.Field.Rat
import Mathlib.Data.List.DropRight
import Mathlib.Data.Nat.Digits.Defs
import QuadClient.Proofs.Text.Search
import QuadClient.Text.Decimal

/-!
# Decimal digits read back

A padded number gives the number back. Digits behind a point stand for a fraction; zeros at
their end do not change it, and without such zeros every fraction is written in one way.
-/

namespace QuadClient.Text

/-! ### Digits -/

/-- A text of decimal digits. -/
def IsDigits (ds : List Char) : Prop := ∀ c ∈ ds, c.isDigit = true

/-- What a digit counts. -/
def digitValue (c : Char) : Nat := c.toNat - '0'.toNat

variable {c : Char} {ds es : List Char}

theorem IsDigits.notMem (h : IsDigits ds) (hc : c.isDigit = false) : c ∉ ds := by
  intro hmem
  have hdigit : c.isDigit = true := h c hmem
  rw [hc] at hdigit
  cases hdigit

theorem IsDigits.append (hd : IsDigits ds) (he : IsDigits es) : IsDigits (ds ++ es) := by
  intro c hc
  rcases List.mem_append.1 hc with hc | hc
  · exact hd c hc
  · exact he c hc

theorem isDigits_zeros (k : Nat) : IsDigits (List.replicate k '0') := by
  intro c hc
  rw [List.eq_of_mem_replicate hc]
  rfl

/-- A decimal digit counts less than ten. -/
theorem digitValue_lt (h : c.isDigit = true) : digitValue c < 10 := by
  obtain ⟨-, hle⟩ := Char.isDigit_iff_toNat.1 h
  have h9 : '9'.toNat = 57 := rfl
  have h0 : '0'.toNat = 48 := rfl
  rw [digitValue]
  omega

/-- A digit is told by what it counts. -/
theorem digitChar_digitValue (h : c.isDigit = true) : Nat.digitChar (digitValue c) = c := by
  obtain ⟨hge, -⟩ := Char.isDigit_iff_toNat.1 h
  have h0 : '0'.toNat = 48 := rfl
  have hvalue : (Nat.digitChar (digitValue c)).toNat = c.toNat := by
    rw [Nat.toNat_digitChar_of_lt_ten (digitValue_lt h), digitValue]
    omega
  exact Char.toNat_inj.1 hvalue

/-- The number that digits write, with the digit of the ones in front. -/
theorem ofDigitChars_eq_ofDigits (ds : List Char) :
    Nat.ofDigitChars 10 ds 0 = Nat.ofDigits 10 (ds.reverse.map digitValue) := by
  induction ds using List.reverseRecOn with
  | nil => rfl
  | append_singleton r c ih =>
    rw [Nat.ofDigitChars_append, ih, List.reverse_append, List.reverse_singleton,
      List.singleton_append, List.map_cons, Nat.ofDigits_cons, Nat.ofDigitChars_cons,
      Nat.ofDigitChars_nil, digitValue, Nat.add_comm]

/-- Digits of one length that write one number are the same digits. -/
theorem eq_of_ofDigitChars_eq (hd : IsDigits ds) (he : IsDigits es)
    (hlen : ds.length = es.length)
    (h : Nat.ofDigitChars 10 ds 0 = Nat.ofDigitChars 10 es 0) : ds = es := by
  -- The digits are those of the number in base ten, and the number has one such row of each
  -- length.
  have hbelow {xs : List Char} (hx : IsDigits xs) :
      ∀ n ∈ xs.reverse.map digitValue, n < 10 := by
    intro n hn
    obtain ⟨c, hc, rfl⟩ := List.mem_map.1 hn
    exact digitValue_lt (hx c (List.mem_reverse.1 hc))
  have hback {xs : List Char} (hx : IsDigits xs) :
      (xs.reverse.map digitValue).map Nat.digitChar = xs.reverse := by
    rw [List.map_map]
    refine (List.map_congr_left fun c hc => ?_).trans (List.map_id _)
    exact digitChar_digitValue (hx c (List.mem_reverse.1 hc))
  rw [ofDigitChars_eq_ofDigits, ofDigitChars_eq_ofDigits] at h
  have hvalues : ds.reverse.map digitValue = es.reverse.map digitValue :=
    Nat.ofDigits_inj_of_len_eq (by decide) (by simp [hlen]) (hbelow hd) (hbelow he) h
  have hreverse : ds.reverse = es.reverse := by
    rw [← hback hd, hvalues, hback he]
  exact List.reverse_injective hreverse

/-! ### Padded numbers -/

theorem toList_padded (width n : Nat) :
    (padded width n).toList =
      List.replicate (width - (Nat.toDigits 10 n).length) '0' ++ Nat.toDigits 10 n := by
  rw [padded, String.toList_ofList]

theorem isDigits_padded (width n : Nat) : IsDigits (padded width n).toList := by
  rw [toList_padded]
  refine (isDigits_zeros _).append fun c hc => ?_
  exact Nat.isDigit_of_mem_toDigits (by decide) (by decide) hc

theorem notMem_padded (hc : c.isDigit = false) (width n : Nat) :
    c ∉ (padded width n).toList :=
  (isDigits_padded width n).notMem hc

/-- The padding does not change the number. -/
theorem ofDigitChars_padded (width n : Nat) :
    Nat.ofDigitChars 10 (padded width n).toList 0 = n := by
  rw [toList_padded, Nat.ofDigitChars_append, Nat.ofDigitChars_replicate_zero, Nat.mul_zero,
    Nat.ofDigitChars_ten_toDigits]

theorem padded_inj {width m n : Nat} : padded width m = padded width n ↔ m = n := by
  refine ⟨fun h => ?_, fun h => h ▸ rfl⟩
  rw [← ofDigitChars_padded width m, h, ofDigitChars_padded]

/-- Behind a mark that is no digit, a padded number can be read off. -/
theorem append_mark_padded_inj {mark : Char} (hmark : mark.isDigit = false) {a b : List Char}
    {width m n : Nat} :
    a ++ mark :: (padded width m).toList = b ++ mark :: (padded width n).toList ↔
      a = b ∧ m = n := by
  constructor
  · intro h
    obtain ⟨hfront, hnumber⟩ :=
      eq_around_last (notMem_padded hmark width m) (notMem_padded hmark width n) h
    exact ⟨hfront, padded_inj.1 (String.toList_inj.1 hnumber)⟩
  · rintro ⟨rfl, rfl⟩
    rfl

/-- A number that fits into its width fills it. -/
theorem length_padded {width n : Nat} (hwidth : 0 < width) (hn : n < 10 ^ width) :
    (padded width n).toList.length = width := by
  have hfits : (Nat.toDigits 10 n).length ≤ width :=
    (Nat.length_toDigits_le_iff (by decide) hwidth).2 hn
  rw [toList_padded, List.length_append, List.length_replicate]
  omega

/-! ### Fractions -/

/-- The number that digits stand for behind a point. -/
def behindPoint (ds : List Char) : ℚ := Nat.ofDigitChars 10 ds 0 / 10 ^ ds.length

theorem ten_pow_ne_zero (k : Nat) : (10 : ℚ) ^ k ≠ 0 :=
  pow_ne_zero k (by decide)

/-- Zeros at the end do not count. -/
theorem behindPoint_append_zeros (ds : List Char) (k : Nat) :
    behindPoint (ds ++ List.replicate k '0') = behindPoint ds := by
  rw [behindPoint, behindPoint, Nat.ofDigitChars_append, Nat.ofDigitChars_replicate_zero,
    List.length_append, List.length_replicate, Nat.mul_comm, Nat.cast_mul, Nat.cast_pow, pow_add]
  exact mul_div_mul_right _ _ (ten_pow_ne_zero k)

/-- A number of at most `width` digits, padded to `width`, stands for so many parts of `10 ^
width`. -/
theorem behindPoint_padded {width n : Nat} (hwidth : 0 < width) (hn : n < 10 ^ width) :
    behindPoint (padded width n).toList = n / 10 ^ width := by
  rw [behindPoint, ofDigitChars_padded, length_padded hwidth hn]

/-- Digits of one length that stand for one fraction are the same digits. -/
theorem eq_of_behindPoint_eq (hd : IsDigits ds) (he : IsDigits es)
    (hlen : ds.length = es.length) (h : behindPoint ds = behindPoint es) : ds = es := by
  rw [behindPoint, behindPoint, hlen, div_left_inj' (ten_pow_ne_zero _)] at h
  exact eq_of_ofDigitChars_eq hd he hlen (Nat.cast_injective h)

/-- The digits that write a fraction behind a point: at least one, and no zero at the end but
the one that stands alone. -/
structure WritesFraction (ds : List Char) (x : ℚ) : Prop where
  /-- nothing but digits -/
  digits : IsDigits ds
  /-- at least one digit -/
  nonempty : ds ≠ []
  /-- behind a point they stand for the fraction -/
  value : behindPoint ds = x
  /-- a zero ends them only where it is all there is -/
  trimmed : ds.getLast? = some '0' → ds = ['0']

namespace WritesFraction

variable {x : ℚ}

/-- The longer digits would be the shorter ones with zeros behind them. -/
theorem length_le (hd : WritesFraction ds x) (he : WritesFraction es x) :
    es.length ≤ ds.length := by
  by_contra hlonger
  -- If the other digits are longer, these are made as long with zeros at their end.
  obtain ⟨k, hk⟩ : ∃ k, es.length = ds.length + (k + 1) :=
    ⟨es.length - ds.length - 1, by omega⟩
  have hfilled : ds ++ List.replicate (k + 1) '0' = es := by
    refine eq_of_behindPoint_eq (hd.digits.append (isDigits_zeros _)) he.digits ?_ ?_
    · rw [List.length_append, List.length_replicate, hk]
    · rw [behindPoint_append_zeros, hd.value, he.value]
  have hend : es.getLast? = some '0' := by
    rw [← hfilled, List.replicate_succ', ← List.append_assoc, List.getLast?_concat]
  -- Digits that end in a zero are that zero alone, so they are no longer than one digit.
  have hone : es.length = 1 := by rw [he.trimmed hend]; rfl
  have hpos : 0 < ds.length := List.length_pos_iff.2 hd.nonempty
  omega

/-- A fraction is written in one way. -/
theorem unique (hd : WritesFraction ds x) (he : WritesFraction es x) : ds = es := by
  have hlen : ds.length = es.length := le_antisymm (length_le he hd) (length_le hd he)
  exact eq_of_behindPoint_eq hd.digits he.digits hlen (hd.value.trans he.value.symm)

theorem zero : WritesFraction ['0'] 0 where
  digits := isDigits_zeros 1
  nonempty := List.cons_ne_nil _ _
  value := by simp [behindPoint, Nat.ofDigitChars_cons]
  trimmed _ := rfl

/-- A zero alone is written for nothing but zero. -/
theorem eq_zero_iff (h : WritesFraction ds x) : ds = ['0'] ↔ x = 0 := by
  constructor
  · rintro rfl
    rw [← h.value, zero.value]
  · rintro rfl
    exact h.unique zero

end WritesFraction

/-- Digits lose the zeros at their end, and they still write the fraction they stand for. -/
theorem writesFraction_trimmed (hd : IsDigits ds) (hsome : ¬ ∀ c ∈ ds, c = '0') :
    WritesFraction (ds.rdropWhile (· == '0')) (behindPoint ds) := by
  have hkept : ds.rdropWhile (· == '0') ≠ [] := by
    rw [Ne, List.rdropWhile_eq_nil_iff]
    simpa using hsome
  have hzeros : ∀ c ∈ ds.rtakeWhile (· == '0'), c = '0' := by
    intro c hc
    have hzero : (c == '0') = true := List.mem_rtakeWhile_imp (p := (· == '0')) hc
    exact beq_iff_eq.1 hzero
  refine ⟨fun c hc => ?_, hkept, ?_, fun hend => ?_⟩
  · exact hd c ((List.rdropWhile_prefix _ _).subset hc)
  · -- What is dropped is a row of zeros, which does not count behind a point.
    conv_rhs => rw [← List.rdropWhile_append_rtakeWhile (p := (· == '0')) (l := ds),
      List.eq_replicate_of_mem hzeros, behindPoint_append_zeros]
  · have hlast := List.rdropWhile_last_not _ _ hkept
    rw [List.getLast?_eq_some_getLast hkept, Option.some.injEq] at hend
    exact absurd (beq_iff_eq.2 hend) hlast

end QuadClient.Text
