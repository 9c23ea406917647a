import QuadClient.Coding.Cell
import QuadClient.Proofs.Text.Decimal

/-!
# Lexical forms of timestamps

The fields of a timestamp are digits with marks between them, so each can be cut off behind the
last mark. Two boundaries need care. A year has a sign and any number of digits, so it may begin
with a mark itself. A leap second is kept as the second in front of it with a billion nanoseconds
more, while it is written as the second that follows with the rest of its nanoseconds behind the
point. Second 60 is written for nothing else, but a leap second behind an earlier second is written
like the ordinary second there. These pairs are the only ones with one form.
-/

namespace QuadClient

open QuadClient.Text

/-! ### Dates -/

namespace Date

variable {y z : Int} {d e : Date}

/-- The text of a year: the digits of its size, and in front of them nothing, a minus sign or a
plus sign. -/
theorem yearText_cases (y : Int) :
    (0 ≤ y ∧ yearText y = padded 4 y.natAbs) ∨ (y < 0 ∧ yearText y = "-" ++ padded 4 y.natAbs) ∨
      (0 ≤ y ∧ yearText y = "+" ++ padded 4 y.natAbs) := by
  by_cases hplain : 0 ≤ y ∧ y ≤ 9999
  · have hsize : y.toNat = y.natAbs := by omega
    exact Or.inl ⟨hplain.1, by rw [yearText, if_pos hplain, hsize]⟩
  · by_cases hneg : y < 0
    · exact Or.inr (Or.inl ⟨hneg, by rw [yearText, if_neg hplain, if_pos hneg]⟩)
    · exact Or.inr (Or.inr ⟨by omega, by rw [yearText, if_neg hplain, if_neg hneg]⟩)

/-- Without its sign, the text of a year has the digits of its size. -/
theorem filter_yearText (y : Int) :
    (yearText y).toList.filter Char.isDigit = (padded 4 y.natAbs).toList := by
  have hdigits : (padded 4 y.natAbs).toList.filter Char.isDigit = (padded 4 y.natAbs).toList :=
    List.filter_eq_self.2 (isDigits_padded 4 y.natAbs)
  rcases yearText_cases y with ⟨-, hplain⟩ | ⟨-, hminus⟩ | ⟨-, hplus⟩
  · rw [hplain, hdigits]
  · rw [hminus, String.toList_append, List.filter_append, hdigits]
    rfl
  · rw [hplus, String.toList_append, List.filter_append, hdigits]
    rfl

/-- A minus sign stands in front of the years before year 0, and only there. -/
theorem minus_mem_yearText : '-' ∈ (yearText y).toList ↔ y < 0 := by
  have hdigits : '-' ∉ (padded 4 y.natAbs).toList := notMem_padded rfl 4 _
  rcases yearText_cases y with ⟨hge, hplain⟩ | ⟨hlt, hminus⟩ | ⟨hge, hplus⟩
  · rw [hplain]
    exact iff_of_false hdigits (by omega)
  · rw [hminus]
    exact iff_of_true (by simp) hlt
  · rw [hplus]
    exact iff_of_false (by simp [hdigits]) (by omega)

/-- A year is told by its text: the digits give its size, the minus sign its side of year 0. -/
theorem yearText_inj : yearText y = yearText z ↔ y = z := by
  refine ⟨fun h => ?_, fun h => h ▸ rfl⟩
  have hsize : y.natAbs = z.natAbs := by
    have hpadded := filter_yearText y
    rw [h, filter_yearText, String.toList_inj, padded_inj] at hpadded
    exact hpadded.symm
  have hsign : y < 0 ↔ z < 0 := by
    rw [← minus_mem_yearText, h, minus_mem_yearText]
  omega

theorem toList_display (d : Date) :
    d.display.toList = ((yearText d.year).toList ++ '-' :: (padded 2 d.month).toList) ++
      '-' :: (padded 2 d.day).toList := by
  simp [display]

/-- A date is told by its form, also when its year has more than four digits or a sign. -/
theorem display_inj : d.display = e.display ↔ d = e := by
  refine ⟨fun h => ?_, fun h => h ▸ rfl⟩
  rw [← String.toList_inj, toList_display, toList_display, append_mark_padded_inj rfl,
    append_mark_padded_inj rfl, String.toList_inj, yearText_inj] at h
  obtain ⟨⟨hyear, hmonth⟩, hday⟩ := h
  cases d
  cases e
  cases hyear
  cases hmonth
  cases hday
  rfl

end Date

/-! ### Times of day -/

namespace Time

variable {t u : Time}

theorem second_lt (t : Time) : t.second < 60 := by
  have hvalid := t.valid
  simp only [isTime, Bool.and_eq_true, decide_eq_true_eq] at hvalid
  exact hvalid.1.2

theorem nanos_lt (t : Time) : t.nanos < 2 * nanosPerSecond := by
  have hvalid := t.valid
  simp only [isTime, Bool.and_eq_true, decide_eq_true_eq] at hvalid
  exact hvalid.2

theorem fraction_lt (t : Time) : t.fraction < nanosPerSecond :=
  Nat.mod_lt _ (by decide)

/-- What is written of a time: its own second and nanoseconds, or the second that follows and the
nanoseconds past the billion. -/
theorem written_cases (t : Time) :
    (t.writtenSecond = t.second ∧ t.nanos = t.fraction) ∨
      (t.writtenSecond = t.second + 1 ∧ t.nanos = t.fraction + nanosPerSecond) := by
  rw [writtenSecond, fraction]
  by_cases hordinary : t.nanos < nanosPerSecond
  · rw [if_pos hordinary, Nat.mod_eq_of_lt hordinary]
    exact Or.inl ⟨rfl, rfl⟩
  · -- A leap second: a billion is in it once, and not twice.
    have hge : nanosPerSecond ≤ t.nanos := Nat.not_lt.1 hordinary
    have hbelow := t.nanos_lt
    have hrest : t.nanos % nanosPerSecond = t.nanos - nanosPerSecond := by
      rw [Nat.mod_eq_sub_mod hge, Nat.mod_eq_of_lt (by omega)]
    rw [if_neg hordinary, hrest]
    exact Or.inr ⟨rfl, by omega⟩

/-- The time is a leap second, and `u` is the same instant of the ordinary second that has the
number it is written with. -/
structure RunsInto (t u : Time) : Prop where
  /-- the same hour -/
  hour : t.hour = u.hour
  /-- the same minute -/
  minute : t.minute = u.minute
  /-- the second that follows -/
  second : t.second + 1 = u.second
  /-- a billion nanoseconds more -/
  nanos : t.nanos = u.nanos + nanosPerSecond

/-- The same is written of both times. -/
structure WrittenAlike (t u : Time) : Prop where
  /-- the same hour -/
  hour : t.hour = u.hour
  /-- the same minute -/
  minute : t.minute = u.minute
  /-- the same second, as it is written -/
  second : t.writtenSecond = u.writtenSecond
  /-- the same nanoseconds within that second -/
  fraction : t.fraction = u.fraction

theorem WrittenAlike.symm (h : t.WrittenAlike u) : u.WrittenAlike t :=
  ⟨h.hour.symm, h.minute.symm, h.second.symm, h.fraction.symm⟩

theorem RunsInto.writtenAlike (h : t.RunsInto u) : t.WrittenAlike u := by
  have hsecond := h.second
  have hnanos := h.nanos
  have hbelow := t.nanos_lt
  have ht := t.fraction_lt
  have hu := u.fraction_lt
  rcases t.written_cases with ⟨htw, htn⟩ | ⟨htw, htn⟩
  · -- `t` has a billion nanoseconds at least, so it is not written as its own second.
    omega
  · rcases u.written_cases with ⟨huw, hun⟩ | ⟨huw, hun⟩
    · exact ⟨h.hour, h.minute, by omega, by omega⟩
    · -- With `u` a leap second too, `t` would have two billion.
      omega

/-- A time is told by what is written of it, but for a leap second and the second it runs into. -/
theorem writtenAlike_iff : t.WrittenAlike u ↔ t = u ∨ t.RunsInto u ∨ u.RunsInto t := by
  constructor
  · rintro ⟨hhour, hminute, hsecond, hfraction⟩
    have hequal (hs : t.second = u.second) (hn : t.nanos = u.nanos) : t = u := by
      cases t
      cases u
      cases hhour
      cases hminute
      cases hs
      cases hn
      rfl
    rcases t.written_cases with ⟨htw, htn⟩ | ⟨htw, htn⟩
    · rcases u.written_cases with ⟨huw, hun⟩ | ⟨huw, hun⟩
      · exact Or.inl (hequal (by omega) (by omega))
      · -- Only `u` is a leap second.
        exact Or.inr (Or.inr ⟨hhour.symm, hminute.symm, by omega, by omega⟩)
    · rcases u.written_cases with ⟨huw, hun⟩ | ⟨huw, hun⟩
      · -- Only `t` is a leap second.
        exact Or.inr (Or.inl ⟨hhour, hminute, by omega, by omega⟩)
      · exact Or.inl (hequal (by omega) (by omega))
  · rintro (rfl | h | h)
    · exact ⟨rfl, rfl, rfl, rfl⟩
    · exact h.writtenAlike
    · exact h.writtenAlike.symm

/-- The numbers of the time name it. -/
def IsNamed (t : Time) : Prop :=
  ofNumbers? t.hour t.minute t.second t.nanos = some t

instance (t : Time) : Decidable t.IsNamed :=
  inferInstanceAs (Decidable (_ = _))

/-- A leap second that runs into another second does not follow second 59. -/
theorem RunsInto.not_isNamed (h : t.RunsInto u) : ¬ t.IsNamed := by
  have hu := u.second_lt
  have hsecond := h.second
  have hnanos := h.nanos
  have hunnamed : ¬ (t.nanos < nanosPerSecond ∨ t.second = 59) := by omega
  rw [IsNamed, ofNumbers?, dif_pos t.valid, if_neg hunnamed]
  exact nofun

theorem toList_clock (t : Time) :
    t.clock.toList = ((padded 2 t.hour).toList ++ ':' :: (padded 2 t.minute).toList) ++
      ':' :: (padded 2 t.writtenSecond).toList := by
  simp [clock]

theorem notMem_clock {c : Char} (hdigit : c.isDigit = false) (hcolon : c ≠ ':') (t : Time) :
    c ∉ t.clock.toList := by
  have hdigits (n : Nat) : c ∉ (padded 2 n).toList := notMem_padded hdigit 2 n
  simp [toList_clock, hdigits, hcolon]

theorem clock_inj : t.clock = u.clock ↔
    t.hour = u.hour ∧ t.minute = u.minute ∧ t.writtenSecond = u.writtenSecond := by
  rw [← String.toList_inj, toList_clock, toList_clock, append_mark_padded_inj rfl,
    append_mark_padded_inj rfl, String.toList_inj, padded_inj, and_assoc]

end Time

namespace Timestamp

variable {ts us : Timestamp}

/-! ### The fraction of a second -/

/-- The digits behind the point write the nanoseconds as a fraction of the second. -/
theorem writesFraction_fractionDigits {nanos : Nat} (h : nanos < 10 ^ 9) :
    WritesFraction (fractionDigits nanos) (nanos / 10 ^ 9) := by
  rw [fractionDigits]
  by_cases hwhole : nanos = 0
  · rw [if_pos hwhole, hwhole, Nat.cast_zero, zero_div]
    exact WritesFraction.zero
  · rw [if_neg hwhole, ← behindPoint_padded (by decide) h]
    refine writesFraction_trimmed (isDigits_padded 9 nanos) fun hzeros => hwhole ?_
    rw [← ofDigitChars_padded 9 nanos, List.eq_replicate_of_mem hzeros,
      Nat.ofDigitChars_replicate_zero, Nat.mul_zero]

/-- Fewer than a billion nanoseconds are told by their digits. -/
theorem fractionDigits_inj {m n : Nat} (hm : m < 10 ^ 9) (hn : n < 10 ^ 9) :
    fractionDigits m = fractionDigits n ↔ m = n := by
  refine ⟨fun h => ?_, fun h => h ▸ rfl⟩
  have hvalue := (writesFraction_fractionDigits hm).value
  rw [h, (writesFraction_fractionDigits hn).value, div_left_inj' (ten_pow_ne_zero 9)] at hvalue
  exact (Nat.cast_injective hvalue).symm

/-! ### The whole form -/

theorem toList_lexical (ts : Timestamp) :
    ts.lexical.toList = (ts.date.display.toList ++ 'T' :: ts.time.clock.toList) ++
      '.' :: fractionDigits ts.time.fraction := by
  simp [lexical]

/-- No point stands among the digits of a fraction. -/
theorem point_notMem_fractionDigits (ts : Timestamp) : '.' ∉ fractionDigits ts.time.fraction :=
  (writesFraction_fractionDigits ts.time.fraction_lt).digits.notMem rfl

/-- Cut off from the end: the fraction behind the last point, the clock behind the last `T`, and
the date in front of it. -/
theorem lexical_eq_iff :
    ts.lexical = us.lexical ↔ ts.date = us.date ∧ ts.time.WrittenAlike us.time := by
  constructor
  · intro h
    rw [← String.toList_inj, toList_lexical, toList_lexical] at h
    obtain ⟨hfront, hdigits⟩ :=
      eq_around_last ts.point_notMem_fractionDigits us.point_notMem_fractionDigits h
    have hmark (t : Time) : 'T' ∉ t.clock.toList := Time.notMem_clock rfl (by decide) t
    -- The date may hold other marks, but no `T` stands in the clock.
    obtain ⟨hdate, hclock⟩ := eq_around_last (hmark _) (hmark _) hfront
    rw [String.toList_inj] at hdate hclock
    obtain ⟨hhour, hminute, hsecond⟩ := Time.clock_inj.1 hclock
    have hfraction : ts.time.fraction = us.time.fraction :=
      (fractionDigits_inj ts.time.fraction_lt us.time.fraction_lt).1 hdigits
    exact ⟨Date.display_inj.1 hdate, hhour, hminute, hsecond, hfraction⟩
  · rintro ⟨hdate, halike⟩
    have hclock : ts.time.clock = us.time.clock :=
      Time.clock_inj.2 ⟨halike.hour, halike.minute, halike.second⟩
    rw [lexical, lexical, hdate, hclock, halike.fraction]

/-- Two timestamps have one form only if they are the same, or if one of them is a leap second and
the other the second it runs into. -/
theorem lexical_eq_iff_eq_or : ts.lexical = us.lexical ↔
    ts = us ∨ ts.date = us.date ∧ (ts.time.RunsInto us.time ∨ us.time.RunsInto ts.time) := by
  rw [lexical_eq_iff, Time.writtenAlike_iff]
  constructor
  · rintro ⟨hdate, htime | hruns⟩
    · cases ts
      cases us
      cases hdate
      cases htime
      exact Or.inl rfl
    · exact Or.inr ⟨hdate, hruns⟩
  · rintro (rfl | ⟨hdate, hruns⟩)
    · exact ⟨rfl, Or.inl rfl⟩
    · exact ⟨hdate, Or.inr hruns⟩

/-- Times that are given by their numbers do not run into one another. -/
theorem lexical_inj_of_isNamed (ht : ts.time.IsNamed) (hu : us.time.IsNamed) :
    ts.lexical = us.lexical ↔ ts = us := by
  rw [lexical_eq_iff_eq_or]
  constructor
  · rintro (h | ⟨-, hruns | hruns⟩)
    · exact h
    · exact absurd ht hruns.not_isNamed
    · exact absurd hu hruns.not_isNamed
  · exact Or.inl

/-- The terms of two timestamps differ where their forms do. -/
theorem term?_timestamp_inj :
    (Cell.timestamp ts).term? = (Cell.timestamp us).term? ↔ ts.lexical = us.lexical := by
  refine ⟨fun h => ?_, fun h => by rw [Cell.term?, Cell.term?, h]⟩
  rw [Cell.term?, Cell.term?, Option.some.injEq, Cell.schemaLiteral, Cell.schemaLiteral,
    Term.literal.injEq] at h
  simpa using congrArg Literal.value h

/-- **Lexical forms are exact.** Two timestamps have the same form if and only if they are the same
or one of them is a leap second and the other the ordinary second it runs into, whatever their
years; so all timestamps that are given by their numbers have forms of their own. Cells with
timestamps stand for the same term just when the forms are the same. Behind the last point of the
form stand the digits that write the nanoseconds as a fraction of the second, the only ones without
a needless zero; they are a single zero for a whole second, and for no other. -/
theorem lexical_exact (ts : Timestamp) :
    (∀ us : Timestamp, us.lexical = ts.lexical ↔
      us = ts ∨ us.date = ts.date ∧ (us.time.RunsInto ts.time ∨ ts.time.RunsInto us.time)) ∧
      (∀ us : Timestamp, us.time.IsNamed → ts.time.IsNamed →
        (us.lexical = ts.lexical ↔ us = ts)) ∧
      (∀ us : Timestamp,
        (Cell.timestamp us).term? = (Cell.timestamp ts).term? ↔ us.lexical = ts.lexical) ∧
      ∃ front digits : List Char,
        ts.lexical.toList = front ++ '.' :: digits ∧ '.' ∉ digits ∧
        (∀ ds, WritesFraction ds (((ts.time.nanos % 10 ^ 9 : Nat) : ℚ) / 10 ^ 9) ↔ ds = digits) ∧
        (digits = ['0'] ↔ ts.time.nanos % 10 ^ 9 = 0) := by
  have hwritten : WritesFraction (fractionDigits ts.time.fraction)
      (((ts.time.nanos % 10 ^ 9 : Nat) : ℚ) / 10 ^ 9) :=
    writesFraction_fractionDigits ts.time.fraction_lt
  refine ⟨fun us => lexical_eq_iff_eq_or, fun us => lexical_inj_of_isNamed,
    fun us => term?_timestamp_inj,
    ts.date.display.toList ++ 'T' :: ts.time.clock.toList, fractionDigits ts.time.fraction,
    toList_lexical ts, ts.point_notMem_fractionDigits, fun ds => ?_, ?_⟩
  · exact ⟨fun h => h.unique hwritten, fun h => h ▸ hwritten⟩
  · rw [hwritten.eq_zero_iff, div_eq_zero_iff]
    simp [ten_pow_ne_zero 9]

/-- This time of the last day of June 2015. -/
def onJune30 (t : Time) : Timestamp :=
  ⟨⟨2015, 6, 30, by decide⟩, t⟩

/-- The leap second that ended the day, and the second in front of it. -/
theorem lexical_exact_midnight :
    (onJune30 ⟨23, 59, 59, 1500000000, by decide⟩).time.IsNamed ∧
      (onJune30 ⟨23, 59, 59, 500000000, by decide⟩).time.IsNamed ∧
      (onJune30 ⟨23, 59, 59, 1500000000, by decide⟩).lexical ≠
        (onJune30 ⟨23, 59, 59, 500000000, by decide⟩).lexical := by
  have hleap : (onJune30 ⟨23, 59, 59, 1500000000, by decide⟩).time.IsNamed := by decide
  have hordinary : (onJune30 ⟨23, 59, 59, 500000000, by decide⟩).time.IsNamed := by decide
  refine ⟨hleap, hordinary, fun h => ?_⟩
  have hsame := ((lexical_exact _).2.1 _ hleap hordinary).1 h
  revert hsame
  decide

/-- A leap second behind second 4 is written like the ordinary second 5, so forms alone do not tell
timestamps apart. -/
theorem not_lexical_injective_leap :
    ¬ ∀ ts us : Timestamp, ts.lexical = us.lexical → ts = us := by
  intro h
  have hsame := h (onJune30 ⟨23, 56, 4, 1333333333, by decide⟩)
    (onJune30 ⟨23, 56, 5, 333333333, by decide⟩) (by decide +kernel)
  revert hsame
  decide

/-- A leap second in a year with a sign. -/
example : (Timestamp.mk ⟨-44, 12, 31, by decide⟩ ⟨23, 59, 59, 1050000000, by decide⟩).lexical =
    "-0044-12-31T23:59:60.05" := by
  decide +kernel

end Timestamp

end QuadClient
