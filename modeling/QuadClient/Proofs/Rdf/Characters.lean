import QuadClient.Proofs.Outcome
import QuadClient.Rdf.BlankLabel
import QuadClient.Rdf.LanguageTag
import QuadClient.Text.Blank

/-!
# The characters of labels and tags

Labels and language tags, like IRIs, hold none of the characters that delimit a term inside a
statement. A tag moreover holds no blank, so the blank behind it ends it.
-/

namespace QuadClient

open QuadClient.Text

/-! ### Pieces -/

/-- A character of a text is the mark, or it stands in one of the pieces between marks. -/
theorem mem_pieces (mark : Char) {c : Char} {s : List Char} (h : c ∈ s) :
    c = mark ∨ ∃ p ∈ pieces mark s, c ∈ p := by
  induction s with
  | nil => cases h
  | cons d r ih =>
    simp only [pieces]
    rcases List.mem_cons.1 h with rfl | h
    · by_cases hc : c = mark
      · exact Or.inl hc
      · -- It is not the mark, so the first piece begins with it.
        refine Or.inr ?_
        split
        · exact ⟨[c], by simp, by simp⟩
        · next p ps hp =>
          rw [if_neg hc]
          exact ⟨c :: p, by simp, by simp⟩
    · rcases ih h with hc | ⟨q, hq, hc⟩
      · exact Or.inl hc
      · -- A piece of the rest is a piece of the whole, with the new character on it if it is the
        -- first one and no mark comes between.
        refine Or.inr ?_
        split
        · next hp =>
          rw [hp] at hq
          cases hq
        · next p ps hp =>
          rw [hp] at hq
          by_cases hd : d = mark
          · rw [if_pos hd]
            exact ⟨q, List.mem_cons_of_mem _ hq, hc⟩
          · rw [if_neg hd]
            rcases List.mem_cons.1 hq with rfl | hq
            · exact ⟨d :: q, by simp, List.mem_cons_of_mem _ hc⟩
            · exact ⟨q, List.mem_cons_of_mem _ hq, hc⟩

namespace BlankLabel

/-! ### Labels -/

theorem isRest_of_isFirst {c : Char} (h : isFirst c = true) : isRest c = true := by
  simp [isRest, h]

/-- Every character of a label is one that it may go on with. -/
theorem isRest_of_mem {b : BlankLabel} {c : Char} (h : c ∈ b.text.toList) :
    isRest c = true := by
  have hvalid := b.valid
  cases hs : b.text.toList with
  | nil =>
    rw [hs] at h
    cases h
  | cons d r =>
    rw [hs] at h hvalid
    simp only [isLabel, Bool.and_eq_true, List.all_eq_true] at hvalid
    rcases List.mem_cons.1 h with rfl | h
    · exact isRest_of_isFirst hvalid.1.1
    · exact hvalid.1.2 c h

/-- A character that no label may hold stands in none. -/
theorem notMem_text {c : Char} (hc : isRest c = false) (b : BlankLabel) :
    c ∉ b.text.toList := by
  intro h
  rw [isRest_of_mem h] at hc
  cases hc

end BlankLabel

namespace LanguageTag

/-! ### Tags -/

/-- Characters of a language tag. -/
def isTagChar (c : Char) : Bool :=
  c.isAlphanum || c == '-'

theorem isAlphanum_of_all_isAlpha {t : List Char} (h : t.all Char.isAlpha = true) :
    t.all Char.isAlphanum = true := by
  rw [List.all_eq_true] at h ⊢
  intro c hc
  simp [Char.isAlphanum, h c hc]

theorem isAlphanum_of_all_isDigit {t : List Char} (h : t.all Char.isDigit = true) :
    t.all Char.isAlphanum = true := by
  rw [List.all_eq_true] at h ⊢
  intro c hc
  simp [Char.isAlphanum, h c hc]

/-- Behind the language stands a script, a region or a variant, all of letters and digits. -/
theorem other_isAlphanum {place place' : Place} {t : List Char}
    (h : step.other place t = .ok place') : t.all Char.isAlphanum = true := by
  unfold step.other at h
  split at h
  · next hscript =>
    simp only [Bool.and_eq_true] at hscript
    exact isAlphanum_of_all_isAlpha hscript.2
  · split at h
    · next hregion =>
      simp only [Bool.and_eq_true, Bool.or_eq_true] at hregion
      rcases hregion.2 with hletters | hdigits
      · exact isAlphanum_of_all_isAlpha hletters.2
      · exact isAlphanum_of_all_isDigit hdigits.2
    · split at h
      · next hvariant =>
        simp only [isVariant, Bool.and_eq_true] at hvariant
        exact hvariant.1
      · cases h

/-- A subtag that is read is made of letters and digits, wherever it stands. -/
theorem step_isAlphanum {place place' : Place} {t : List Char}
    (h : step place t = .ok place') : t.all Char.isAlphanum = true := by
  unfold step at h
  split at h
  · -- At the start stands the language, of letters alone.
    split at h
    · next hfirst =>
      simp only [Bool.and_eq_true] at hfirst
      exact isAlphanum_of_all_isAlpha hfirst.2
    · cases h
  · split at h
    · next hprivate => exact hprivate
    · cases h
  · split at h
    · next hsingle =>
      simp only [Bool.and_eq_true] at hsingle
      exact hsingle.2
    · split at h
      · split at h
        · next hextension => exact hextension
        · cases h
      · split at h
        · split at h
          · next hextended =>
            simp only [Bool.and_eq_true] at hextended
            exact isAlphanum_of_all_isAlpha hextended.2
          · exact other_isAlphanum h
        · exact other_isAlphanum h

/-- All subtags that are walked over are made of letters and digits. -/
theorem walk_isAlphanum {place place' : Place} {ts : List (List Char)}
    (h : walk place ts = .ok place') : ∀ t ∈ ts, t.all Char.isAlphanum = true := by
  induction ts generalizing place with
  | nil => simp
  | cons t ts ih =>
    simp only [walk] at h
    split at h
    · cases h
    · split at h
      · cases h
      · obtain ⟨next, hstep, hwalk⟩ := bind_eq_ok.1 h
        intro u hu
        rcases List.mem_cons.1 hu with rfl | hu
        · exact step_isAlphanum hstep
        · exact ih hwalk u hu

/-- A tag is its subtags with hyphens between them. -/
theorem isTagChar_of_walk {place place' : Place} {s : List Char}
    (h : walk place (pieces '-' s) = .ok place') {c : Char} (hc : c ∈ s) :
    isTagChar c = true := by
  rcases mem_pieces '-' hc with rfl | ⟨p, hp, hc⟩
  · decide
  · have hall := walk_isAlphanum h p hp
    rw [List.all_eq_true] at hall
    simp [isTagChar, hall c hc]

/-- The registered tags that are older than the syntax are made of the same characters. -/
theorem isTagChar_of_grandfathered {text : String} (h : text ∈ grandfathered) {c : Char}
    (hc : c ∈ text.toList) : isTagChar c = true := by
  have hall : grandfathered.all (fun t => t.toList.all isTagChar) = true := by decide +kernel
  rw [List.all_eq_true] at hall
  have htext := hall text h
  rw [List.all_eq_true] at htext
  exact htext c hc

/-- A tag that passes the check is made of letters, digits and hyphens. -/
theorem isTagChar_of_check {s : List Char} (h : check s = .ok ()) {c : Char} (hc : c ∈ s) :
    isTagChar c = true := by
  unfold check at h
  split at h
  · next hold => exact isTagChar_of_grandfathered hold (by simpa using hc)
  · split at h
    · next r =>
      -- A tag of private use begins with its letter and a hyphen.
      split at h
      · cases h
      · obtain ⟨place, hwalk, -⟩ := map_eq_ok.1 h
        simp only [List.mem_cons] at hc
        rcases hc with rfl | rfl | hc
        · decide
        · decide
        · exact isTagChar_of_walk hwalk hc
    · obtain ⟨place, hwalk, -⟩ := bind_eq_ok.1 h
      exact isTagChar_of_walk hwalk hc

theorem isTagChar_of_mem {t : LanguageTag} {c : Char} (h : c ∈ t.text.toList) :
    isTagChar c = true :=
  isTagChar_of_check t.valid h

/-- A character of a tag is none of the blanks. -/
theorem isBlank_of_isTagChar {c : Char} (h : isTagChar c = true) : isBlank c = false := by
  -- All blanks have a number below the hyphen's or above that of the last letter.
  have hbounds : 45 ≤ c.toNat ∧ c.toNat ≤ 122 := by
    change (((decide (c.val ≥ 'A'.val ∧ c.val ≤ 'Z'.val) ||
      (decide (c.val ≥ 'a'.val) && decide (c.val ≤ 'z'.val))) ||
        (decide (c.val ≥ '0'.val) && decide (c.val ≤ '9'.val))) || c == '-') = true at h
    simp only [Bool.or_eq_true, Bool.and_eq_true, decide_eq_true_eq, beq_iff_eq,
      UInt32.le_iff_toNat_le, ge_iff_le] at h
    have hA : 'A'.val.toNat = 65 := rfl
    have hZ : 'Z'.val.toNat = 90 := rfl
    have ha : 'a'.val.toNat = 97 := rfl
    have hz : 'z'.val.toNat = 122 := rfl
    have h0 : '0'.val.toNat = 48 := rfl
    have h9 : '9'.val.toNat = 57 := rfl
    have hc : c.toNat = c.val.toNat := rfl
    rcases h with h | rfl
    · omega
    · decide
  simp only [isBlank, Bool.or_eq_false_iff, Bool.and_eq_false_iff, decide_eq_false_iff_not,
    beq_eq_false_iff_ne]
  omega

/-- A character that no tag may hold stands in none. -/
theorem notMem_text {c : Char} (hc : isTagChar c = false) (t : LanguageTag) :
    c ∉ t.text.toList := by
  intro h
  rw [isTagChar_of_mem h] at hc
  cases hc

end LanguageTag

end QuadClient
