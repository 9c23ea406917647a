import Mathlib.Data.List.TakeDrop
import QuadClient.Text.Blank
import QuadClient.Text.Lines

/-!
# Lines and blanks

How a text that was put together falls apart again: at the line feed behind its first line, and
in front of the first blank. No line holds a line feed, and nothing is added where blanks go.
-/

namespace QuadClient.Text

/-! ### Lines -/

/-- What was seen of a line stands in front of what follows, up to the first line feed. -/
theorem linesFrom_append_feed (seen line r : List Char) (h : '\n' ∉ line) :
    linesFrom seen (line ++ '\n' :: r) =
      dropReturn (seen.reverse ++ line) :: linesFrom [] r := by
  induction line generalizing seen with
  | nil => simp [linesFrom]
  | cons c line ih =>
    have hc : c ≠ '\n' := fun e => h (by simp [e])
    have hline : '\n' ∉ line := fun e => h (by simp [e])
    -- The character is none that ends the line, so it joins what was seen.
    rw [List.cons_append, linesFrom.eq_3 _ _ _ (by simpa using hc), ih _ hline]
    simp

/-- The first line ends at the first line feed. -/
theorem lines_append_feed {line : List Char} (h : '\n' ∉ line) (r : List Char) :
    lines (line ++ '\n' :: r) = dropReturn line :: lines r := by
  simpa [lines] using linesFrom_append_feed [] line r h

/-- A carriage return is taken off the end, so what stands in front of a nonempty end stays. -/
theorem dropReturn_append {a b : List Char} (hb : b ≠ []) :
    ∃ b', dropReturn (a ++ b) = a ++ b' := by
  unfold dropReturn
  split
  · next r hr =>
    have hrev : a ++ b = r.reverse ++ ['\r'] := by
      rw [← List.reverse_reverse (a ++ b), hr, List.reverse_cons]
    have hlast : b.dropLast ++ [b.getLast hb] = b := List.dropLast_concat_getLast hb
    rw [← hlast, ← List.append_assoc] at hrev
    exact ⟨b.dropLast, (List.append_inj_left' hrev rfl).symm⟩
  · exact ⟨b, rfl⟩

/-- Taking off a carriage return adds nothing. -/
theorem dropReturn_subset (line : List Char) : dropReturn line ⊆ line := by
  unfold dropReturn
  split
  · next r hr =>
    have hline : line = r.reverse ++ ['\r'] := by
      rw [← List.reverse_reverse line, hr, List.reverse_cons]
    rw [hline]
    exact List.subset_append_left _ _
  · exact List.Subset.refl _

/-- No line of a text holds a line feed. -/
theorem feed_notMem_of_mem_linesFrom {seen s line : List Char} (hseen : '\n' ∉ seen)
    (hline : line ∈ linesFrom seen s) : '\n' ∉ line := by
  fun_induction linesFrom seen s with
  | case1 seen hempty => cases hline
  -- At the end of the text what was seen is the last line.
  | case2 seen hempty =>
    rw [List.mem_singleton.1 hline]
    simpa using hseen
  | case3 seen r ih =>
    -- A line feed ends the line that was seen; the others begin behind it.
    rcases List.mem_cons.1 hline with rfl | hrest
    · exact fun hfeed => hseen (List.mem_reverse.1 (dropReturn_subset _ hfeed))
    · exact ih List.not_mem_nil hrest
  | case4 seen c r hc ih =>
    -- Any other character joins what was seen, and it is no line feed.
    refine ih ?_ hline
    simpa using ⟨fun h => hc h.symm, hseen⟩

/-- A first line of two characters or more keeps its first character. -/
theorem lines_cons_cons {c d : Char} (hc : c ≠ '\n') (hd : d ≠ '\n') (r : List Char) :
    ∃ line rest, lines (c :: d :: r) = (c :: line) :: rest := by
  -- The first line ends at the first line feed, or with the text.
  by_cases hfeed : '\n' ∈ r
  · obtain ⟨line, rest, rfl, hline⟩ := List.eq_append_cons_of_mem hfeed
    have hfirst : '\n' ∉ c :: d :: line := by simp [Ne.symm hc, Ne.symm hd, hline]
    obtain ⟨line', hdrop⟩ := dropReturn_append (a := [c]) (List.cons_ne_nil d line)
    refine ⟨line', lines rest, ?_⟩
    rw [← List.cons_append, ← List.cons_append, lines_append_feed hfirst]
    exact congrArg (· :: lines rest) hdrop
  · have hfirst : '\n' ∉ c :: d :: r := by simp [Ne.symm hc, Ne.symm hd, hfeed]
    exact ⟨d :: r, [], lines_of_no_feed hfirst (List.cons_ne_nil _ _)⟩

/-! ### Blanks -/

/-- A text is the blanks at its start and what trimming leaves. -/
theorem exists_blanks (s : List Char) :
    ∃ blanks, (∀ c ∈ blanks, isBlank c = true) ∧ s = blanks ++ trimStart s :=
  ⟨s.takeWhile isBlank, fun c hc => List.all_eq_true.1 List.all_takeWhile c hc,
    List.takeWhile_append_dropWhile.symm⟩

theorem trimStart_append {blanks : List Char} (hblanks : ∀ c ∈ blanks, isBlank c = true)
    (s : List Char) : trimStart (blanks ++ s) = trimStart s :=
  List.dropWhile_append_of_pos hblanks

theorem trim_subset (s : List Char) : trim s ⊆ s := by
  intro c hc
  have hstart : c ∈ trimStart s := by
    rw [trim, trimEnd, List.mem_reverse] at hc
    exact List.mem_reverse.1 ((List.dropWhile_sublist _).subset hc)
  exact (List.dropWhile_sublist _).subset hstart

/-- A text whose last character is no blank has nothing to trim at its end. -/
theorem trimEnd_of_last {s : List Char} {c : Char} (h : s.getLast? = some c)
    (hc : isBlank c = false) : trimEnd s = s := by
  rw [List.getLast?_eq_head?_reverse] at h
  unfold trimEnd
  cases hs : s.reverse with
  | nil =>
    rw [hs] at h
    cases h
  | cons d r =>
    rw [hs, List.head?_cons, Option.some.injEq] at h
    rw [h, List.dropWhile_cons_of_neg (by simp [hc]), ← h, ← hs, List.reverse_reverse]

/-- Trimming the end keeps a first character that is no blank. -/
theorem trimEnd_cons_of_not {c : Char} (hc : isBlank c = false) (s : List Char) :
    ∃ t, trimEnd (c :: s) = c :: t := by
  rw [trimEnd, List.reverse_cons, List.dropWhile_append]
  split
  · exact ⟨[], by simp [hc]⟩
  · exact ⟨_, by rw [List.reverse_append]; rfl⟩

/-- A text that neither begins nor ends with a blank. -/
theorem trim_of_ends {s : List Char} {c d : Char} (hfirst : s.head? = some c)
    (hc : isBlank c = false) (hlast : s.getLast? = some d) (hd : isBlank d = false) :
    trim s = s := by
  cases s with
  | nil => cases hfirst
  | cons e r =>
    rw [List.head?_cons, Option.some.injEq] at hfirst
    subst hfirst
    rw [trim, trimStart_cons_of_not hc, trimEnd_of_last hlast hd]

/-- A run without blanks ends in front of the first blank, or with the text. -/
theorem splitAtBlank_eq_iff {s a r : List Char} :
    splitAtBlank s = (a, r) ↔
      s = a ++ r ∧ (∀ d ∈ a, isBlank d = false) ∧ ∀ d ∈ r.head?, isBlank d = true := by
  rw [splitAtBlank, List.span_eq_takeWhile_dropWhile, Prod.mk.injEq]
  constructor
  · rintro ⟨rfl, rfl⟩
    refine ⟨List.takeWhile_append_dropWhile.symm, ?_, ?_⟩
    · intro d hd
      simpa using List.all_eq_true.1 List.all_takeWhile d hd
    · intro d hd
      have hhead := List.head?_dropWhile_not (fun c => !isBlank c) s
      rw [Option.mem_def.1 hd] at hhead
      simpa using hhead
  · -- Taking characters while they are no blanks takes the whole run and stops at the blank.
    rintro ⟨rfl, ha, hr⟩
    have hall : ∀ d ∈ a, (!isBlank d) = true := fun d hd => by rw [ha d hd]; rfl
    rw [List.takeWhile_append_of_pos hall, List.dropWhile_append_of_pos hall]
    cases r with
    | nil => simp
    | cons c r =>
      have hc : isBlank c = true := hr c (by simp)
      rw [List.takeWhile_cons_of_neg (by simp [hc]), List.dropWhile_cons_of_neg (by simp [hc]),
        List.append_nil]
      exact ⟨rfl, rfl⟩

end QuadClient.Text
