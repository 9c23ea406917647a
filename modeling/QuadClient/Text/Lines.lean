/-!
# Lines

A text is cut at its line feeds. A carriage return in front of a line feed belongs to
the line end; a text that ends in a line feed has no empty last line.
-/

namespace QuadClient.Text

/-- A line that was ended by a line feed, without a carriage return at its end. -/
def dropReturn (line : List Char) : List Char :=
  match line.reverse with
  | '\r' :: r => r.reverse
  | _ => line

/-- The lines of a text; `seen` holds the characters of the current line, last one first. -/
def linesFrom (seen : List Char) : List Char → List (List Char)
  -- What follows the last line feed is a line only if there is something.
  | [] => if seen.isEmpty then [] else [seen.reverse]
  | '\n' :: r => dropReturn seen.reverse :: linesFrom [] r
  | c :: r => linesFrom (c :: seen) r

/-- The lines of a text. -/
def lines (s : List Char) : List (List Char) :=
  linesFrom [] s

theorem linesFrom_of_no_feed (seen s : List Char) (h : '\n' ∉ s) :
    linesFrom seen s = if (seen.reverse ++ s).isEmpty then [] else [seen.reverse ++ s] := by
  induction s generalizing seen with
  | nil => cases seen <;> simp [linesFrom]
  | cons c r ih =>
    have hc : c ≠ '\n' := fun e => h (by simp [e])
    have hr : '\n' ∉ r := fun e => h (by simp [e])
    -- The character is no line feed, so it joins the current line.
    rw [linesFrom.eq_3 _ _ _ (by simpa using hc), ih _ hr]
    simp

/-- A text without line feeds is one line. -/
theorem lines_of_no_feed {s : List Char} (h : '\n' ∉ s) (hne : s ≠ []) : lines s = [s] := by
  rw [lines, linesFrom_of_no_feed [] s h]
  cases s with
  | nil => exact absurd rfl hne
  | cons c r => simp

end QuadClient.Text
