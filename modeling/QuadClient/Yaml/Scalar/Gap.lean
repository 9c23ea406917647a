import QuadClient.Yaml.Place

/-!
# Gaps between the words of a scalar

Words on one line keep the blanks between them. Words on different lines are folded: one line
break is a space, of more breaks all but the first stay, and the blanks around them go.
-/

namespace QuadClient.Yaml

/-- What stands between two words. -/
structure Gap where
  /-- the blanks before any break -/
  blanks : List Char := []
  /-- the first break -/
  first : List Char := []
  /-- the other breaks -/
  more : List Char := []
  /-- the words are on different lines -/
  broken : Bool := false

namespace Gap

/-- What the gap is read as. -/
def text (g : Gap) : List Char :=
  if g.broken then
    -- A wide break is never turned into a space.
    if g.first = ['\n'] then (if g.more.isEmpty then [' '] else g.more) else g.first ++ g.more
  else g.blanks

/-- Reads a gap to its end. At the start of a line a tab in front of the column given is a
fault. -/
def read (column : Nat) (g : Gap) (p : Place) : Option (Gap × Place) :=
  match _h : p.rest with
  | [] => some (g, p)
  | c :: _ =>
    if isBlank c then
      -- Only spaces indent a line.
      if g.broken && p.column < column && c == '\t' then none
      else read column (if g.broken then g else { g with blanks := g.blanks ++ [c] }) (p.forward 1)
    else if isBreak c then
      let g :=
        if g.broken then { g with more := g.more ++ p.breakText }
        else { first := p.breakText, broken := true }
      read column g p.nextLine
    else some (g, p)
termination_by p.rest.length
decreasing_by
  · exact p.length_forward_lt (by simp [_h])
  · exact p.length_nextLine_lt (by simp [_h])

end Gap

end QuadClient.Yaml
