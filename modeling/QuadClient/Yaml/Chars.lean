/-!
# Characters of YAML text

The classes of characters that the layout of YAML text is made of.
-/

namespace QuadClient.Yaml

/-- A space or a tab. -/
def isBlank (c : Char) : Bool :=
  c == ' ' || c == '\t'

/-- The two breaks that keep their own text when lines are read. -/
def isWideBreak (c : Char) : Bool :=
  c == '\u2028' || c == '\u2029'

/-- A character that ends a line. -/
def isBreak (c : Char) : Bool :=
  c == '\n' || c == '\r' || c == '\u0085' || isWideBreak c

/-- A blank or a break. -/
def isGap (c : Char) : Bool :=
  isBlank c || isBreak c

/-- A letter, a digit, a hyphen or an underscore. -/
def isWordChar (c : Char) : Bool :=
  c.isAlphanum || c == '-' || c == '_'

/-- A character that is written as it is. -/
def isPrintable (c : Char) : Bool :=
  let n := c.toNat
  n = 0x0A || (0x20 ≤ n && n ≤ 0x7E) || (0xA0 ≤ n && n ≤ 0xD7FF) ||
    (0xE000 ≤ n && n ≤ 0xFFFD && n ≠ 0xFEFF) || 0x10000 ≤ n

/-- A character that text may hold at all. -/
def isAllowed (c : Char) : Bool :=
  isPrintable c || c == '\t' || c == '\r' || c == '\u0085' || c == '\uFEFF'

/-- The rest of a text begins with a blank or a break, or there is no rest. -/
def gapNext : List Char → Bool
  | [] => true
  | c :: _ => isGap c

/-- An indicator of a flow collection. -/
def isFlowIndicator (c : Char) : Bool :=
  c == ',' || c == '[' || c == ']' || c == '\x7b' || c == '\x7d'

end QuadClient.Yaml
