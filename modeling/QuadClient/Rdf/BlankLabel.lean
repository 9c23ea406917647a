/-!
# Blank node labels

A label starts with a letter, a digit, an underscore or a colon and does not end in a point.
-/

namespace QuadClient

namespace BlankLabel

/-- Characters a label may start with. -/
def isFirst (c : Char) : Bool :=
  let n := c.toNat
  c.isAlphanum || c == '_' || c == ':' ||
  (0xC0 ≤ n && n ≤ 0xD6) || (0xD8 ≤ n && n ≤ 0xF6) || (0xF8 ≤ n && n ≤ 0x2FF) ||
  (0x370 ≤ n && n ≤ 0x37D) || (0x37F ≤ n && n ≤ 0x1FFF) || (0x200C ≤ n && n ≤ 0x200D) ||
  (0x2070 ≤ n && n ≤ 0x218F) || (0x2C00 ≤ n && n ≤ 0x2FEF) || (0x3001 ≤ n && n ≤ 0xD7FF) ||
  (0xF900 ≤ n && n ≤ 0xFDCF) || (0xFDF0 ≤ n && n ≤ 0xFFFD) || (0x10000 ≤ n && n ≤ 0xEFFFF)

/-- Characters that may follow the first one. -/
def isRest (c : Char) : Bool :=
  let n := c.toNat
  isFirst c || c == '-' || c == '.' || n == 0xB7 || (0x300 ≤ n && n ≤ 0x36F) ||
  (0x203F ≤ n && n ≤ 0x2040)

/-- Whether a text is a label. -/
def isLabel : List Char → Bool
  | [] => false
  -- A point at the end would be read as the end of a sentence.
  | c :: r => isFirst c && r.all isRest && r.getLast? != some '.'

end BlankLabel

/-- The label of a blank node. -/
structure BlankLabel where
  /-- the label as it was written -/
  text : String
  /-- the text is a label -/
  valid : BlankLabel.isLabel text.toList = true
  deriving DecidableEq

namespace BlankLabel

instance : Hashable BlankLabel := ⟨fun b => hash b.text⟩

/-- Two labels with the same text are the same label. -/
@[ext] theorem ext {a b : BlankLabel} (h : a.text = b.text) : a = b := by
  cases a; cases b; cases h; rfl

/-- Checks a text. -/
def parse? (text : String) : Option BlankLabel :=
  if h : isLabel text.toList = true then some ⟨text, h⟩ else none

/-- The label behind the mark of a blank node. -/
def display (b : BlankLabel) : String :=
  "_:" ++ b.text

@[simp] theorem parse?_text (b : BlankLabel) : parse? b.text = some b := by
  simp [parse?, b.valid]

theorem isRest_of_isDigit {c : Char} (h : c.isDigit = true) : isRest c = true := by
  simp [isRest, isFirst, Char.isAlphanum, h]

theorem isLabel_numbered (n : Nat) : isLabel ('b' :: Nat.toDigits 10 n) = true := by
  have digit {c : Char} (h : c ∈ Nat.toDigits 10 n) : c.isDigit = true :=
    Nat.isDigit_of_mem_toDigits (by decide) (by decide) h
  simp only [isLabel, Bool.and_eq_true, List.all_eq_true, bne_iff_ne, ne_eq]
  refine ⟨⟨by decide, fun c h => isRest_of_isDigit (digit h)⟩, fun h => ?_⟩
  exact absurd (digit (List.mem_of_getLast? h)) (by decide)

/-- The label of a number. A new number gives a new label. -/
def numbered (n : Nat) : BlankLabel :=
  ⟨String.ofList ('b' :: Nat.toDigits 10 n), by simpa using isLabel_numbered n⟩

end BlankLabel

end QuadClient
