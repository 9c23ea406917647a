import QuadClient.Text.Hex

/-!
# What a plain scalar says

Some plain scalars are no texts: null, the truth values and the numbers. A whole number is
written in decimal without zeros in front, or in hexadecimal, octal or binary after a prefix.
-/

namespace QuadClient.Yaml

/-- The text says that there is no value. -/
def isNull (s : String) : Bool :=
  ["null", "Null", "NULL", "~"].contains s

/-- The truth value of a text. -/
def truth? (s : String) : Option Bool :=
  if ["true", "True", "TRUE"].contains s then some true
  else if ["false", "False", "FALSE"].contains s then some false
  else none

/-- The value of a digit in a base up to sixteen. -/
def digit? (base : Nat) (c : Char) : Option Nat :=
  (Text.hexValue? c).filter (· < base)

/-- The number that a run of at least one digit writes. -/
def digits? (base : Nat) (s : List Char) : Option Nat :=
  if s.isEmpty then none else s.foldlM (fun n c => (digit? base c).map (base * n + ·)) 0

/-- The bases that a prefix names. -/
def bases : List (List Char × Nat) :=
  [(['0', 'x'], 16), (['0', 'o'], 8), (['0', 'b'], 2)]

/-- The number after a prefix that names its base. -/
def based? (s : List Char) : Option Nat :=
  bases.findSome? fun (mark, base) => (mark.isPrefixOf? s).bind (digits? base)

/-- The text without the sign given. -/
def unsigned (sign : Char) (s : List Char) : List Char :=
  match s with
  | c :: r => if c = sign then r else s
  | [] => []

/-- The text has a sign. -/
def isSigned (s : List Char) : Bool :=
  s.head?.any fun c => c == '+' || c == '-'

/-- Digits with a zero in front of them, which are no number. -/
def hasLeadingZero (s : List Char) : Bool :=
  match if isSigned s then s.tail else s with
  | '0' :: c :: r => (c :: r).all Char.isDigit
  | _ => false

/-- The whole number of a text, which may have a plus sign. -/
def natural? (s : List Char) : Option Nat :=
  let s' := unsigned '+' s
  match based? s' with
  | some n => some n
  | none => if hasLeadingZero s then none else digits? 10 s'

/-- The whole number of a text behind its minus sign. -/
def negated? (s : List Char) : Option Nat :=
  match s with
  | '-' :: r =>
    match based? r with
    | some n => some n
    | none => if hasLeadingZero s then none else digits? 10 r
  | _ => none

/-- The parts of a number in decimal. -/
structure DecimalParts where
  /-- the digits in front of the point -/
  whole : List Char
  /-- the digits after the point -/
  fraction : List Char
  /-- the power of ten -/
  exponent : Int

/-- The power of ten after the digits; zero if there is none. -/
def exponent? : List Char → Option Int
  | [] => some 0
  | e :: r =>
    if e == 'e' || e == 'E' then
      match r with
      | '-' :: d => (digits? 10 d).map fun n => -(n : Int)
      | d => (digits? 10 (unsigned '+' d)).map fun n => (n : Int)
    else none

/-- Takes a number in decimal without a sign apart. -/
def decimalParts? (s : List Char) : Option DecimalParts :=
  let (whole, r) := s.span Char.isDigit
  let (fraction, r) := match r with
    | '.' :: t => t.span Char.isDigit
    | _ => ([], r)
  if whole.isEmpty && fraction.isEmpty then none
  else (exponent? r).map fun e => ⟨whole, fraction, e⟩

/-- The greatest magnitude that is rounded to a number of 64 bits: half a step above the
greatest of them. -/
def doubleLimit : Nat := Nat.pow 2 1024 - Nat.pow 2 970

/-- The number is rounded to a number of 64 bits, and not to infinity. -/
def DecimalParts.isFinite (d : DecimalParts) : Bool :=
  let digits := (d.whole ++ d.fraction).dropWhile (· == '0')
  let point := (digits.length : Int) - d.fraction.length + d.exponent
  -- Far from the limit the place of the point decides.
  if digits.isEmpty || point < 300 then true
  else if 400 < point then false
  else
    match digits? 10 digits with
    | none => false
    | some n =>
      let power := d.exponent - d.fraction.length
      n * Nat.pow 10 power.toNat < doubleLimit * Nat.pow 10 (-power).toNat

/-- The text says a number with a fraction or a power of ten, or a special number. -/
def isFraction (s : List Char) : Bool :=
  let text := String.ofList s
  let positive := unsigned '+' s
  let magnitude := if isSigned s then s.tail else s
  -- No number has two signs.
  if positive ≠ s && isSigned positive then false
  else if [".inf", ".Inf", ".INF"].contains (String.ofList positive) then true
  else if ["-.inf", "-.Inf", "-.INF", ".nan", ".NaN", ".NAN"].contains text then true
  else (decimalParts? magnitude).any (·.isFinite)

/-- The greatest whole number of 128 bits, and the greatest one behind a minus sign. -/
def wideLimits : Nat × Nat := (Nat.pow 2 128 - 1, Nat.pow 2 127)

/-- The text has to be quoted to be read as a text again: it is empty, or says something other
than itself, or has a zero in front of its digits. -/
def needsQuotes (s : String) : Bool :=
  let chars := s.toList
  s.isEmpty || isNull s || (truth? s).isSome ||
    (natural? chars).any (· ≤ wideLimits.1) || (negated? chars).any (· ≤ wideLimits.2) ||
    hasLeadingZero chars || isFraction chars

end QuadClient.Yaml
