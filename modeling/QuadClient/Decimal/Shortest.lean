import QuadClient.Decimal.Binary

/-!
# The fewest digits that read back

The text of a binary number is its nearest neighbour on the coarsest decimal grid that has a
point among the reals rounding to the number; of two neighbours at the same distance it is the
upper one. The text is positional whatever the size of the number.
-/

namespace QuadClient.Decimal

/-- A decimal number: `digits · 10 ^ exponent`. -/
structure Grid where
  /-- the point on the grid -/
  digits : Nat
  /-- the grid of the multiples of this power of ten -/
  exponent : Int

/-- A number as a quotient over the scale of `r`, times `10 ^ exponent`. -/
def onGrid (r : Rounded) (n : Nat) (exponent : Int) : Nat :=
  n * r.scale * Nat.pow 10 exponent.toNat

/-- A bound of `r` brought over the same denominator as the points of a grid. -/
def bound (b : Nat) (exponent : Int) : Nat :=
  b * Nat.pow 10 (-exponent).toNat

/-- Whether a point of a grid rounds to the number. -/
def hits (r : Rounded) (g : Grid) : Bool :=
  let x := onGrid r g.digits g.exponent
  let low := bound r.low g.exponent
  let high := bound r.high g.exponent
  if r.closed then low ≤ x && x ≤ high else low < x && x < high

/-- The point of a grid that rounds to the number and lies nearest to it, if there is one. -/
def nearest? (r : Rounded) (exponent : Int) : Option Nat :=
  let value := bound r.value exponent
  let unit := onGrid r 1 exponent
  let below := value / unit
  let left := value % unit
  -- Zero reads back as zero, so it is no candidate for a positive number.
  let lower := 0 < below && hits r ⟨below, exponent⟩
  let upper := hits r ⟨below + 1, exponent⟩
  -- A point of the grid that is the number itself needs no comparison.
  if left = 0 && lower then some below
  else if lower && upper then
    -- Of two points that read back the nearer one is taken, the upper one in a tie.
    if 2 * left < unit then some below else some (below + 1)
  else if lower then some below
  else if upper then some (below + 1)
  else none

/-- Searches ever finer grids, at most `fuel` of them. -/
def search (r : Rounded) (exponent : Int) : (fuel : Nat) → Grid
  | 0 => ⟨0, 0⟩
  | fuel + 1 =>
    match nearest? r exponent with
    | some n => ⟨n, exponent⟩
    | none => search r (exponent - 1) fuel

/-- The least exponent with `value / scale < 10 ^ exponent`. -/
def magnitude (r : Rounded) : Int :=
  if r.scale ≤ r.value then (Nat.toDigits 10 (r.value / r.scale)).length
  else 1 - ((Nat.toDigits 10 ((r.scale - 1) / r.value)).length : Int)

/-- The coarsest grid with a point that reads back, and that point. A number of 53 bits has
one on a grid of at most seventeen digits. -/
def shortest (r : Rounded) : Grid :=
  search r (magnitude r) 20

/-- Positional text without an exponent: zeros fill the places down to the point. -/
def Grid.positional (g : Grid) : List Char :=
  let digits := Nat.toDigits 10 g.digits
  if 0 ≤ g.exponent then digits ++ List.replicate g.exponent.toNat '0'
  else
    let places := (-g.exponent).toNat
    if places < digits.length then
      digits.take (digits.length - places) ++ '.' :: digits.drop (digits.length - places)
    else '0' :: '.' :: (List.replicate (places - digits.length) '0' ++ digits)

/-- How the numbers that are no finite numbers are written. -/
structure SpecialNames where
  /-- not a number -/
  nan : String
  /-- plus infinity; minus infinity has a minus sign in front -/
  infinity : String

/-- The text of a word in a binary format. -/
def BinaryFormat.text (f : BinaryFormat) (names : SpecialNames) (bits : Nat) : String :=
  let signed (negative : Bool) (s : String) := if negative then "-" ++ s else s
  match f.read bits with
  | .nan => names.nan
  | .infinite negative => signed negative names.infinity
  | .zero negative => signed negative "0"
  | .finite negative r => signed negative (String.ofList (shortest r).positional)

end QuadClient.Decimal
