/-!
# Binary numbers

The interchange formats of binary floating point: a sign, an exponent and a fraction in one
word. A finite number is taken together with the reals that round to it.
-/

namespace QuadClient.Decimal

/-- The layout of a binary format. -/
structure BinaryFormat where
  /-- bits of the fraction -/
  fractionBits : Nat
  /-- bits of the exponent -/
  exponentBits : Nat

/-- The format of 32 bits. -/
def single : BinaryFormat := ⟨23, 8⟩

/-- The format of 64 bits. -/
def double : BinaryFormat := ⟨52, 11⟩

/-- A positive number and the reals that round to it, all over one denominator. -/
structure Rounded where
  /-- the number -/
  value : Nat
  /-- the least real that rounds to it, or the bound below -/
  low : Nat
  /-- the greatest real that rounds to it, or the bound above -/
  high : Nat
  /-- the common denominator -/
  scale : Nat
  /-- the two ends round to the number as well -/
  closed : Bool

/-- What a word stands for. -/
inductive BinaryNumber where
  /-- not a number -/
  | nan
  /-- plus or minus infinity -/
  | infinite (negative : Bool)
  /-- plus or minus zero -/
  | zero (negative : Bool)
  /-- any other number -/
  | finite (negative : Bool) (r : Rounded)

/-- The number `mantissa · 2 ^ exponent` in quarters of its last place. `below` is the distance
to the lower bound: one quarter where the number below is nearer, two quarters elsewhere. -/
def Rounded.ofParts (mantissa below : Nat) (exponent : Int) (closed : Bool) : Rounded :=
  let shift := Nat.pow 2 (exponent - 2).toNat
  { value := 4 * mantissa * shift
    low := (4 * mantissa - below) * shift
    high := (4 * mantissa + 2) * shift
    scale := Nat.pow 2 (2 - exponent).toNat
    closed := closed }

/-- Reads a word. The number below a power of two is nearer than the number above it. -/
def BinaryFormat.read (f : BinaryFormat) (bits : Nat) : BinaryNumber :=
  let fraction := bits % Nat.pow 2 f.fractionBits
  let exponent := bits / Nat.pow 2 f.fractionBits % Nat.pow 2 f.exponentBits
  let negative := bits / Nat.pow 2 (f.fractionBits + f.exponentBits) % 2 == 1
  let bias : Int := (Nat.pow 2 (f.exponentBits - 1) : Int) - 1 + f.fractionBits
  if exponent = Nat.pow 2 f.exponentBits - 1 then
    if fraction = 0 then .infinite negative else .nan
  else if exponent = 0 then
    -- Numbers without a leading bit are evenly spaced, down to zero.
    if fraction = 0 then .zero negative
    else .finite negative (.ofParts fraction 2 (1 - bias) true)
  else
    -- Below a power of two the spacing is half of what it is above.
    let below := if fraction = 0 then 1 else 2
    .finite negative
      (.ofParts (Nat.pow 2 f.fractionBits + fraction) below (exponent - bias) (fraction % 2 == 0))

end QuadClient.Decimal
