/-!
# Whole numbers in decimal
-/

namespace QuadClient.Text

/-- The decimal digits of a number, padded with zeros on the left to `width`. -/
def padded (width n : Nat) : String :=
  let digits := Nat.toDigits 10 n
  String.ofList (List.replicate (width - digits.length) '0' ++ digits)

/-- The decimal text of an integer: a minus sign when it is negative, no plus sign. -/
def integer (n : Int) : String :=
  match n with
  | .ofNat k => String.ofList (Nat.toDigits 10 k)
  | .negSucc k => String.ofList ('-' :: Nat.toDigits 10 (k + 1))

end QuadClient.Text
