/-!
# Parameters
-/

namespace QuadClient

/-- A value bound into a prepared statement. -/
inductive Param where
  /-- nothing -/
  | null
  /-- a whole number -/
  | int (n : Int)
  /-- a text -/
  | text (s : String)
  deriving DecidableEq, Repr

namespace Param

/-- The text of a parameter that is one. -/
def text? : Param → Option String
  | text s => some s
  | _ => none

/-- The number of a parameter that is one. -/
def int? : Param → Option Int
  | int n => some n
  | _ => none

/-- A text that may be missing. -/
def ofText? : Option String → Param
  | some s => text s
  | none => null

@[simp] theorem text?_ofText? (s : Option String) : (ofText? s).text? = s := by
  cases s <;> rfl

end Param

end QuadClient
