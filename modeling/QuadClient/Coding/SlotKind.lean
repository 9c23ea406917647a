/-!
# Kinds of object slots

The first of the three slots of a coded object holds a number for the kind of the object.
-/

namespace QuadClient

/-- What the value slot and the extra slot of a coded object hold. -/
inductive SlotKind where
  /-- a named node or a blank node -/
  | node
  /-- a plain literal -/
  | plain
  /-- a literal with its datatype in the extra slot -/
  | typed
  /-- a literal with its language in the extra slot -/
  | tagged
  deriving DecidableEq, Repr

namespace SlotKind

/-- The number of a kind. -/
def code : SlotKind → Int
  | node => 1
  | plain => 3
  | typed => 4
  | tagged => 5

/-- The kind with a number. -/
def ofCode? (n : Int) : Option SlotKind :=
  if n = 1 then some node
  else if n = 3 then some plain
  else if n = 4 then some typed
  else if n = 5 then some tagged
  else none

/-- The name of a kind in messages. -/
def name : SlotKind → String
  | node => "Node"
  | plain => "Plain"
  | typed => "Typed"
  | tagged => "Lang"

@[simp] theorem ofCode?_code (k : SlotKind) : ofCode? k.code = some k := by
  cases k <;> rfl

end SlotKind

end QuadClient
