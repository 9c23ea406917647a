import QuadClient.Text.Decimal

/-!
# Times of day

A time counts nanoseconds within its second. A leap second has no number of its own: it is
counted on from the second in front of it, with a billion nanoseconds more, and it is written as
the second that follows. Behind second 59 that is second 60; behind any other second the number is
that of an ordinary second too. Numbers from outside name a leap second behind second 59 only.
-/

namespace QuadClient

namespace Time

/-- The nanoseconds of a second. -/
def nanosPerSecond : Nat := 1000000000

/-- Whether there is such a time. A leap second can follow any second. -/
def isTime (hour minute second nanos : Nat) : Bool :=
  hour < 24 && minute < 60 && second < 60 && nanos < 2 * nanosPerSecond

end Time

/-- A time of day. -/
structure Time where
  /-- 0 to 23 -/
  hour : Nat
  /-- 0 to 59 -/
  minute : Nat
  /-- 0 to 59; a leap second has the number of the second in front of it -/
  second : Nat
  /-- nanoseconds since the second began, a billion or more in a leap second -/
  nanos : Nat
  /-- there is such a time -/
  valid : Time.isTime hour minute second nanos = true
  deriving DecidableEq

namespace Time

/-- The time that numbers from outside name, if there is one. -/
def ofNumbers? (hour minute second nanos : Nat) : Option Time :=
  if h : isTime hour minute second nanos = true then
    -- No other leap second than that behind second 59 is given by its numbers.
    if nanos < nanosPerSecond ∨ second = 59 then some ⟨hour, minute, second, nanos, h⟩ else none
  else none

/-- The second as it is written: for a leap second, the number that follows. -/
def writtenSecond (t : Time) : Nat :=
  if t.nanos < nanosPerSecond then t.second else t.second + 1

/-- The nanoseconds within the written second. -/
def fraction (t : Time) : Nat :=
  t.nanos % nanosPerSecond

/-- Hours, minutes and seconds between colons. -/
def clock (t : Time) : String :=
  Text.padded 2 t.hour ++ ":" ++ Text.padded 2 t.minute ++ ":" ++ Text.padded 2 t.writtenSecond

/-- The clock, and a fraction of three, six or nine digits when there is one: the shortest of
the three that is exact. -/
def display (t : Time) : String :=
  let f := t.fraction
  if f = 0 then t.clock
  else if f % 1000000 = 0 then t.clock ++ "." ++ Text.padded 3 (f / 1000000)
  else if f % 1000 = 0 then t.clock ++ "." ++ Text.padded 6 (f / 1000)
  else t.clock ++ "." ++ Text.padded 9 f

end Time

end QuadClient
