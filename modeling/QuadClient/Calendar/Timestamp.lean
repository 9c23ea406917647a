import QuadClient.Calendar.Date
import QuadClient.Calendar.Time

/-!
# Timestamps

A timestamp is a date with a time of day. Its form for people has a blank between the two; its
lexical form has a `T`, and always a fraction, without needless zeros.
-/

namespace QuadClient

/-- A date with a time of day. -/
structure Timestamp where
  /-- the day -/
  date : Date
  /-- the time within the day -/
  time : Time
  deriving DecidableEq

namespace Timestamp

/-- The form for people. -/
def display (ts : Timestamp) : String :=
  ts.date.display ++ " " ++ ts.time.display

/-- The digits of a fraction of a second: nine digits without the zeros at the end, and a
single zero for a whole second. -/
def fractionDigits (nanos : Nat) : List Char :=
  if nanos = 0 then ['0']
  -- Zeros in front count, zeros at the end do not.
  else ((Text.padded 9 nanos).toList.reverse.dropWhile (· == '0')).reverse

/-- The lexical form of a timestamp literal. -/
def lexical (ts : Timestamp) : String :=
  ts.date.display ++ "T" ++ ts.time.clock ++ "." ++
    String.ofList (fractionDigits ts.time.fraction)

end Timestamp

end QuadClient
