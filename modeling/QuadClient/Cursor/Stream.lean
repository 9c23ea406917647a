import QuadClient.Connection.Basic

/-!
# Streams of rows

A stream hands out rows one after the other until it has none left or fails. The answer that
is being read on a connection is such a stream.
-/

namespace QuadClient

/-- What can be done with a stream whose state is a `σ`. -/
class RowSource (σ : Type) where
  /-- the names of the columns -/
  columns : σ → List String
  /-- the next row, none at the end -/
  fetchRow : Attempt CallError σ (Option (List Cell))
  /-- asks for no more rows to be produced -/
  cancel : Attempt CallError σ Unit
  /-- releases the stream -/
  close : Attempt CallError σ Unit
  /-- a bound on the number of rows still to come -/
  left : σ → Nat
  /-- handing out a row lowers the bound -/
  left_lt (s t : σ) (row : List Cell) : fetchRow.on s = (.ok (some row), t) → left t < left s

namespace RowSource

instance {κ : Type} [Connection κ] : RowSource (LiveRows κ) where
  columns live := live.rows.columns
  fetchRow := Connection.fetchRow
  cancel := Connection.cancelRows
  close := Connection.closeRows
  left live := live.rows.rows.length
  left_lt := Connection.fetchRow_lt

variable {σ : Type} [RowSource σ]

/-- Reads every row to the end, or up to the first failure. -/
def drain (s : σ) : Except CallError (List (List Cell)) × σ :=
  match _h : fetchRow.on s with
  | (.error e, t) => (.error e, t)
  | (.ok none, t) => (.ok [], t)
  | (.ok (some row), t) =>
    let (r, u) := drain t
    (r.map (row :: ·), u)
termination_by left s
decreasing_by exact left_lt _ _ _ _h

end RowSource

end QuadClient
