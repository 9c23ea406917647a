import QuadClient.Cursor.Stream

/-!
# Streams that follow a script

A stream whose rows and failures are written down beforehand, and which counts how it was
released.
-/

namespace QuadClient

/-- A stream that follows a script. -/
structure Scripted where
  /-- the names of the columns -/
  columns : List String
  /-- the rows to come -/
  rows : List (List Cell)
  /-- the reading fails when so many calls for a row went well -/
  failAt : Option Nat := none
  /-- asking for no more rows fails -/
  cancelFails : Bool := false
  /-- releasing the stream fails -/
  closeFails : Bool := false
  /-- the calls for a row that went well -/
  served : Nat := 0
  /-- how often no more rows were asked for -/
  cancels : Nat := 0
  /-- how often the stream was released -/
  closes : Nat := 0

namespace Scripted

/-- The next row, unless the reading fails here. -/
def fetchRow (s : Scripted) : Except CallError (Option (List Cell)) × Scripted :=
  if s.failAt = some s.served then (.error (.statement "connection reset"), s)
  else
    match s.rows with
    | [] => (.ok none, { s with served := s.served + 1 })
    | row :: rest => (.ok (some row), { s with served := s.served + 1, rows := rest })

instance : RowSource Scripted where
  columns s := s.columns
  fetchRow := .of fetchRow
  cancel := .of fun s =>
    (if s.cancelFails then .error .cancelled else .ok (), { s with cancels := s.cancels + 1 })
  close := .of fun s =>
    (if s.closeFails then .error .closed else .ok (), { s with closes := s.closes + 1 })
  left s := s.rows.length
  left_lt s t row h := by
    simp only [Attempt.on_of, fetchRow] at h
    split at h
    · simp at h
    · split at h
      · simp at h
      · next he => simp only [Prod.mk.injEq] at h; rw [← h.2, he]; simp

end Scripted

end QuadClient
