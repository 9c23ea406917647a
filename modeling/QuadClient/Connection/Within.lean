import QuadClient.Connection.Basic

/-!
# Connections held by other values

A value that holds a connection can be used as one: each call reaches the connection inside
and leaves the rest of the value as it was.
-/

namespace QuadClient

variable {κ τ α : Type}

/-- A call on an answer, read through a value that holds the connection. -/
def LiveRows.within (get : τ → κ) (put : κ → τ → τ)
    (a : Attempt CallError (LiveRows κ) α) : Attempt CallError (LiveRows τ) α :=
  a.zoom (fun live => ⟨get live.connection, live.rows⟩)
    fun inner live => ⟨put inner.connection live.connection, inner.rows⟩

/-- The connection that a value holds, used through the value. -/
@[reducible] def Connection.within [Connection κ] (get : τ → κ) (put : κ → τ → τ) :
    Connection τ where
  execute text options := (Connection.execute text options).zoom get put
  query text options := (Connection.query text options).zoom get put
  prepare text options := (Connection.prepare text options).zoom get put
  bind statement index value := (Connection.bind statement index value).zoom get put
  putBy statement := (Connection.putBy statement).zoom get put
  runBatch statement := (Connection.runBatch statement).zoom get put
  executePrepared statement := (Connection.executePrepared statement).zoom get put
  queryPrepared statement := (Connection.queryPrepared statement).zoom get put
  fetchRow := LiveRows.within get put Connection.fetchRow
  cancelRows := LiveRows.within get put Connection.cancelRows
  closeRows := LiveRows.within get put Connection.closeRows
  autoCommit := Connection.autoCommit.zoom get put
  setAutoCommit on := (Connection.setAutoCommit on).zoom get put
  commit := Connection.commit.zoom get put
  rollback := Connection.rollback.zoom get put
  supportsTransactions := Connection.supportsTransactions.zoom get put
  isolation := Connection.isolation.zoom get put
  setIsolation level := (Connection.setIsolation level).zoom get put
  close := Connection.close.zoom get put
  fetchRow_lt live next row h := by
    simp only [LiveRows.within, Attempt.on_zoom, Prod.mk.injEq] at h
    rw [← h.2]
    exact Connection.fetchRow_lt ⟨get live.connection, live.rows⟩ _ row (Prod.ext h.1 rfl)

end QuadClient
