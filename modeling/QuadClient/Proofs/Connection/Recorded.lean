import QuadClient.Connection.Within
import QuadClient.Graph.Batch
import QuadClient.Proofs.Local.Calls
import QuadClient.Proofs.Outcome

/-!
# Recorded batches

A connection does not tell what the batches held that ran on it. A recorded connection passes
every call on and writes down the entries of each batch that ran. Nobody sees that it does: a
batched write on the recorded connection has the outcome it has without the record, and leaves the
same connection behind.
-/

namespace QuadClient

/-- A connection whose batches are written down. -/
structure Recorded (κ : Type) where
  /-- the connection that does the work -/
  inner : κ
  /-- the entries of the batches that ran, the oldest batch first -/
  batches : List (List (List Param)) := []

namespace Recorded

variable {κ : Type} [Connection κ]

/-- Every call passed on. -/
@[reducible] def passing : Connection (Recorded κ) :=
  .within inner fun inner r => { r with inner }

/-- Runs a batch, and writes it down once it ran. -/
def runBatch (st : Prepared) : Attempt CallError (Recorded κ) Nat := do
  let size ← passing.runBatch st
  modify fun r => { r with batches := r.batches ++ [st.batch.toList] }
  return size

instance : Connection (Recorded κ) :=
  { passing with runBatch }

instance [Connection.PreparesApart κ] : Connection.PreparesApart (Recorded κ) where
  bind_on st i p r := by
    show ((Connection.bind st (i + 1) p).zoom inner _).on r = _
    rw [Attempt.on_zoom, Connection.bind_on]
  putBy_on st r := by
    show ((Connection.putBy st).zoom inner _).on r = _
    rw [Attempt.on_zoom, Connection.putBy_on]

/-- A batch that ran is written down, one that failed is not. -/
theorem runBatch_on (st : Prepared) (r : Recorded κ) :
    (Connection.runBatch st).on r =
      match (Connection.runBatch st).on r.inner with
      | (.ok size, c) => (.ok size, ⟨c, r.batches ++ [st.batch.toList]⟩)
      | (.error e, c) => (.error e, ⟨c, r.batches⟩) := by
  -- The batch passed on leaves the record as it was; only what comes behind it writes.
  have hpassed : (passing.runBatch st).on r =
      (((Connection.runBatch st).on r.inner).1, ⟨((Connection.runBatch st).on r.inner).2,
        r.batches⟩) := rfl
  show (runBatch st).on r = _
  rw [runBatch, Attempt.on_bind, hpassed]
  rcases (Connection.runBatch st).on r.inner with ⟨e | size, c⟩
  · rfl
  · rfl

/-- A batch that ran is the last one of the record. -/
theorem runBatch_of_ok {st : Prepared} {r : Recorded κ} {size : Nat} {c : κ}
    (h : (Connection.runBatch st).on r.inner = (.ok size, c)) :
    (Connection.runBatch st).on r = (.ok size, ⟨c, r.batches ++ [st.batch.toList]⟩) := by
  rw [runBatch_on, h]

theorem runBatch_looksLike (st : Prepared) :
    (Connection.runBatch st : Attempt CallError (Recorded κ) Nat).LooksLike inner
      (Connection.runBatch st) := by
  intro r
  rw [runBatch_on]
  rcases (Connection.runBatch st).on r.inner with ⟨e | size, c⟩
  · rfl
  · rfl

end Recorded

/-! ### Batched writes without their record -/

variable {κ : Type}

namespace BatchWrite

/-- The write on the connection that does the work. -/
def bare (b : BatchWrite (Recorded κ)) : BatchWrite κ :=
  ⟨b.connection.inner, b.statement, b.pending, b.sent, b.progress⟩

theorem call_looksLike {α : Type} {kind : WriteKind} {a : Attempt CallError (Recorded κ) α}
    {a' : Attempt CallError κ α} (h : a.LooksLike Recorded.inner a') :
    (call kind a).LooksLike bare (call kind a') :=
  (h.mapError _).zoom (fun _ => rfl) fun _ _ => rfl

variable [Connection κ] (kind : WriteKind) (graph : String)

theorem bindFrom_looksLike (number : Nat) (st : Prepared) (ps : List Param) :
    (Handle.bindFrom number st ps : Attempt CallError (Recorded κ) Prepared).LooksLike
      Recorded.inner (Handle.bindFrom number st ps) := by
  induction ps generalizing number st with
  | nil => exact Attempt.looksLike_pure st
  | cons p ps ih => exact Attempt.LooksLike.bind (fun _ => rfl) fun st => ih (number + 1) st

/-- The batch is sent with the record or without it, and counted alike. -/
theorem flush_looksLike :
    (flush kind : Attempt Error (BatchWrite (Recorded κ)) Unit).LooksLike bare (flush kind) := by
  refine Attempt.looksLike_get_bind fun b => ?_
  refine (call_looksLike (Recorded.runBatch_looksLike b.statement)).bind fun _ => ?_
  exact Attempt.looksLike_modify fun _ => rfl

/-- A triple is put by with the record or without it. -/
theorem put_looksLike (t : Triple) :
    (put kind graph t : Attempt Error (BatchWrite (Recorded κ)) Unit).LooksLike bare
      (put kind graph t) := by
  refine Attempt.LooksLike.bind (Attempt.looksLike_modify fun _ => rfl) fun _ => ?_
  split
  · -- It is misplaced, which is found out before the connection is asked.
    exact Attempt.looksLike_throw _
  · refine Attempt.looksLike_get_bind fun b => ?_
    refine (call_looksLike (bindFrom_looksLike 1 _ _)).bind fun st => ?_
    refine (call_looksLike fun _ => rfl).bind fun st => ?_
    refine Attempt.LooksLike.bind (Attempt.looksLike_modify fun _ => rfl) fun _ => ?_
    refine Attempt.looksLike_get_bind fun b => ?_
    -- Neither the size of a batch nor its limit is part of the record.
    show Attempt.LooksLike bare (if b.pending = batchLimit then flush kind else pure ())
      (if b.pending = batchLimit then flush kind else pure ())
    split
    · exact flush_looksLike kind
    · exact Attempt.looksLike_pure _

/-- The whole pass looks the same, and gives the same number. -/
theorem putAll_looksLike (ts : List Triple) :
    (putAll kind graph ts : Attempt Error (BatchWrite (Recorded κ)) Nat).LooksLike bare
      (putAll kind graph ts) := by
  refine (Attempt.LooksLike.forM (put_looksLike kind graph) ts).bind fun _ => ?_
  refine Attempt.looksLike_get_bind fun b => ?_
  have hsent : (do return (← get).sent : Attempt Error (BatchWrite (Recorded κ)) Nat).LooksLike
      bare (do return (← get).sent) :=
    Attempt.looksLike_get_bind fun b => Attempt.looksLike_pure b.sent
  -- `putAll` is unfolded up to its last choice, which depends on what is pending alone.
  show Attempt.LooksLike bare
    (if 0 < b.pending then flush kind >>= fun _ => do return (← get).sent
      else do return (← get).sent)
    (if 0 < b.pending then flush kind >>= fun _ => do return (← get).sent
      else do return (← get).sent)
  split
  · exact (flush_looksLike kind).bind fun _ => hsent
  · exact hsent

end BatchWrite

namespace Handle

/-- The handle on the connection that does the work. -/
def bare (h : Handle (Recorded κ)) : Handle κ :=
  ⟨h.connection.inner, h.graphName, h.isClosed, h.options, h.resources, h.listeners⟩

/-- The handle, its batches written down from now on. -/
def recorded (h : Handle κ) : Handle (Recorded κ) :=
  ⟨⟨h.connection, []⟩, h.graphName, h.isClosed, h.options, h.resources, h.listeners⟩

variable [Connection κ]

/-- The entries of the batches that run during a batched write. -/
def batchesOf (kind : WriteKind) (ts : List Triple) (h : Handle κ) : List (List (List Param)) :=
  (sendAll kind ts h.recorded).2.connection.batches

/-- The record changes nothing about a batched write. -/
theorem sendAll_bare (kind : WriteKind) (ts : List Triple) (h : Handle (Recorded κ)) :
    sendAll kind ts h.bare = ((sendAll kind ts h).1, (sendAll kind ts h).2.bare) := by
  have hprepare : (Connection.prepare kind.template h.sendOptions).on h.connection.inner =
      (((Connection.prepare kind.template h.sendOptions).on h.connection).1,
        ((Connection.prepare kind.template h.sendOptions).on h.connection).2.inner) := rfl
  -- Every step of `sendAll` is that of the bare handle, up to the pass over the triples.
  unfold sendAll
  rw [show h.bare.isClosed = h.isClosed from rfl]
  split
  · rfl
  · rw [show h.bare.connection = h.connection.inner from rfl,
      show h.bare.sendOptions = h.sendOptions from rfl, hprepare]
    rcases (Connection.prepare kind.template h.sendOptions).on h.connection with ⟨e | st, r⟩
    · rfl
    · have hput := BatchWrite.putAll_looksLike kind h.graphName ts ⟨r, st, 0, 0, {}⟩
      dsimp only
      rw [show h.bare.graphName = h.graphName from rfl,
        show (⟨r.inner, st, 0, 0, {}⟩ : BatchWrite κ) = BatchWrite.bare ⟨r, st, 0, 0, {}⟩ from rfl,
        hput]
      rfl

/-- A handle that is recorded from now on writes in batches as the handle itself does. -/
theorem sendAll_recorded (kind : WriteKind) (ts : List Triple) (h : Handle κ) :
    sendAll kind ts h =
      ((sendAll kind ts h.recorded).1, (sendAll kind ts h.recorded).2.bare) :=
  sendAll_bare kind ts h.recorded

end Handle

end QuadClient
