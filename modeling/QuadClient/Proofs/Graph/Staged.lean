import QuadClient.Proofs.Graph.Run
import QuadClient.Proofs.Graph.WholeWrite

/-!
# Operations inside a transaction

Inside of a transaction no operation deals with transactions itself: a batched write sends its
batches and leaves the rest to whoever holds the transaction. So every operation keeps the frame
there, and does the same in every frame of that kind.
-/

namespace QuadClient

open Framed (frame inFrame)
open Attempt (Confined)

namespace Handle

variable {h : Handle LocalConnection}

/-- A write that finds a transaction open begins none. -/
theorem enterWrite_of_staged (hopen : h.isClosed = false)
    (hconnection : h.connection.isClosed = false) (hauto : h.connection.autoCommit = false)
    (kind : WriteKind) :
    (enterWrite kind).on h = (.ok false, h) := by
  have hask : (Connection.autoCommit : Attempt CallError LocalConnection Bool).on h.connection =
      (.ok false, h.connection) := by
    rw [← hauto]
    exact LocalConnection.whenOpen_of_open hconnection
  rw [enterWrite, onConnection_of_open hopen]
  simp only [Attempt.on_mapError, Attempt.on_bind, hask]
  rfl

/-- A batched write inside of a transaction sends its batches and does nothing else. -/
theorem writeAll_of_staged (hauto : h.connection.autoCommit = false) (kind : WriteKind)
    (ts : List Triple) (notify : Bool) :
    writeAll kind ts notify h =
      match sendAll kind ts h with
      | ((.error e, p), h') => ((.error e, p), h')
      | ((.ok n, p), h') => ((.ok n, p), h'.announce kind ts notify) := by
  rcases h.open_or_refuses with ⟨hopen, hconnection⟩ | hr
  · simp only [writeAll, enterWrite_of_staged hopen hconnection hauto]
    rcases sendAll kind ts h with ⟨⟨e | n, p⟩, h'⟩
    · rfl
    · rfl
  · -- What refuses the write refuses its batches in the same way.
    rw [writeAll, enterWrite_of_refuses hr, sendAll_of_refuses hr]

/-- The batches are sent, and the listeners told if they were all sent. -/
theorem writeMany_of_staged (hauto : h.connection.autoCommit = false) (kind : WriteKind)
    (ts : List Triple) (notify : Bool) :
    (writeMany kind ts notify).on h =
      match sendAll kind ts h with
      | ((.error e, _), h') => (.error e, h')
      | ((.ok n, _), h') => (.ok n, h'.announce kind ts notify) := by
  show ((writeAll kind ts notify h).1.1, (writeAll kind ts notify h).2) = _
  rw [writeAll_of_staged hauto]
  rcases sendAll kind ts h with ⟨⟨e | n, p⟩, h'⟩
  · rfl
  · rfl

/-- The listeners are told the same in any frame. -/
theorem announce_inFrame (kind : WriteKind) (ts : List Triple) (notify : Bool) (F : Frame)
    (h : Handle LocalConnection) :
    (inFrame F h).announce kind ts notify = inFrame F (h.announce kind ts notify) := by
  unfold announce
  split
  · rfl
  · rfl

/-- In the frame of a transaction a batched write does what it does in any other of that kind. -/
theorem writeMany_inFrame {F : Frame} (hF : (frame h).Like F)
    (hauto : h.connection.autoCommit = false) (hF' : F.autoCommit = false) (kind : WriteKind)
    (ts : List Triple) (notify : Bool) :
    (writeMany kind ts notify).on (inFrame F h) =
      (((writeMany kind ts notify).on h).1, inFrame F ((writeMany kind ts notify).on h).2) := by
  rw [writeMany_of_staged hauto, writeMany_of_staged (h := inFrame F h) hF',
    sendAll_inFrame kind ts hF]
  rcases sendAll kind ts h with ⟨⟨e | n, p⟩, h'⟩
  · rfl
  · exact congrArg (Prod.mk _) (announce_inFrame kind ts notify F h')

end Handle

namespace Operation

/-- An operation is a batched write or another one. -/
theorem batched_or_other (o : Operation) :
    (∃ kind ts notify, o = .writeMany kind ts notify) ∨
      ∀ kind ts notify, o ≠ .writeMany kind ts notify := by
  cases o with
  | writeMany kind ts notify => exact Or.inl ⟨kind, ts, notify, rfl⟩
  | _ => exact Or.inr nofun

/-- Every operation but the batched write is made of statements alone. -/
theorem confined_act (o : Operation) (ho : ∀ kind ts notify, o ≠ .writeMany kind ts notify) :
    Confined (o.act : GraphAction LocalConnection Answer) := by
  cases o with
  | write kind t =>
    cases kind with
    | add => exact (Handle.confined_add t).bind fun _ => Attempt.confined_pure _
    | delete => exact (Handle.confined_delete t).bind fun _ => Attempt.confined_pure _
  | writeMany kind ts notify => exact absurd rfl (ho kind ts notify)
  | remove p => exact (Handle.confined_remove p).bind fun _ => Attempt.confined_pure _
  | wipe => exact Handle.confined_wipe.bind fun _ => Attempt.confined_pure _
  | clear => exact Handle.confined_clear.bind fun _ => Attempt.confined_pure _
  | find p => exact (Handle.confined_find p).bind fun _ => Attempt.confined_pure _
  | contains p => exact (Handle.confined_contains p).bind fun _ => Attempt.confined_pure _
  | size => exact Handle.confined_size.bind fun _ => Attempt.confined_pure _

variable {F : Frame} {h : Handle LocalConnection}

/-- What a batched write of an operation comes to is what the write itself comes to. -/
theorem act_writeMany_on (kind : WriteKind) (ts : List Triple) (notify : Bool)
    (h : Handle LocalConnection) :
    (writeMany kind ts notify).act.on h =
      (((Handle.writeMany kind ts notify).on h).1.map .number,
        ((Handle.writeMany kind ts notify).on h).2) := by
  rw [act, Attempt.on_bind]
  rcases (Handle.writeMany kind ts notify).on h with ⟨e | n, h'⟩
  · rfl
  · rfl

/-- An operation inside of a transaction does the same in every frame of that kind. -/
theorem act_inFrame (o : Operation) (hF : (frame h).Like F)
    (hauto : h.connection.autoCommit = false) (hF' : F.autoCommit = false) :
    o.act.on (inFrame F h) = ((o.act.on h).1, inFrame F (o.act.on h).2) := by
  rcases o.batched_or_other with ⟨kind, ts, notify, rfl⟩ | hother
  · rw [act_writeMany_on, act_writeMany_on, Handle.writeMany_inFrame hF hauto hF']
  · -- An operation of statements alone does not look at whether a transaction is open.
    exact confined_act o hother F h hF

/-- An operation inside of a transaction keeps the frame. -/
theorem frame_act (o : Operation) (hauto : h.connection.autoCommit = false) :
    frame (o.act.on h).2 = frame h :=
  frame_snd_of_inFrame (o.act_inFrame (.refl (frame h)) hauto hauto)

end Operation

end QuadClient
