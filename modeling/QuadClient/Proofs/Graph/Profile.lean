import QuadClient.Graph.Update
import QuadClient.Proofs.Graph.Batch
import QuadClient.Proofs.Graph.Run

/-!
# The profile of a handle

The graph a handle stands for, its settings and whether it is closed: no operation changes any of
these.
-/

namespace QuadClient

open Attempt (Keeps)

/-- What no operation changes of a handle: all but its connection and its listeners. -/
structure Handle.Profile where
  /-- the name of the graph -/
  graphName : String
  /-- the connection was released -/
  isClosed : Bool
  /-- how reads are answered -/
  options : ReadOptions
  /-- what a statement may use -/
  resources : Resources

namespace Handle

variable {κ α : Type}

/-- The profile of a handle. -/
def profile (h : Handle κ) : Profile :=
  ⟨h.graphName, h.isClosed, h.options, h.resources⟩

/-- The handle has this profile. -/
def Has (p : Profile) (h : Handle κ) : Prop :=
  h.profile = p

variable {p : Profile}

/-- An action on the connection puts the connection back and touches nothing else of the handle. -/
theorem has_onConnection (a : Attempt Error κ α) :
    Keeps (Has p) (onConnection a) fun _ => True := by
  intro h hp
  refine ⟨?_, fun _ _ => trivial⟩
  -- The action is written out, since what it leaves depends on whether the handle is closed.
  show Has p (if h.isClosed then (Except.error Error.closed, h)
    else ((a.on h.connection).1, { h with connection := (a.on h.connection).2 })).2
  split
  · exact hp
  · exact hp

/-- To tell the listeners changes their mailboxes only. -/
theorem has_tell (event : String → Event) :
    Keeps (Has p) (tell event : GraphAction κ Unit) fun _ => True :=
  fun _ hp => ⟨hp, fun _ _ => trivial⟩

variable [Connection κ]

/-- The settings are read to send a statement, and not written. -/
theorem has_sendWith (kind : WriteKind) (text : String) (params : List Param) :
    Keeps (Has p) (sendWith kind text params : GraphAction κ Unit) fun _ => True :=
  Keeps.bind Attempt.keeps_get fun _ _ => has_onConnection _

/-- Coded or not, a triple is written by one action on the connection. -/
theorem has_sendOne (kind : WriteKind) (t : Triple) :
    Keeps (Has p) (sendOne kind t : GraphAction κ Unit) fun _ => True := by
  unfold sendOne
  split
  · exact Attempt.keeps_throw _
  · exact Keeps.bind Attempt.keeps_get fun _ _ => has_sendWith _ _ _

/-- Each of the three ways to remove is an action on the connection. -/
theorem has_eraseMatching (pattern : Pattern) :
    Keeps (Has p) (eraseMatching pattern : GraphAction κ Unit) fun _ => True := by
  refine Keeps.bind Attempt.keeps_get fun h _ => ?_
  split
  · exact has_sendWith _ _ _
  · split
    · exact has_sendOne _ _
    · exact has_onConnection _

/-! ### Batched writes -/

/-- A batched write puts back the connection that it leaves, wherever it stops. -/
theorem profile_sendAll (kind : WriteKind) (ts : List Triple) (h : Handle κ) :
    (sendAll kind ts h).2.profile = h.profile := by
  unfold sendAll
  -- the handle is closed
  split
  · rfl
  · -- the statement is not prepared, or the triples are sent
    split
    · rfl
    · rfl

/-- The transaction around a batched write is an action on the connection as well. -/
theorem has_writeMany (kind : WriteKind) (ts : List Triple) (notify : Bool) :
    Keeps (Has p) (writeMany kind ts notify : GraphAction κ Nat) fun _ => True :=
  keeps_writeMany_of (has_onConnection _) (fun ts h hp => (profile_sendAll kind ts h).trans hp)
    (keeps_leaveWrite_of (has_onConnection _) (has_onConnection _)) (fun _ _ hp => hp) ts notify

/-- A single write, told to the listeners behind it. -/
theorem has_write (kind : WriteKind) (t : Triple) (event : String → Event) :
    Keeps (Has p) (do sendOne kind t; tell event : GraphAction κ Unit) fun _ => True :=
  Keeps.bind (has_sendOne kind t) fun _ _ => has_tell event

theorem has_remove (pattern : Pattern) :
    Keeps (Has p) (remove pattern : GraphAction κ Unit) fun _ => True :=
  Keeps.bind (has_eraseMatching pattern) fun _ _ => has_tell _

theorem has_wipe : Keeps (Has p) (wipe : GraphAction κ Unit) fun _ => True :=
  Keeps.bind Attempt.keeps_get fun _ _ => has_sendWith _ _ _

theorem has_clear : Keeps (Has p) (clear : GraphAction κ Unit) fun _ => True :=
  Keeps.bind has_wipe fun _ _ => has_tell _

/-- A load that is refused for its address does not even reach the connection. -/
theorem has_load (url : String) :
    Keeps (Has p) (load url : GraphAction κ Unit) fun _ => True := by
  unfold load
  split
  · exact Attempt.keeps_throw _
  · exact Keeps.bind Attempt.keeps_get fun _ _ => has_onConnection _

theorem has_update (u : UpdateSequence) :
    Keeps (Has p) (u.run : GraphAction κ Unit) fun _ => True :=
  Keeps.bind Attempt.keeps_get fun _ _ => has_onConnection _

/-! ### Reads -/

/-- A query of the caller's own reads the settings twice, once for its text and once for its
options. -/
theorem has_selectWith (query : String) (lookup : String → Option Term)
    (use : Cursor (LiveRows κ) → Except Error α × Cursor (LiveRows κ)) :
    Keeps (Has p) (selectWith query lookup use) fun _ => True :=
  Keeps.bind Attempt.keeps_get fun _ _ =>
    Keeps.bind Attempt.keeps_get fun _ _ => has_onConnection _

theorem has_queryRows (query : String) (lookup : String → Option Term) :
    Keeps (Has p) (queryRows query lookup : GraphAction κ (List (List Cell))) fun _ => True :=
  Keeps.bind Attempt.keeps_get fun _ _ => has_onConnection _

/-- A search for triples reads the settings twice too. -/
theorem has_findWith (pattern : Pattern)
    (use : Matches (LiveRows κ) → Except Error α × Matches (LiveRows κ)) :
    Keeps (Has p) (findWith pattern use) fun _ => True :=
  Keeps.bind Attempt.keeps_get fun _ _ =>
    Keeps.bind Attempt.keeps_get fun _ _ => has_onConnection _

theorem has_find (pattern : Pattern) :
    Keeps (Has p) (find pattern : GraphAction κ (List Triple)) fun _ => True :=
  has_findWith pattern Matches.drain

theorem has_contains (pattern : Pattern) :
    Keeps (Has p) (contains pattern : GraphAction κ Bool) fun _ => True :=
  Keeps.bind Attempt.keeps_get fun _ _ =>
    Keeps.bind (has_onConnection _) fun _ _ => Attempt.keeps_pure trivial

/-- A count that makes no sense is an error and changes nothing. -/
theorem has_size : Keeps (Has p) (size : GraphAction κ Nat) fun _ => True := by
  refine Keeps.bind Attempt.keeps_get fun _ _ => Keeps.bind (has_onConnection _) fun row _ => ?_
  split
  · exact Attempt.keeps_pure trivial
  · exact Attempt.keeps_throw _

end Handle

/-- No operation changes the profile of the handle. -/
theorem Operation.has_act {κ : Type} [Connection κ] {p : Handle.Profile} (o : Operation) :
    Keeps (Handle.Has p) (o.act : GraphAction κ Answer) fun _ => True := by
  cases o with
  | write kind t =>
    -- The two kinds are told to the listeners by different events.
    cases kind with
    | add => exact Keeps.bind (Handle.has_write .add t _) fun _ _ => Attempt.keeps_pure trivial
    | delete =>
      exact Keeps.bind (Handle.has_write .delete t _) fun _ _ => Attempt.keeps_pure trivial
  | writeMany kind ts notify =>
    exact Keeps.bind (Handle.has_writeMany kind ts notify) fun _ _ => Attempt.keeps_pure trivial
  | remove q => exact Keeps.bind (Handle.has_remove q) fun _ _ => Attempt.keeps_pure trivial
  | wipe => exact Keeps.bind Handle.has_wipe fun _ _ => Attempt.keeps_pure trivial
  | clear => exact Keeps.bind Handle.has_clear fun _ _ => Attempt.keeps_pure trivial
  | find q => exact Keeps.bind (Handle.has_find q) fun _ _ => Attempt.keeps_pure trivial
  | contains q => exact Keeps.bind (Handle.has_contains q) fun _ _ => Attempt.keeps_pure trivial
  | size => exact Keeps.bind Handle.has_size fun _ _ => Attempt.keeps_pure trivial

end QuadClient
