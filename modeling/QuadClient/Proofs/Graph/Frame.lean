import QuadClient.Graph.Update
import QuadClient.Proofs.Cursor.Frame
import QuadClient.Proofs.Graph.Batch

/-!
# Operations in a frame

Reads and writes of a handle are made of statements, so they keep the frame of its connection
and do the same in every frame that looks the same to a statement. The batched write alone deals
with transactions; what it sends is confined as well.
-/

namespace QuadClient

open Framed (frame inFrame)
open Attempt (Confined confined_of)

instance : Framed (Handle LocalConnection) where
  frame h := frame h.connection
  inFrame F h := { h with connection := inFrame F h.connection }
  frame_inFrame F h := Framed.frame_inFrame F h.connection
  inFrame_frame h := by rw [Framed.inFrame_frame]
  inFrame_inFrame F G h := by rw [Framed.inFrame_inFrame]

instance : Framed (BatchWrite LocalConnection) where
  frame b := frame b.connection
  inFrame F b := { b with connection := inFrame F b.connection }
  frame_inFrame F b := Framed.frame_inFrame F b.connection
  inFrame_frame b := by rw [Framed.inFrame_frame]
  inFrame_inFrame F G b := by rw [Framed.inFrame_inFrame]

namespace Handle

variable {α : Type}

/-- A handle passes a confined action on: it looks only at whether it is closed itself, which no
frame of its connection says. -/
theorem confined_onConnection {a : Attempt Error LocalConnection α} (ha : Confined a) :
    Confined (onConnection a) := by
  refine confined_of fun F h hF => ?_
  have hclosed : (inFrame F h).isClosed = h.isClosed := rfl
  rw [hclosed]
  split
  · rfl
  · have hsame := ha F h.connection hF
    -- What `onConnection` does with the outcome is written out, for `hsame` to rewrite in it.
    show ((a.on (inFrame F h.connection)).1,
      { h with connection := (a.on (inFrame F h.connection)).2 }) = _
    rw [hsame]
    rfl

/-- To tell the listeners does not go near the connection. -/
theorem confined_tell (event : String → Event) :
    Confined (tell event : GraphAction LocalConnection Unit) :=
  confined_of fun _ _ _ => rfl

/-! ### Writes -/

/-- A single statement is confined: it is prepared, bound and run, and none of the three looks at a
transaction. -/
theorem confined_sendWith (kind : WriteKind) (text : String) (params : List Param) :
    Confined (sendWith kind text params : GraphAction LocalConnection Unit) := by
  -- The options it is sent with belong to the handle and are the same in every frame.
  refine Attempt.confined_get_bind (fun _ _ => rfl) fun h => ?_
  refine confined_onConnection (Confined.mapError ?_ _)
  refine Confined.bind (LocalConnection.confined_prepare text h.sendOptions) fun st => ?_
  refine Confined.bind (LocalConnection.confined_bindFrom 1 st params) fun st => ?_
  exact LocalConnection.confined_execute st.text st.options st.params

/-- A triple that cannot be coded fails before a statement is made. -/
theorem confined_sendOne (kind : WriteKind) (t : Triple) :
    Confined (sendOne kind t : GraphAction LocalConnection Unit) := by
  unfold sendOne
  split
  · exact Attempt.confined_throw _
  · exact Attempt.confined_get_bind (fun _ _ => rfl) fun _ => confined_sendWith _ _ _

/-- Each of the three ways to remove is one statement. -/
theorem confined_eraseMatching (p : Pattern) :
    Confined (eraseMatching p : GraphAction LocalConnection Unit) := by
  refine Attempt.confined_get_bind (fun _ _ => rfl) fun h => ?_
  -- no slot, every slot, or some of them
  split
  · exact confined_sendWith _ _ _
  · split
    · exact confined_sendOne _ _
    · exact confined_onConnection
        (Confined.mapError (LocalConnection.confined_execute _ _ []) _)

theorem confined_add (t : Triple) : Confined (add t : GraphAction LocalConnection Unit) :=
  Confined.bind (confined_sendOne .add t) fun _ => confined_tell _

theorem confined_delete (t : Triple) : Confined (delete t : GraphAction LocalConnection Unit) :=
  Confined.bind (confined_sendOne .delete t) fun _ => confined_tell _

theorem confined_remove (p : Pattern) : Confined (remove p : GraphAction LocalConnection Unit) :=
  Confined.bind (confined_eraseMatching p) fun _ => confined_tell _

theorem confined_wipe : Confined (wipe : GraphAction LocalConnection Unit) :=
  Attempt.confined_get_bind (fun _ _ => rfl) fun _ => confined_sendWith _ _ _

/-- A load is one statement as well; a bad address fails before it is sent. -/
theorem confined_load (url : String) :
    Confined (load url : GraphAction LocalConnection Unit) := by
  unfold load
  split
  · exact Attempt.confined_throw _
  · exact Attempt.confined_get_bind (fun _ _ => rfl) fun _ => confined_onConnection
      (Confined.mapError (LocalConnection.confined_execute _ _ []) _)

/-- The statements of an update run one after the other. -/
theorem confined_update (u : UpdateSequence) :
    Confined (u.run : GraphAction LocalConnection Unit) :=
  Attempt.confined_get_bind (fun _ _ => rfl) fun _ => confined_onConnection
    (Confined.mapError (Confined.forM (fun _ => LocalConnection.confined_execute _ _ []) _) _)

theorem confined_clear : Confined (clear : GraphAction LocalConnection Unit) :=
  Confined.bind confined_wipe fun _ => confined_tell _

/-! ### Reads -/

/-- A read is confined when both its parts are: the opening of the answer, and what is done with
it. -/
theorem confined_withRows {opening : Attempt CallError LocalConnection Rows}
    (hopening : Confined opening)
    {use : LiveRows LocalConnection → Except Error α × LiveRows LocalConnection}
    (huse : Confined (.of use)) : Confined (withRows opening use) := by
  refine confined_onConnection (confined_of fun F c hF => ?_)
  have hrows := hopening F c hF
  have hlike := hopening.like_on hF
  rw [hrows]
  rcases hon : opening.on c with ⟨e | rows, d⟩
  · rfl
  · -- The use starts from the connection that the opening left, which is still in its own frame.
    rw [hon] at hlike
    have hsame := huse F ⟨d, rows⟩ hlike
    rw [Attempt.on_of, Attempt.on_of] at hsame
    show ((use (inFrame F ⟨d, rows⟩)).1, (use (inFrame F ⟨d, rows⟩)).2.connection) = _
    rw [hsame]
    rfl

theorem confined_fetchRow : (RowSource.fetchRow (σ := LiveRows LocalConnection)).Confined :=
  LocalConnection.confined_fetchRow

theorem confined_closeRows : (RowSource.close (σ := LiveRows LocalConnection)).Confined :=
  LocalConnection.confined_closeRows

/-- One row is fetched and the answer closed behind it. -/
theorem confined_firstRow : Confined (.of (firstRow (κ := LocalConnection))) := by
  refine confined_of fun F live hF => ?_
  have hrow := confined_fetchRow F live hF
  have hclose := confined_closeRows F _ (confined_fetchRow.like_on hF)
  show ((RowSource.fetchRow.on (inFrame F live)).1.mapError Error.ofQuery,
    (RowSource.close.on (RowSource.fetchRow.on (inFrame F live)).2).2) = _
  rw [hrow, hclose]
  rfl

/-- All rows are fetched and the answer closed behind the last. -/
theorem confined_allRows : Confined (.of (allRows (κ := LocalConnection))) := by
  refine confined_of fun F live hF => ?_
  -- The closing meets the frame that the fetching left, which is the one it found.
  have hdrain := RowSource.confined_drain confined_fetchRow F live hF
  have hlike := (RowSource.confined_drain confined_fetchRow).like_on (s := live) hF
  rw [Attempt.on_of] at hlike
  have hclose := confined_closeRows F _ hlike
  rw [Attempt.on_of, Attempt.on_of] at hdrain
  show ((RowSource.drain (inFrame F live)).1.mapError Error.ofQuery,
    (RowSource.close.on (RowSource.drain (inFrame F live)).2).2) = _
  rw [hdrain, hclose]
  rfl

theorem confined_queryRows (query : String) (lookup : String → Option Term) :
    Confined (queryRows query lookup : GraphAction LocalConnection (List (List Cell))) :=
  Attempt.confined_get_bind (fun _ _ => rfl) fun _ =>
    confined_withRows (LocalConnection.confined_query _ _ []) confined_allRows

/-- Whatever uses a cursor by statements alone is confined, its end included. -/
theorem confined_withCursor (text : String)
    {use : Cursor (LiveRows LocalConnection) → Except Error α × Cursor (LiveRows LocalConnection)}
    (huse : Confined (.of use)) : Confined (withCursor text use) := by
  refine Attempt.confined_get_bind (fun _ _ => rfl) fun h => ?_
  refine confined_withRows (LocalConnection.confined_query _ _ []) (confined_of fun F live hF => ?_)
  -- The cursor that is dropped is the one the use left, and it owns its rows until then.
  let c : Cursor (LiveRows LocalConnection) := Cursor.ofStream live h.graphName
  have hused := huse F c hF
  have hdrop := Cursor.release_inFrame confined_closeRows (huse.like_on (s := c) hF)
  rw [Attempt.on_of, Attempt.on_of] at hused
  rw [Attempt.on_of] at hdrop
  show ((use (inFrame F c)).1, (use (inFrame F c)).2.release.source) = _
  rw [hused]
  exact congrArg (fun d : Cursor (LiveRows LocalConnection) => ((use c).1, d.source)) hdrop

/-- A query of the caller's own is read through a cursor like any other. -/
theorem confined_selectWith (query : String) (lookup : String → Option Term)
    {use : Cursor (LiveRows LocalConnection) → Except Error α × Cursor (LiveRows LocalConnection)}
    (huse : Confined (.of use)) : Confined (selectWith query lookup use) :=
  Attempt.confined_get_bind (fun _ _ => rfl) fun _ => confined_withCursor _ huse

/-- A search for triples is a cursor that keeps the pattern beside it. -/
theorem confined_findWith (p : Pattern)
    {use : Matches (LiveRows LocalConnection) → Except Error α × Matches (LiveRows LocalConnection)}
    (huse : Confined (.of use)) : Confined (findWith p use) := by
  refine Attempt.confined_get_bind (fun _ _ => rfl) fun h => ?_
  refine confined_withCursor _ (confined_of fun F c hF => ?_)
  have hused := huse F ⟨c, p⟩ hF
  rw [Attempt.on_of, Attempt.on_of] at hused
  show ((use (inFrame F ⟨c, p⟩)).1, (use (inFrame F ⟨c, p⟩)).2.cursor) = _
  rw [hused]
  rfl

theorem confined_find (p : Pattern) :
    Confined (find p : GraphAction LocalConnection (List Triple)) :=
  confined_findWith p (Matches.confined_drain confined_fetchRow confined_closeRows)

theorem confined_contains (p : Pattern) :
    Confined (contains p : GraphAction LocalConnection Bool) := by
  refine Attempt.confined_get_bind (fun _ _ => rfl) fun h => ?_
  refine Confined.bind (confined_withRows (LocalConnection.confined_query _ _ [])
    confined_firstRow) fun _ => Attempt.confined_pure _

/-- A count is prepared and bound before it is sent; a negative number in its row is an error in
every frame. -/
theorem confined_size : Confined (size : GraphAction LocalConnection Nat) := by
  refine Attempt.confined_get_bind (fun _ _ => rfl) fun h => ?_
  have hopening : Confined (do
      let statement ← Connection.prepare (h.scope.count .any).text h.sendOptions
      let statement ← bindFrom 1 statement (h.scope.count .any).params
      Connection.queryPrepared statement : Attempt CallError LocalConnection Rows) := by
    refine Confined.bind (LocalConnection.confined_prepare _ _) fun st => ?_
    refine Confined.bind (LocalConnection.confined_bindFrom 1 st _) fun st => ?_
    exact LocalConnection.confined_query _ _ _
  refine Confined.bind (confined_withRows hopening confined_firstRow) fun row => ?_
  split
  · exact Attempt.confined_pure _
  · exact Attempt.confined_throw _

end Handle

/-! ### Batches -/

namespace BatchWrite

variable {α : Type}

/-- The state around a call on the connection takes no part in it. -/
theorem confined_call {kind : WriteKind} {a : Attempt CallError LocalConnection α}
    (ha : Confined a) : Confined (call kind a) :=
  (ha.mapError _).zoom (fun _ => rfl) (fun _ _ => rfl) fun _ _ _ => rfl

/-- A batch that is sent is counted in the state alone, which has no frame of its own. -/
theorem confined_flush (kind : WriteKind) :
    Confined (flush kind : Attempt Error (BatchWrite LocalConnection) Unit) := by
  refine Attempt.confined_get_bind (fun _ _ => rfl) fun b => ?_
  refine Confined.bind (confined_call (LocalConnection.confined_runBatch b.statement)) fun _ => ?_
  exact Attempt.confined_modify fun _ _ => rfl

/-- To put a triple by and to send the batch when it is full are confined, since the size of the
batch is the same in every frame. -/
theorem confined_put (kind : WriteKind) (graph : String) (t : Triple) :
    Confined (put kind graph t : Attempt Error (BatchWrite LocalConnection) Unit) := by
  refine Confined.bind (Attempt.confined_modify fun _ _ => rfl) fun _ => ?_
  split
  · -- It cannot be coded: the write ends here.
    exact Attempt.confined_throw _
  · -- It is bound and put by, and counted.
    refine Attempt.confined_get_bind (fun _ _ => rfl) fun b => ?_
    refine Confined.bind (confined_call (LocalConnection.confined_bindFrom 1 _ _)) fun st => ?_
    refine Confined.bind (confined_call (Attempt.confined_pure st.putBy)) fun st => ?_
    refine Confined.bind (Attempt.confined_modify fun _ _ => rfl) fun _ => ?_
    refine Attempt.confined_get_bind (fun _ _ => rfl) fun b => ?_
    -- The batch may be full with it.
    split
    · exact confined_flush kind
    · exact Attempt.confined_pure _

/-- The whole pass over the triples, with what is left at its end. -/
theorem confined_putAll (kind : WriteKind) (graph : String) (ts : List Triple) :
    Confined (putAll kind graph ts : Attempt Error (BatchWrite LocalConnection) Nat) := by
  refine Confined.bind (Confined.forM (confined_put kind graph) ts) fun _ => ?_
  refine Attempt.confined_get_bind (fun _ _ => rfl) fun b => ?_
  have hsent : Confined
      (do return (← get).sent : Attempt Error (BatchWrite LocalConnection) Nat) :=
    Attempt.confined_get_bind (fun _ _ => rfl) fun _ => Attempt.confined_pure _
  -- No empty batch is sent.
  split
  · exact Confined.bind (confined_flush kind) fun _ => hsent
  · exact hsent

end BatchWrite

namespace Handle

/-- Everything a batched write sends is confined. -/
theorem sendAll_inFrame (kind : WriteKind) (ts : List Triple) {F : Frame}
    {h : Handle LocalConnection} (hF : (frame h).Like F) :
    sendAll kind ts (inFrame F h) = ((sendAll kind ts h).1, inFrame F (sendAll kind ts h).2) := by
  have hsame : (inFrame F h).connection.isClosed = h.connection.isClosed := hF.isClosed
  -- Whether the handle or its connection is closed does not depend on the frame.
  rcases h.open_or_refuses with ⟨hopen, hconnection⟩ | hr
  · have hfresh : (inFrame F h).freshWrite kind = inFrame F (h.freshWrite kind) := rfl
    have hput := BatchWrite.confined_putAll kind h.graphName ts F (h.freshWrite kind) hF
    have hopen' : (inFrame F h).isClosed = false := hopen
    rw [sendAll_of_open hopen hconnection, sendAll_of_open hopen' (hsame.trans hconnection), hfresh]
    dsimp only
    rw [show (inFrame F h).graphName = h.graphName from rfl, hput]
    rfl
  · have hr' : (inFrame F h).Refuses := hr.imp id fun hc => hsame.trans hc
    rw [sendAll_of_refuses hr, sendAll_of_refuses hr']
    rfl

/-- A batched write begins and ends its transaction elsewhere: sending leaves the frame alone. -/
theorem frame_sendAll (kind : WriteKind) (ts : List Triple) (h : Handle LocalConnection) :
    frame (sendAll kind ts h).2 = frame h :=
  frame_snd_of_inFrame (sendAll_inFrame kind ts (.refl (frame h)))

end Handle

end QuadClient
