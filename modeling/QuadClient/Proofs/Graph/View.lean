import QuadClient.Proofs.Cursor.Delivery
import QuadClient.Proofs.Cursor.View

/-!
# Reads seen through a view

A read of a graph only queries its connection, takes rows of the answer and releases it. Where two
connections do the same for that, seen through a view, every read has the same outcome on both;
what comes of a release is not told to anyone.
-/

namespace QuadClient

variable {σ τ κ κ' α : Type}

/-! ### Triples that match -/

namespace Matches

/-- The same reader of triples over the stream that is seen. -/
def through (view : σ → τ) (m : Matches σ) : Matches τ :=
  ⟨m.cursor.through view, m.pattern⟩

variable [RowSource σ] [RowSource τ] {view : σ → τ}

/-- The next triple is the same, since the same solutions are passed over. -/
theorem next_through (hv : RowSource.SeenThrough view) (m : Matches σ) :
    (m.through view).next = (m.next.1, m.next.2.through view) := by
  have hnext := Cursor.next_through hv m.cursor
  fun_induction next m with
  | case1 m e c hc =>
    rw [hc] at hnext
    exact next_of_error hnext
  | case2 m c hc =>
    rw [hc] at hnext
    exact next_of_end hnext
  | case3 m s c hc t ht =>
    rw [hc] at hnext
    exact next_of_triple hnext ht
  | case4 m s c hc ht ih =>
    rw [hc] at hnext
    -- The search goes on from a cursor that looks the same again.
    exact (next_of_none hnext ht).trans (ih (Cursor.next_through hv c))

end Matches

/-! ### Connections -/

/-- The same answer on the connection that is seen. -/
def LiveRows.through (view : κ → κ') (live : LiveRows κ) : LiveRows κ' :=
  ⟨view live.connection, live.rows⟩

/-- The same handle on the connection that is seen. -/
def Handle.seen (view : κ → κ') (h : Handle κ) : Handle κ' :=
  ⟨view h.connection, h.graphName, h.isClosed, h.options, h.resources, h.listeners⟩

variable {view : κ → κ'}

namespace Handle

open Attempt (LooksLike)

/-- A handle passes on what looks the same on its connection: it is open under the view if it is
open. -/
theorem looksLike_onConnection {a : Attempt Error κ α} {b : Attempt Error κ' α}
    (hab : a.LooksLike view b) :
    (onConnection a).LooksLike (Handle.seen view) (onConnection b) := by
  rintro ⟨connection, graphName, isClosed, options, resources, listeners⟩
  have hsame := hab connection
  cases isClosed with
  | true => rfl
  | false =>
    -- Both sides are written out as far as the outcome on the connection.
    show ((b.on (view connection)).1, (⟨(b.on (view connection)).2, graphName, false, options,
      resources, listeners⟩ : Handle κ')) = _
    rw [hsame]
    rfl

/-- A read looks the same when its answer is opened alike and used alike. -/
theorem looksLike_withRows {opening : Attempt CallError κ Rows}
    {opening' : Attempt CallError κ' Rows} (hopening : opening.LooksLike view opening')
    {use : LiveRows κ → Except Error α × LiveRows κ}
    {use' : LiveRows κ' → Except Error α × LiveRows κ'}
    (huse : ∀ live, use' (live.through view) = ((use live).1, (use live).2.through view)) :
    (withRows opening use).LooksLike (Handle.seen view) (withRows opening' use') := by
  refine looksLike_onConnection fun c => ?_
  have hrows := hopening c
  rw [Attempt.on_of, Attempt.on_of, hrows]
  rcases opening.on c with ⟨e | rows, d⟩
  · rfl
  · -- The answer is on the connection that the opening left, which the view shows.
    have hused := huse ⟨d, rows⟩
    show ((use' (LiveRows.through view ⟨d, rows⟩)).1,
      (use' (LiveRows.through view ⟨d, rows⟩)).2.connection) = _
    rw [hused]
    rfl

end Handle

variable [Connection κ] [Connection κ']

/-- Seen through the view, whatever a read asks of a connection is answered as by the other one. -/
structure Connection.SeenThrough (view : κ → κ') : Prop where
  query (text : String) (options : SendOptions) :
    (Connection.query text options).LooksLike view (Connection.query text options)
  prepare (text : String) (options : SendOptions) :
    (Connection.prepare text options).LooksLike view (Connection.prepare text options)
  bind (st : Prepared) (number : Nat) (value : Param) :
    (Connection.bind st number value).LooksLike view (Connection.bind st number value)
  queryPrepared (st : Prepared) :
    (Connection.queryPrepared st).LooksLike view (Connection.queryPrepared st)
  rows : RowSource.SeenThrough (LiveRows.through view)

namespace Handle

open Attempt (LooksLike)

variable (hv : Connection.SeenThrough view)

include hv

/-- Parameters are bound one by one, and each binding looks the same. -/
theorem looksLike_bindFrom (number : Nat) (st : Prepared) (ps : List Param) :
    (bindFrom number st ps).LooksLike view (bindFrom number st ps) := by
  induction ps generalizing number st with
  | nil => exact Attempt.looksLike_pure st
  | cons p ps ih => exact (hv.bind st number p).bind fun st => ih (number + 1) st

/-- The first row is the same, and the answer is given back behind it. -/
theorem firstRow_through (live : LiveRows κ) :
    firstRow (live.through view) = ((firstRow live).1, (firstRow live).2.through view) := by
  have hrow := hv.rows.fetchRow live
  -- What comes of the release may differ, the stream that it leaves does not.
  have hclose := hv.rows.close (RowSource.fetchRow.on live).2
  show ((RowSource.fetchRow.on (live.through view)).1.mapError Error.ofQuery,
    (RowSource.close.on (RowSource.fetchRow.on (live.through view)).2).2) = _
  rw [hrow, hclose]
  rfl

theorem allRows_through (live : LiveRows κ) :
    allRows (live.through view) = ((allRows live).1, (allRows live).2.through view) := by
  have hdrain := RowSource.drain_through hv.rows live
  have hclose := hv.rows.close (RowSource.drain live).2
  show ((RowSource.drain (live.through view)).1.mapError Error.ofQuery,
    (RowSource.close.on (RowSource.drain (live.through view)).2).2) = _
  rw [hdrain, hclose]
  rfl

theorem looksLike_contains (p : Pattern) :
    (contains p : GraphAction κ Bool).LooksLike (Handle.seen view) (contains p) := by
  refine Attempt.looksLike_get_bind fun h => ?_
  exact (looksLike_withRows (hv.query _ _) (firstRow_through hv)).bind fun _ =>
    Attempt.looksLike_pure _

/-- A count looks the same: its statement is prepared, bound and sent. -/
theorem looksLike_size :
    (size : GraphAction κ Nat).LooksLike (Handle.seen view) size := by
  refine Attempt.looksLike_get_bind fun h => ?_
  have hopening : (do
      let statement ← Connection.prepare (h.scope.count .any).text h.sendOptions
      let statement ← bindFrom 1 statement (h.scope.count .any).params
      Connection.queryPrepared statement : Attempt CallError κ Rows).LooksLike view (do
      let statement ← Connection.prepare (h.scope.count .any).text h.sendOptions
      let statement ← bindFrom 1 statement (h.scope.count .any).params
      Connection.queryPrepared statement) :=
    (hv.prepare _ _).bind fun st => (looksLike_bindFrom hv 1 st _).bind hv.queryPrepared
  refine (looksLike_withRows hopening (firstRow_through hv)).bind fun row => ?_
  split
  · exact Attempt.looksLike_pure _
  · exact Attempt.looksLike_throw _

theorem looksLike_queryRows (query : String) (lookup : String → Option Term) :
    (queryRows query lookup : GraphAction κ (List (List Cell))).LooksLike (Handle.seen view)
      (queryRows query lookup) :=
  Attempt.looksLike_get_bind fun _ => looksLike_withRows (hv.query _ _) (allRows_through hv)

theorem looksLike_ask (query : String) (lookup : String → Option Term) :
    (ask query lookup : GraphAction κ Bool).LooksLike (Handle.seen view) (ask query lookup) :=
  (looksLike_queryRows hv query lookup).bind fun _ => Attempt.looksLike_pure _

theorem looksLike_construct (query : String) (lookup : String → Option Term) :
    (construct query lookup : GraphAction κ (List Triple)).LooksLike (Handle.seen view)
      (construct query lookup) :=
  (looksLike_queryRows hv query lookup).bind fun _ => Attempt.looksLike_pure _

section Cursors

/-- Whatever is done with a cursor that looks the same is the same, the drop at its end
included. -/
theorem looksLike_withCursor (text : String)
    {use : Cursor (LiveRows κ) → Except Error α × Cursor (LiveRows κ)}
    {use' : Cursor (LiveRows κ') → Except Error α × Cursor (LiveRows κ')}
    (huse : ∀ c, use' (c.through (LiveRows.through view)) =
      ((use c).1, (use c).2.through (LiveRows.through view))) :
    (withCursor text use).LooksLike (Handle.seen view) (withCursor text use') := by
  refine Attempt.looksLike_get_bind fun h => looksLike_withRows (hv.query _ _) fun live => ?_
  -- The graph that a cursor binds is that of the handle, which no view changes.
  have hgraph : (h.seen view).graphName = h.graphName := rfl
  rw [hgraph, Cursor.ofStream_through hv.rows, huse]
  exact congrArg (Prod.mk _) (Cursor.drop_through hv.rows _)

theorem looksLike_selectWith (query : String) (lookup : String → Option Term)
    {use : Cursor (LiveRows κ) → Except Error α × Cursor (LiveRows κ)}
    {use' : Cursor (LiveRows κ') → Except Error α × Cursor (LiveRows κ')}
    (huse : ∀ c, use' (c.through (LiveRows.through view)) =
      ((use c).1, (use c).2.through (LiveRows.through view))) :
    (selectWith query lookup use).LooksLike (Handle.seen view)
      (selectWith query lookup use') :=
  Attempt.looksLike_get_bind fun _ => looksLike_withCursor hv _ huse

/-- A search for triples looks the same for every use of the triples that does. -/
theorem looksLike_findWith (p : Pattern)
    {use : Matches (LiveRows κ) → Except Error α × Matches (LiveRows κ)}
    {use' : Matches (LiveRows κ') → Except Error α × Matches (LiveRows κ')}
    (huse : ∀ m, use' (m.through (LiveRows.through view)) =
      ((use m).1, (use m).2.through (LiveRows.through view))) :
    (findWith p use).LooksLike (Handle.seen view) (findWith p use') := by
  refine Attempt.looksLike_get_bind fun h => looksLike_withCursor hv _ fun c => ?_
  have hused := huse ⟨c, p⟩
  show ((use' (Matches.through (LiveRows.through view) ⟨c, p⟩)).1,
    (use' (Matches.through (LiveRows.through view) ⟨c, p⟩)).2.cursor) = _
  rw [hused]
  rfl

end Cursors

end Handle

end QuadClient
