import QuadClient.Proofs.Cursor.Delivery
import QuadClient.Proofs.Cursor.View
import QuadClient.Proofs.Local.Frame

/-!
# Reading rows in a frame

A cursor touches nothing of its stream but what fetching a row and releasing the stream touch.
If both are confined, so is every read of a cursor, however many rows it takes.
-/

namespace QuadClient

open Framed (frame inFrame)
open Attempt (Confined confined_of)

variable {σ : Type} [Framed σ]

instance : Framed (Cursor σ) where
  frame c := frame c.source
  inFrame F c := { c with source := inFrame F c.source }
  frame_inFrame F c := Framed.frame_inFrame F c.source
  inFrame_frame c := by rw [Framed.inFrame_frame]
  inFrame_inFrame F G c := by rw [Framed.inFrame_inFrame]

instance : Framed (Matches σ) where
  frame m := frame m.cursor
  inFrame F m := { m with cursor := inFrame F m.cursor }
  frame_inFrame F m := Framed.frame_inFrame F m.cursor
  inFrame_frame m := by rw [Framed.inFrame_frame]
  inFrame_inFrame F G m := by rw [Framed.inFrame_inFrame]

variable [RowSource σ]

/-- To release a cursor in another frame is to release it and change the frame then. -/
theorem Cursor.release_inFrame (hclose : (RowSource.close (σ := σ)).Confined) {F : Frame}
    {c : Cursor σ} (hF : (frame c).Like F) : (inFrame F c).release = inFrame F c.release := by
  have hsource := hclose F c.source hF
  have hheld : (inFrame F c).held = c.held := rfl
  unfold release
  rw [hheld]
  split
  · show ({ inFrame F c with
      source := (RowSource.close.on (inFrame F c.source)).2, held := false } : Cursor σ) = _
    rw [hsource]
    rfl
  · rfl

/-- Reading rows to the end is confined, as every single row is. -/
theorem RowSource.confined_drain (hfetch : (RowSource.fetchRow (σ := σ)).Confined) :
    Confined (.of (RowSource.drain (σ := σ))) := by
  refine confined_of fun F s hF => ?_
  have hrow := hfetch F s hF
  have hlike := hfetch.like_on hF
  fun_induction drain s with
  | case1 s e t ht =>
    rw [ht] at hrow
    exact drain_of_error hrow
  | case2 s t ht =>
    rw [ht] at hrow
    exact drain_of_end hrow
  | case3 s row t ht r u hr ih =>
    rw [ht] at hrow hlike
    -- The rows behind the first are read from a stream that is in the same frame as before.
    rw [drain_of_row hrow, ih hlike (hfetch F t hlike) (hfetch.like_on hlike), hr]

variable (hfetch : (RowSource.fetchRow (σ := σ)).Confined)
  (hclose : (RowSource.close (σ := σ)).Confined)

include hfetch hclose

/-- A look ahead asks for a row and may release the stream, and both are confined. -/
theorem Cursor.confined_hasMore : Confined (.of (Cursor.hasMore (σ := σ))) := by
  refine confined_of fun F c hF => ?_
  have hrow := hfetch F c.source hF
  have hsource : (inFrame F c).source = inFrame F c.source := rfl
  have hlookahead : (inFrame F c).lookahead = c.lookahead := rfl
  have hheld : (inFrame F c).held = c.held := rfl
  -- At the end and after a failure the stream that the row was asked of is let go.
  have hrelease := release_inFrame hclose
    (c := { c with source := (RowSource.fetchRow.on c.source).2 }) (hfetch.like_on hF)
  unfold hasMore
  rw [hsource, hrow, hlookahead, hheld]
  split
  · -- A solution waits already.
    rfl
  · split
    · rcases hon : RowSource.fetchRow.on c.source with ⟨e | _ | row, s⟩
      · -- Both ways the stream is released.
        rw [hon] at hrelease
        exact congrArg (Prod.mk _) hrelease
      · rw [hon] at hrelease
        exact congrArg (Prod.mk _) hrelease
      · rfl
    · rfl

/-- To take a solution is to look ahead, and what waits then is the same in every frame. -/
theorem Cursor.confined_next : Confined (.of (Cursor.next (σ := σ))) := by
  refine confined_of fun F c hF => ?_
  have hmore := Cursor.confined_hasMore hfetch hclose F c hF
  rw [Attempt.on_of, Attempt.on_of] at hmore
  unfold next
  rw [hmore]
  rcases c.hasMore with ⟨e | b, d⟩
  · rfl
  · -- A solution waits now, or none is left.
    obtain ⟨source, held, columns, graph, lookahead, delivered⟩ := d
    cases lookahead with
    | none => rfl
    | some s => rfl

/-- A search for the next triple passes over solutions in every frame alike. -/
theorem Matches.confined_next : Confined (.of (Matches.next (σ := σ))) := by
  refine confined_of fun F m hF => ?_
  have hnext := Cursor.confined_next hfetch hclose F m.cursor hF
  rw [Attempt.on_of, Attempt.on_of] at hnext
  fun_induction next m with
  | case1 m e c hc =>
    rw [hc] at hnext
    exact next_of_error hnext
  | case2 m c hc =>
    rw [hc] at hnext
    exact next_of_end hnext
  | case3 m s c hc t ht =>
    rw [hc] at hnext
    exact next_of_triple hnext ht
  | case4 m s c hc ht ih =>
    -- The solution is passed over; its cursor is in the frame in which the search began.
    have hlike : (frame c).Like F := by
      have h := (Cursor.confined_next hfetch hclose).like_on (s := m.cursor) hF
      rwa [Attempt.on_of, hc] at h
    rw [hc] at hnext
    have hrest := ih hlike (Cursor.confined_next hfetch hclose F c hlike)
    exact (next_of_none hnext ht).trans hrest

/-- Reading triples to the end is confined. -/
theorem Matches.confined_drain : Confined (.of (Matches.drain (σ := σ))) := by
  refine confined_of fun F m hF => ?_
  have hnext := Matches.confined_next hfetch hclose F m hF
  rw [Attempt.on_of, Attempt.on_of] at hnext
  fun_induction drain m with
  | case1 m e n hn =>
    rw [hn] at hnext
    exact drain_of_error hnext
  | case2 m n hn =>
    rw [hn] at hnext
    exact drain_of_end hnext
  | case3 m t n hn r u hr ih =>
    have hlike : (frame n).Like F := by
      have h := (Matches.confined_next hfetch hclose).like_on (s := m) hF
      rwa [Attempt.on_of, hn] at h
    rw [hn] at hnext
    have hrest := ih hlike (Matches.confined_next hfetch hclose F n hlike)
    rw [hr] at hrest
    exact (drain_of_triple hnext).trans (by rw [hrest])

end QuadClient
