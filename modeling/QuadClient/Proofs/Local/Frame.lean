import QuadClient.Proofs.Local.Calls
import QuadClient.Proofs.Outcome

/-!
# What a statement leaves alone

A statement works on the triples that the connection sees. It never looks at the published
triples under an open working copy or at how the transactions stand; it looks at the faults and
at whether the connection is open, and changes neither. All this is the frame of a connection.
What only runs statements keeps the frame, and it does the same in any two frames with the same
faults, as long as both are open or both closed.
-/

namespace QuadClient

/-- What a statement leaves alone. -/
structure Frame where
  /-- the published triples under the working copy, if there is one -/
  under : Option QuadStore
  /-- every write is published at once -/
  autoCommit : Bool
  /-- how far transactions are kept apart -/
  isolation : Isolation
  /-- transactions are offered -/
  supportsTransactions : Bool
  /-- the connection was released -/
  isClosed : Bool
  /-- the calls that are to fail -/
  faults : Faults
  /-- the commits so far -/
  commits : Nat
  /-- the rollbacks so far -/
  rollbacks : Nat

/-- A statement meets the same in both frames. -/
structure Frame.Like (F G : Frame) : Prop where
  isClosed : G.isClosed = F.isClosed
  faults : G.faults = F.faults

theorem Frame.Like.refl (F : Frame) : F.Like F := ⟨rfl, rfl⟩

/-- A state that has a frame and can be put into another one. -/
class Framed (σ : Type) where
  /-- the frame -/
  frame : σ → Frame
  /-- the state in another frame, with the same triples to be seen -/
  inFrame : Frame → σ → σ
  frame_inFrame (F : Frame) (s : σ) : frame (inFrame F s) = F
  inFrame_frame (s : σ) : inFrame (frame s) s = s
  inFrame_inFrame (F G : Frame) (s : σ) : inFrame G (inFrame F s) = inFrame G s

open Framed (frame inFrame)

attribute [simp] Framed.frame_inFrame Framed.inFrame_frame Framed.inFrame_inFrame

/-- What does the same in the frame it finds leaves that frame as it is. -/
theorem frame_snd_of_inFrame {σ α : Type} [Framed σ] {f : σ → α × σ} {s : σ}
    (h : f (inFrame (frame s) s) = ((f s).1, inFrame (frame s) (f s).2)) :
    frame (f s).2 = frame s := by
  rw [Framed.inFrame_frame] at h
  rw [congrArg Prod.snd h, Framed.frame_inFrame]

/-! ### Confined attempts -/

/-- The attempt does the same in every frame that looks the same to a statement, and leaves the
frame as it is. -/
def Attempt.Confined {ε σ α : Type} [Framed σ] (a : Attempt ε σ α) : Prop :=
  ∀ F s, (frame s).Like F → a.on (inFrame F s) = ((a.on s).1, inFrame F (a.on s).2)

namespace Attempt

variable {ε ε' σ τ α β : Type} [Framed σ] [Framed τ]

/-- A confined attempt keeps the frame: it does in it what it does in it. -/
theorem Confined.frame_on {a : Attempt ε σ α} (ha : a.Confined) (s : σ) :
    frame (a.on s).2 = frame s :=
  frame_snd_of_inFrame (ha (frame s) s (.refl _))

/-- Behind a confined attempt a statement still meets the same. -/
theorem Confined.like_on {a : Attempt ε σ α} (ha : a.Confined) {F : Frame} {s : σ}
    (hF : (frame s).Like F) : (frame (a.on s).2).Like F := by
  rw [ha.frame_on]
  exact hF

theorem confined_of {f : σ → Except ε α × σ}
    (hf : ∀ F s, (frame s).Like F → f (inFrame F s) = ((f s).1, inFrame F (f s).2)) :
    (of f).Confined :=
  hf

theorem confined_pure (x : α) : (pure x : Attempt ε σ α).Confined := fun _ _ _ => rfl

theorem confined_throw (e : ε) : (throw e : Attempt ε σ α).Confined := fun _ _ _ => rfl

/-- A change of the state is confined if it does the same in every frame. -/
theorem confined_modify {f : σ → σ} (hf : ∀ F s, f (inFrame F s) = inFrame F (f s)) :
    (modify f : Attempt ε σ Unit).Confined := by
  intro F s _
  exact congrArg (Prod.mk _) (hf F s)

/-- What is looked up in the state must be the same in every frame. -/
theorem confined_get_bind {f : σ → Attempt ε σ β} (hf : ∀ F s, f (inFrame F s) = f s)
    (ha : ∀ s, (f s).Confined) : (get >>= f).Confined := by
  intro F s hF
  rw [on_bind, on_bind, on_get, on_get]
  show (f (inFrame F s)).on (inFrame F s) = _
  rw [hf]
  exact ha s F s hF

namespace Confined

/-- Two confined attempts in a row are confined. -/
theorem bind {a : Attempt ε σ α} {f : α → Attempt ε σ β} (ha : a.Confined)
    (hf : ∀ x, (f x).Confined) : (a >>= f).Confined := by
  intro F s hF
  -- The first part keeps its frame, so the second still meets the same in `F`.
  have hlike := ha.like_on hF
  rw [on_bind, on_bind, ha F s hF]
  rcases hon : a.on s with ⟨e | x, t⟩
  · rfl
  · rw [hon] at hlike
    exact hf x F t hlike

theorem mapError {a : Attempt ε σ α} (ha : a.Confined) (f : ε → ε') : (a.mapError f).Confined := by
  intro F s hF
  rw [on_mapError, ha F s hF]
  rfl

/-- An attempt on a part, if the frame of the whole is that of the part. -/
theorem zoom {part : σ → τ} {put : τ → σ → σ} {a : Attempt ε τ α} (ha : a.Confined)
    (hframe : ∀ s, frame (part s) = frame s)
    (hpart : ∀ F s, part (inFrame F s) = inFrame F (part s))
    (hput : ∀ F s t, put (inFrame F t) (inFrame F s) = inFrame F (put t s)) :
    (a.zoom part put).Confined := by
  intro F s hF
  have hlike : (frame (part s)).Like F := by rwa [hframe]
  rw [on_zoom, hpart, ha F (part s) hlike, hput]
  rfl

/-- Confined attempts for the elements of a list are confined together. -/
theorem forM {f : β → Attempt ε σ PUnit} (hf : ∀ b, (f b).Confined) (l : List β) :
    (l.forM f).Confined := by
  induction l with
  | nil => exact confined_pure _
  | cons b l ih => exact bind (hf b) fun _ => ih

end Confined

end Attempt

/-! ### Connections -/

open Attempt (Confined confined_of)

instance : Framed LocalConnection where
  frame c :=
    { under := c.working.map fun _ => c.committed
      autoCommit := c.autoCommit
      isolation := c.isolation
      supportsTransactions := c.supportsTransactions
      isClosed := c.isClosed
      faults := c.faults
      commits := c.commits
      rollbacks := c.rollbacks }
  inFrame F c :=
    { c with
      committed := F.under.getD c.visible
      working := F.under.map fun _ => c.visible
      autoCommit := F.autoCommit
      isolation := F.isolation
      supportsTransactions := F.supportsTransactions
      isClosed := F.isClosed
      faults := F.faults
      commits := F.commits
      rollbacks := F.rollbacks }
  frame_inFrame F c := by
    obtain ⟨under⟩ := F
    cases under with
    | none => rfl
    | some s => rfl
  inFrame_frame c := by
    obtain ⟨committed, working⟩ := c
    cases working with
    | none => rfl
    | some s => rfl
  inFrame_inFrame F G c := by
    obtain ⟨under⟩ := F
    cases under with
    | none => rfl
    | some s => rfl

namespace LocalConnection

variable {F : Frame} {c : LocalConnection}

@[simp] theorem visible_inFrame (F : Frame) (c : LocalConnection) :
    (inFrame F c).visible = c.visible := by
  obtain ⟨under⟩ := F
  cases under with
  | none => rfl
  | some s => rfl

/-- In one frame a working copy stands before the same published triples, or there is none. -/
theorem working_of_frame {c c' : LocalConnection} (h : frame c' = frame c) :
    (c.working = none ∧ c'.working = none) ∨
      ∃ w w', c.working = some w ∧ c'.working = some w' ∧ c'.committed = c.committed := by
  have hunder : c'.working.map (fun _ => c'.committed) = c.working.map fun _ => c.committed :=
    congrArg Frame.under h
  cases hw : c.working with
  | none =>
    rw [hw, Option.map_none, Option.map_eq_none_iff] at hunder
    exact Or.inl ⟨rfl, hunder⟩
  -- A working copy is part of the frame, and with it the published triples under it.
  | some w =>
    rw [hw] at hunder
    obtain ⟨w', hw', heq⟩ := Option.map_eq_some_iff.1 hunder
    exact Or.inr ⟨w, w', rfl, hw', heq⟩

/-- New triples to be seen go into the working copy or are published, as the frame has it. -/
theorem setVisible_inFrame (s : QuadStore) (F : Frame) (c : LocalConnection) :
    (inFrame F c).setVisible s = inFrame F (c.setVisible s) := by
  obtain ⟨under⟩ := F
  obtain ⟨committed, working⟩ := c
  cases under with
  | none =>
    cases working with
    | none => rfl
    | some w => rfl
  | some u =>
    cases working with
    | none => rfl
    | some w => rfl

/-- Everything but the triples is kept beside the frame or in it. -/
theorem record_inFrame (entry : LogEntry) (F : Frame) (c : LocalConnection) :
    (inFrame F c).record entry = inFrame F (c.record entry) := rfl

/-- A call may look at whether the connection is open, since that is told by the frame. -/
theorem confined_whenOpen {α : Type} {call : Call α} (h : Confined (.of call)) :
    Confined (.of (whenOpen call)) := by
  refine confined_of fun F c hF => ?_
  have hclosed : (inFrame F c).isClosed = c.isClosed := hF.isClosed
  unfold whenOpen
  rw [hclosed]
  split
  · rfl
  · exact h F c hF

/-- The change that a statement asks for is made to what the connection sees. -/
theorem confined_runUpdate (text : String) (params : List Param) :
    Confined (.of (runUpdate text params)) := by
  refine confined_of fun F c _ => ?_
  unfold runUpdate
  split
  · rw [visible_inFrame, setVisible_inFrame]
  · rfl

/-- A statement may be refused for a fault, and the faults are told by the frame. -/
theorem confined_execute (text : String) (options : SendOptions) (params : List Param) :
    Confined (.of (execute text options params)) := by
  refine confined_whenOpen (confined_of fun F c hF => ?_)
  have hfaults : (inFrame F c).faults = c.faults := hF.faults
  rw [hfaults]
  split
  · rfl
  · exact confined_runUpdate text params F (c.record _) hF

theorem confined_prepare (text : String) (options : SendOptions) :
    Confined (.of (prepare text options)) :=
  confined_whenOpen (confined_of fun _ _ _ => rfl)

theorem confined_bind (statement : Prepared) (index : Nat) (value : Param) :
    Confined (.of (bind statement index value)) := by
  refine confined_of fun F c _ => ?_
  cases index with
  | zero => rfl
  | succ i => rfl

/-- A batch looks at the faults, and at how many batches were asked for so far, which is beside the
frame. -/
theorem confined_runBatch (statement : Prepared) : Confined (.of (runBatch statement)) := by
  refine confined_of fun F c hF => ?_
  have hclosed : (inFrame F c).isClosed = c.isClosed := hF.isClosed
  have hfaults : (inFrame F c).faults = c.faults := hF.faults
  have hasked : (inFrame F c).asked = inFrame F c.asked := rfl
  have hnumber : (inFrame F c).batchesAsked = c.batchesAsked := rfl
  cases hopen : c.isClosed with
  | true => rw [runBatch, whenOpen_of_closed hopen, whenOpen_of_closed (hclosed.trans hopen)]
  | false =>
    -- In either frame the batch comes to the same change, so what is seen behind it is the same.
    rw [runBatch_of_open _ hopen, runBatch_of_open _ (hclosed.trans hopen), visible_inFrame,
      hfaults, hasked, hnumber]
    dsimp only
    rw [setVisible_inFrame]
    split
    · rfl
    · split
      · rfl
      · rfl

/-- A query looks at the faults, at what is seen, and at the scripted answers. -/
theorem confined_runQuery (text : String) (params : List Param) :
    Confined (.of (runQuery text params)) := by
  refine confined_of fun F c hF => ?_
  have hfaults : (inFrame F c).faults = c.faults := hF.faults
  have hscripted : (inFrame F c).scripted = c.scripted := rfl
  unfold runQuery
  rw [hfaults, visible_inFrame]
  split
  · rfl
  · split
    · rfl
    · split
      · rfl
      · -- An answer from the store makes the change of its text, a scripted one none.
        split
        · rw [setVisible_inFrame]
        · rw [hscripted]
          split
          · rfl
          · rw [← hfaults]
            rfl

theorem confined_query (text : String) (options : SendOptions) (params : List Param) :
    Confined (.of (query text options params)) := by
  refine confined_whenOpen (confined_of fun F c hF => ?_)
  have hrun := confined_runQuery text params F (c.record ⟨text, options, params⟩) hF
  rw [Attempt.on_of, Attempt.on_of] at hrun
  rw [record_inFrame, hrun]
  rcases runQuery text params (c.record ⟨text, options, params⟩) with ⟨e | r, c'⟩
  · rfl
  · rfl

/-- Parameters are bound without the connection. -/
theorem confined_bindFrom (number : Nat) (statement : Prepared) (params : List Param) :
    Confined (Handle.bindFrom number statement params :
      Attempt CallError LocalConnection Prepared) := by
  induction params generalizing number statement with
  | nil => exact Attempt.confined_pure _
  | cons p ps ih => exact Confined.bind (confined_bind statement number p) fun _ => ih _ _

end LocalConnection

/-! ### Answers -/

instance : Framed (LiveRows LocalConnection) where
  frame live := frame live.connection
  inFrame F live := { live with connection := inFrame F live.connection }
  frame_inFrame F live := Framed.frame_inFrame F live.connection
  inFrame_frame live := by rw [Framed.inFrame_frame]
  inFrame_inFrame F G live := by rw [Framed.inFrame_inFrame]

namespace LocalConnection

/-- A row is read off the answer itself. -/
theorem confined_fetchRow : Confined (.of fetchRow) := by
  refine confined_of fun F live _ => ?_
  obtain ⟨c, columns, rows, isOpen⟩ := live
  cases isOpen with
  | false => rfl
  | true =>
    cases rows with
    | nil => rfl
    | cons row rest => rfl

/-- A release is told to fail by the faults, and counts down beside the frame. -/
theorem confined_closeRows : Confined (.of closeRows) := by
  refine confined_of fun F live hF => ?_
  obtain ⟨c, columns, rows, isOpen⟩ := live
  have hfaults : (inFrame F c).faults = c.faults := hF.faults
  cases isOpen with
  | false =>
    show ((if (inFrame F c).faults.closeRows then _ else _), _) = _
    rw [hfaults]
    rfl
  | true =>
    show ((if (inFrame F c).faults.closeRows then _ else _), _) = _
    rw [hfaults]
    rfl

end LocalConnection

end QuadClient
