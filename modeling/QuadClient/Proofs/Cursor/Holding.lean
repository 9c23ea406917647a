import QuadClient.Proofs.Cursor.Account
import QuadClient.Proofs.Graph.View

/-!
# How long a cursor holds its stream

A cursor holds its stream from the start until a reply ends the reading, whatever the calls are.
So whoever counts the streams that are held can be checked against the replies alone.
-/

namespace QuadClient

/-! ### Replies and counts -/

/-- Makes one call after the other, and takes a count after each. -/
def observe {γ ρ S : Type} (reply : γ → S → ρ × S) (count : S → Nat) :
    List γ → S → List (ρ × Nat) × S
  | [], s => ([], s)
  | call :: calls, s =>
    let (r, s) := reply call s
    let (seen, t) := observe reply count calls s
    ((r, count s) :: seen, t)

/-- Beside this number the count has one more for a reader who holds its stream, which it does
until a reply ends the reading. -/
def Tallied {ρ : Type} (ends : ρ → Bool) (n : Nat) : Bool → List (ρ × Nat) → Prop
  | _, [] => True
  | held, (r, k) :: seen =>
    k = n + (held && !ends r).toNat ∧ Tallied ends n (held && !ends r) seen

section Observe

variable {γ ρ S T : Type} {reply : γ → S → ρ × S} {count : S → Nat}

/-- What every call keeps and has to show, a whole sequence of calls keeps and shows. -/
theorem observe_keeps {I : S → Prop} {Q : ρ × Nat → Prop}
    (hstep : ∀ call s, I s → I (reply call s).2 ∧ Q ((reply call s).1, count (reply call s).2))
    (calls : List γ) {s : S} (hs : I s) :
    I (observe reply count calls s).2 ∧ ∀ seen ∈ (observe reply count calls s).1, Q seen := by
  induction calls generalizing s with
  | nil => exact ⟨hs, List.forall_mem_nil _⟩
  | cons call calls ih =>
    -- The first call shows what it has to, and keeps what the calls behind it need.
    obtain ⟨hI, hQ⟩ := hstep call s hs
    obtain ⟨hend, hseen⟩ := ih hI
    exact ⟨hend, List.forall_mem_cons.2 ⟨hQ, hseen⟩⟩

/-- If a reader holds its stream until a reply ends the reading, and is counted while it does,
then the counts follow from the replies. -/
theorem tallied_observe {I : S → Prop} {held : S → Bool} {ends : ρ → Bool} {n : Nat}
    (hstep : ∀ call s, I s → I (reply call s).2)
    (hheld : ∀ call s, held (reply call s).2 = (held s && !ends (reply call s).1))
    (hcount : ∀ s, I s → count s = n + (held s).toNat) (calls : List γ) {s : S} (hs : I s) :
    I (observe reply count calls s).2 ∧
      Tallied ends n (held s) (observe reply count calls s).1 := by
  induction calls generalizing s with
  | nil => exact ⟨hs, trivial⟩
  | cons call calls ih =>
    -- `hheld` turns the reply into what is held behind it, which the count then follows.
    have hI := hstep call s hs
    obtain ⟨hend, htallied⟩ := ih hI
    refine ⟨hend, ?_, ?_⟩
    · rw [← hheld]
      exact hcount _ hI
    · rw [← hheld]
      exact htallied

/-- Seen through a view that keeps replies and counts, a sequence of calls is the same. -/
theorem observe_through {view : S → T} {reply' : γ → T → ρ × T} {count' : T → Nat}
    (hreply : ∀ call s, reply' call (view s) = ((reply call s).1, view (reply call s).2))
    (hcount : ∀ s, count' (view s) = count s) (calls : List γ) (s : S) :
    observe reply' count' calls (view s) =
      ((observe reply count calls s).1, view (observe reply count calls s).2) := by
  induction calls generalizing s with
  | nil => rfl
  | cons call calls ih =>
    rw [observe, hreply]
    dsimp only
    rw [ih, hcount]
    rfl

end Observe

/-! ### Solutions -/

namespace Cursor

variable {σ : Type} [RowSource σ]

/-- There is more where a solution waits. -/
theorem isSome_lookahead_hasMore {c d : Cursor σ} {more : Bool} (h : c.hasMore = (.ok more, d)) :
    d.lookahead.isSome = more := by
  obtain ⟨source, held, columns, graph, lookahead, delivered⟩ := c
  cases lookahead with
  | some s =>
    -- It waited before the question.
    cases h
    rfl
  | none =>
    cases held with
    | false =>
      cases h
      rfl
    | true =>
      unfold hasMore at h
      simp only [Option.isSome_none, Bool.false_eq_true, if_false, if_true] at h
      -- The stream is asked: only a row that it hands out is kept waiting.
      rcases hfetch : RowSource.fetchRow.on source with ⟨e | _ | row, s⟩
      · rw [hfetch] at h
        cases h
      · rw [hfetch] at h
        cases h
        rfl
      · rw [hfetch] at h
        cases h
        rfl

/-- A look ahead releases the stream exactly where it reports an end or a failure. -/
theorem held_hasMore (c : Cursor σ) :
    c.hasMore.2.held = (c.held && !(Reply.more c.hasMore.1).ends) := by
  obtain ⟨source, held, columns, graph, lookahead, delivered⟩ := c
  cases lookahead with
  -- A waiting solution is reported and touches no stream.
  | some s => exact (Bool.and_true held).symm
  | none =>
    cases held with
    | false => rfl
    | true =>
      unfold hasMore
      simp only [Option.isSome_none, Bool.false_eq_true, if_false, if_true, Bool.true_and]
      -- It failed, it ended, or it handed out a row: only the last leaves it held.
      rcases RowSource.fetchRow.on source with ⟨e | _ | row, s⟩
      · rfl
      · rfl
      · rfl

/-- So does the next solution, which is the one looked ahead to. -/
theorem held_next (c : Cursor σ) :
    c.next.2.held = (c.held && !(Reply.next c.next.1).ends) := by
  have hheld := held_hasMore c
  unfold next
  rcases hmore : c.hasMore with ⟨e | more, d⟩
  · rw [hmore] at hheld
    exact hheld
  · -- What waits then decides between a solution and the end.
    have hwaits := isSome_lookahead_hasMore hmore
    rw [hmore] at hheld
    obtain ⟨source, held, columns, graph, lookahead, delivered⟩ := d
    cases lookahead with
    | none =>
      cases hwaits
      exact hheld
    | some s =>
      cases hwaits
      exact hheld

/-- To ask for a solution that should be there holds the stream as the next one does. -/
theorem held_advance (c : Cursor σ) :
    c.advance.2.held = (c.held && !(Reply.advanced c.advance.1).ends) := by
  have hheld := held_next c
  unfold advance
  rcases hnext : c.next with ⟨e | _ | s, d⟩
  · rw [hnext] at hheld
    exact hheld
  · rw [hnext] at hheld
    exact hheld
  · rw [hnext] at hheld
    exact hheld

/-- The stream is held until a reply ends the reading. -/
theorem held_reply (call : Call) (c : Cursor σ) :
    (c.reply call).2.held = (c.held && !(c.reply call).1.ends) := by
  cases call with
  | hasMore => exact held_hasMore c
  | next => exact held_next c
  | advance => exact held_advance c
  | close => exact (release_held _).trans (Bool.and_false _).symm
  | abort => exact (release_held _).trans (Bool.and_false _).symm

end Cursor

/-! ### Triples -/

namespace Matches

/-- What a reader of triples can do before it drops them. -/
inductive Call where
  /-- asks for the next triple, none at the end -/
  | next
  /-- releases the stream -/
  | close

/-- What a reader of triples is told. -/
inductive Reply where
  /-- the next triple, none at the end -/
  | next (r : Except Error (Option Triple))
  /-- nothing -/
  | done

/-- The reading ends here: the end was observed, a failure was reported, or the stream was
released. -/
def Reply.ends : Reply → Bool
  | next (.ok t) => t.isNone
  | _ => true

variable {σ : Type} [RowSource σ]

/-- Makes a call. -/
def reply (call : Call) (m : Matches σ) : Reply × Matches σ :=
  match call with
  | .next => (.next m.next.1, m.next.2)
  | .close => (.done, m.close)

/-- Solutions are passed over until a triple is found; the stream is held while that goes on. -/
theorem held_next (m : Matches σ) :
    m.next.2.cursor.held = (m.cursor.held && !(Reply.next m.next.1).ends) := by
  have hheld := Cursor.held_next m.cursor
  fun_induction next m with
  | case1 m e c hc =>
    rw [hc] at hheld
    exact hheld
  | case2 m c hc =>
    rw [hc] at hheld
    exact hheld
  | case3 m s c hc t ht =>
    rw [hc] at hheld
    exact hheld
  | case4 m s c hc ht ih =>
    -- The solution that was passed over did not end the reading.
    rw [hc] at hheld
    have hsame : c.held = m.cursor.held := hheld.trans (Bool.and_true _)
    rw [← hsame]
    exact ih (Cursor.held_next c)

/-- The stream is held until a reply ends the reading. -/
theorem held_reply (call : Call) (m : Matches σ) :
    (m.reply call).2.cursor.held = (m.cursor.held && !(m.reply call).1.ends) := by
  cases call with
  | next => exact held_next m
  | close => exact (Cursor.release_held _).trans (Bool.and_false _).symm

theorem reply_through {τ : Type} [RowSource τ] {view : σ → τ} (hv : RowSource.SeenThrough view)
    (call : Call) (m : Matches σ) :
    (m.through view).reply call = ((m.reply call).1, (m.reply call).2.through view) := by
  cases call with
  | next => rw [reply, next_through hv]; rfl
  | close =>
    exact congrArg (fun c => (Reply.done, (⟨c, m.pattern⟩ : Matches τ)))
      (Cursor.close_through hv m.cursor)

end Matches

end QuadClient
