import QuadClient.Proofs.Graph.Profile
import QuadClient.Proofs.Graph.Staged
import QuadClient.Proofs.Graph.TransactionSteps

/-!
# Transactions are transparent

A sequence of operations is compared in two runs: outside of a transaction, where each statement
is published at once and each batched write holds a transaction of its own, and inside of one. As
long as the operations succeed, the two runs differ in the frame of the connection alone. So a
transaction that is committed leaves what the operations leave without it, and one that is aborted
leaves what was there before.
-/

namespace QuadClient

open Framed (frame inFrame)
open LocalConnection (InAutocommit Staged)

/-! ### One operation -/

/-- The connection is open and shows no fault, and no transaction is open on it. -/
structure Handle.Direct (h : Handle LocalConnection) : Prop where
  isOpen : h.connection.isClosed = false
  faults : h.connection.faults = {}
  auto : h.connection.InAutocommit

/-- The frame of an open connection without faults on which a transaction is open. -/
structure Frame.Staging (F : Frame) : Prop where
  isOpen : F.isClosed = false
  faults : F.faults = {}
  autoCommit : F.autoCommit = false

variable {h h' : Handle LocalConnection} {F : Frame}

theorem Handle.Direct.of_frame (hd : h.Direct) (hframe : frame h' = frame h) : h'.Direct := by
  have hclosed : h'.connection.isClosed = h.connection.isClosed := congrArg Frame.isClosed hframe
  have hfaults : h'.connection.faults = h.connection.faults := congrArg Frame.faults hframe
  exact ⟨hclosed.trans hd.isOpen, hfaults.trans hd.faults, hd.auto.of_frame hframe⟩

theorem Handle.Direct.like (hd : h.Direct) (hF : F.Staging) : (frame h).Like F :=
  ⟨hF.isOpen.trans hd.isOpen.symm, hF.faults.trans hd.faults.symm⟩

/-- Only the frame tells work that was published from work that is staged. -/
theorem Handle.inFrame_concluded (F : Frame) (h : Handle LocalConnection) :
    inFrame F h.concluded = inFrame F h :=
  congrArg (fun c => { h with connection := c }) (h.connection.inFrame_ended F)

/-- An attempt does the same outside and inside of a transaction, or fails in both. -/
def Alike {α : Type} (F : Frame) (a : GraphAction LocalConnection α)
    (h : Handle LocalConnection) : Prop :=
  (∃ x h', a.on h = (.ok x, h') ∧ a.on (inFrame F h) = (.ok x, inFrame F h') ∧ h'.Direct) ∨
    (∃ e, (a.on h).1 = .error e) ∧ ∃ e, (a.on (inFrame F h)).1 = .error e

/-- What is made of the result does not matter to whether two attempts are alike. -/
theorem Alike.map {α β : Type} {a : GraphAction LocalConnection α} (ha : Alike F a h)
    (f : α → β) : Alike F (do return f (← a)) h := by
  unfold Alike
  rw [Attempt.on_bind, Attempt.on_bind]
  rcases ha with ⟨x, h', hon, hstaged, hd⟩ | ⟨⟨e, he⟩, e', he'⟩
  · rw [hon, hstaged]
    exact Or.inl ⟨f x, h', rfl, rfl, hd⟩
  · rcases hon : a.on h with ⟨r, k⟩
    rcases hstaged : a.on (inFrame F h) with ⟨r', k'⟩
    rw [hon] at he
    rw [hstaged] at he'
    cases he
    cases he'
    exact Or.inr ⟨⟨e, rfl⟩, e', rfl⟩

/-- An attempt that does not look at the frame is alike in every frame the connection may have. -/
theorem Alike.of_confined {α : Type} {a : GraphAction LocalConnection α} (ha : a.Confined)
    (hd : h.Direct) (hF : F.Staging) : Alike F a h := by
  have hframe := ha.frame_on h
  unfold Alike
  rw [ha F h (hd.like hF)]
  rcases hon : a.on h with ⟨e | x, h'⟩
  · -- The frame changes no outcome, so both runs fail with the same error.
    exact Or.inr ⟨⟨e, rfl⟩, e, rfl⟩
  · rw [hon] at hframe
    exact Or.inl ⟨x, h', rfl, rfl, hd.of_frame hframe⟩

/-- A batched write does the same whether the transaction around it is its own or not. -/
theorem Alike.writeMany (hd : h.Direct) (hF : F.Staging) (kind : WriteKind) (ts : List Triple)
    (notify : Bool) : Alike F (Handle.writeMany kind ts notify) h := by
  unfold Alike
  rw [Handle.writeMany_of_staged (h := inFrame F h) hF.autoCommit,
    Handle.sendAll_inFrame kind ts (hd.like hF)]
  cases hopen : h.isClosed with
  | true =>
    have hr : h.Refuses := Or.inl hopen
    rw [Handle.writeMany_of_refuses hr, Handle.sendAll_of_refuses hr]
    exact Or.inr ⟨⟨_, rfl⟩, _, rfl⟩
  | false =>
    have htoggle : h.connection.faults.setAutoCommit = false := by rw [hd.faults]
    have hcommit : h.connection.faults.commit = false := by rw [hd.faults]
    have henter := Handle.enterWrite_of_open hopen hd.isOpen hd.auto kind
    rw [if_neg (Bool.eq_false_iff.1 htoggle)] at henter
    obtain ⟨r, p, h₁, hsend, hs, -, hwrite⟩ :=
      Handle.writeMany_of_begun hopen hd.isOpen htoggle henter ts notify
    -- The write's own transaction is one more frame, in which the batches do what they do in `F`.
    have hbegun : h.begun = inFrame h.connection.stagingFrame h :=
      congrArg (fun c => { h with connection := c }) hd.auto.begun_eq
    rcases hk : Handle.sendAll kind ts h with ⟨⟨r', p'⟩, k⟩
    have hlike : (frame h).Like h.connection.stagingFrame := ⟨rfl, rfl⟩
    rw [hbegun, Handle.sendAll_inFrame kind ts hlike, hk] at hsend
    cases hsend
    rw [hwrite]
    cases r with
    | error e => exact Or.inr ⟨⟨e, rfl⟩, e, rfl⟩
    | ok n =>
      rw [hcommit]
      let k' := (inFrame h.connection.stagingFrame k).concluded
      have hsame : inFrame F (k'.announce kind ts notify) =
          (inFrame F k).announce kind ts notify := by
        rw [← Handle.announce_inFrame, Handle.inFrame_concluded, Framed.inFrame_inFrame]
      refine Or.inl ⟨n, k'.announce kind ts notify, rfl, ?_, ?_⟩
      · rw [hsame]
      · have hk' := Handle.connection_announce kind ts notify k'
        refine ⟨?_, ?_, ?_⟩
        · rw [hk']
          exact hd.isOpen
        · rw [hk']
          exact hd.faults
        · rw [hk']
          exact InAutocommit.ended _

namespace Operation

/-- One operation outside of a transaction succeeds exactly where it does inside. -/
theorem act_alike (hd : h.Direct) (hF : F.Staging) (o : Operation) : Alike F o.act h := by
  rcases o.batched_or_other with ⟨kind, ts, notify, rfl⟩ | hother
  · exact (Alike.writeMany hd hF kind ts notify).map Answer.number
  · exact .of_confined (confined_act o hother) hd hF

end Operation

/-! ### Sequences -/

namespace Operation

/-- The outcomes of operations that are done one after the other, whatever becomes of each, and
the handle they leave. -/
def runAll {κ : Type} [Connection κ] :
    List Operation → Handle κ → List (Except Error Answer) × Handle κ
  | [], h => ([], h)
  | o :: ops, h =>
    let (r, h) := o.act.on h
    let (rs, h) := runAll ops h
    (r :: rs, h)

/-- Every operation succeeded. -/
def AllDone (rs : List (Except Error Answer)) : Prop :=
  ∀ r ∈ rs, ∃ x, r = .ok x

theorem not_allDone_cons_error {e : Error} {rs : List (Except Error Answer)} :
    ¬ AllDone (.error e :: rs) := by
  intro hall
  obtain ⟨x, hx⟩ := hall (.error e) List.mem_cons_self
  cases hx

theorem AllDone.tail {r : Except Error Answer} {rs : List (Except Error Answer)}
    (h : AllDone (r :: rs)) : AllDone rs :=
  fun r' hr' => h r' (List.mem_cons_of_mem r hr')

/-- If all operations succeed outside of a transaction, or all do inside, they give the same
results, and what they leave differs in the frame alone. -/
theorem runAll_alike (ops : List Operation) (hd : h.Direct) (hF : F.Staging)
    (hall : AllDone (runAll ops h).1 ∨ AllDone (runAll ops (inFrame F h)).1) :
    runAll ops (inFrame F h) = ((runAll ops h).1, inFrame F (runAll ops h).2) ∧
      (runAll ops h).2.Direct := by
  induction ops generalizing h with
  | nil => exact ⟨rfl, hd⟩
  | cons o ops ih =>
    rcases act_alike hd hF o with ⟨x, h', hon, hstaged, hd'⟩ | ⟨⟨e, he⟩, e', he'⟩
    · simp only [runAll, hon, hstaged] at hall ⊢
      obtain ⟨hrest, hdirect⟩ := ih hd' (hall.imp AllDone.tail AllDone.tail)
      rw [hrest]
      exact ⟨rfl, hdirect⟩
    · -- An operation that fails does so in both runs, so neither of them succeeds throughout.
      simp only [runAll, he, he'] at hall
      rcases hall with hall | hall
      · exact absurd hall not_allDone_cons_error
      · exact absurd hall not_allDone_cons_error

/-- Operations inside of a transaction keep the frame, whatever becomes of them. -/
theorem frame_runAll (ops : List Operation) (hauto : h.connection.autoCommit = false) :
    frame (runAll ops h).2 = frame h := by
  induction ops generalizing h with
  | nil => rfl
  | cons o ops ih =>
    have hframe := o.frame_act hauto
    have hauto' : (o.act.on h).2.connection.autoCommit = false :=
      (congrArg Frame.autoCommit hframe).trans hauto
    exact (ih hauto').trans hframe

/-- Operations leave who may write, and which graph is written, as they were. -/
theorem profile_runAll (ops : List Operation) (h : Handle LocalConnection) :
    (runAll ops h).2.profile = h.profile := by
  induction ops generalizing h with
  | nil => rfl
  | cons o ops ih => exact (ih (o.act.on h).2).trans (o.has_act h rfl).1

/-- What a transaction that was begun is ready for once operations were done in it, and what it
has staged. -/
theorem staged_runAll (ops : List Operation) {t : Transaction LocalConnection} (ht : t.Ready)
    (ha : t.handle.connection.InAutocommit) :
    let t' := { t.opened with handle := (runAll ops t.opened.handle).2 }
    t'.Ready ∧ t'.handle.connection.Staged t.handle.connection.committed ∧
      t'.handle.connection.faults = t.handle.connection.faults := by
  have hopened := Transaction.staged_opened ht ha
  have hframe := frame_runAll ops hopened.autoCommit
  have hprofile := profile_runAll ops t.opened.handle
  exact ⟨(Transaction.ready_opened ht).of_frame hframe (congrArg Handle.Profile.isClosed hprofile)
    rfl, hopened.of_frame hframe, congrArg Frame.faults hframe⟩

/-- A transaction around operations that all succeed gives the results and leaves the published
triples that the operations come to without it. A transaction that is aborted, whatever its
operations came to, leaves the published triples that were there before. Both are back in
autocommit. -/
theorem transaction_transparent (ops : List Operation) {t : Transaction LocalConnection}
    (ht : t.Ready) (hd : t.handle.Direct) :
    let direct := runAll ops t.handle
    let begun := Transaction.begin.on t
    let staged := runAll ops begun.2.handle
    let committed := Transaction.commit.on { begun.2 with handle := staged.2 }
    let aborted := Transaction.abort.on { begun.2 with handle := staged.2 }
    begun.1 = .ok () ∧
      (AllDone direct.1 ∨ AllDone staged.1 →
        staged.1 = direct.1 ∧ committed.1 = .ok () ∧
          committed.2.handle.connection.committed = direct.2.connection.committed ∧
          committed.2.handle.connection.autoCommit = true) ∧
      aborted.1 = .ok () ∧
        aborted.2.handle.connection.committed = t.handle.connection.committed ∧
        aborted.2.handle.connection.visible = t.handle.connection.committed ∧
        aborted.2.handle.connection.autoCommit = true := by
  have hbegin : Transaction.begin.on t = (.ok (), t.opened) := by
    rcases Transaction.begin_cases ht hd.auto with ⟨-, hbegin⟩ | ⟨hrefused, -⟩
    · exact hbegin
    · rw [hd.faults] at hrefused
      cases hrefused
  obtain ⟨hready, hstaged, hfaults⟩ := staged_runAll ops ht hd.auto
  rw [hd.faults] at hfaults
  dsimp only
  rw [hbegin]
  refine ⟨rfl, fun hall => ?_, ?_⟩
  · -- Commit: without faults the transaction publishes what is staged, which is what the direct
    -- run published step by step.
    have hF : (Transaction.openFrame t.handle.connection).Staging := ⟨hd.isOpen, hd.faults, rfl⟩
    obtain ⟨hsame, hdirect⟩ := runAll_alike ops hd hF hall
    have hhandle : inFrame (Transaction.openFrame t.handle.connection) t.handle =
        t.opened.handle := rfl
    rw [hhandle] at hsame
    rcases Transaction.commit_cases hready hstaged with ⟨-, -, hcommit⟩ | ⟨h, -⟩ | ⟨-, h, -⟩
    · rw [hcommit]
      refine ⟨by rw [hsame], rfl, ?_, rfl⟩
      calc (runAll ops t.opened.handle).2.connection.published.visible
          = (runAll ops t.opened.handle).2.connection.visible := hstaged.visible_published
        _ = (runAll ops t.handle).2.connection.visible := by
          rw [hsame]
          exact LocalConnection.visible_inFrame _ _
        _ = (runAll ops t.handle).2.connection.committed := hdirect.auto.visible
    · -- Neither of the other two ends is possible: the commit would have to be refused.
      rw [hfaults] at h
      cases h
    · rw [hfaults] at h
      cases h
  · -- Abort: the staged triples are dropped, so the operations need not have succeeded.
    obtain ⟨r, c, habort, hcommitted, hauto, hok⟩ := Transaction.abort_cases hready hstaged
    rw [hfaults] at hok
    obtain rfl := hok rfl rfl rfl
    have ha := hauto rfl
    rw [habort]
    exact ⟨rfl, hcommitted, ha.visible.trans hcommitted, ha.autoCommit⟩

/-- A new connection, and nobody was asked yet whether it offers transactions. -/
def newTransaction : Transaction LocalConnection :=
  ⟨Handle.ofFaults {}, none⟩

theorem transaction_transparent_batch :
    let ops := [writeMany .add [Handle.sample] true]
    let direct := runAll ops newTransaction.handle
    let begun := Transaction.begin.on newTransaction
    let staged := runAll ops begun.2.handle
    let committed := Transaction.commit.on { begun.2 with handle := staged.2 }
    newTransaction.Ready ∧ newTransaction.handle.Direct ∧
      staged.1 = [.ok (.number 1)] ∧ committed.1 = .ok () ∧
      committed.2.handle.connection.committed = direct.2.connection.committed := by
  have ht : newTransaction.Ready := ⟨rfl, rfl, rfl, nofun⟩
  have hd : newTransaction.handle.Direct := ⟨rfl, rfl, rfl, rfl⟩
  have hwrite : ((Handle.writeMany .add [Handle.sample] true).on newTransaction.handle).1 =
      .ok 1 := rfl
  have hdirect : (runAll [writeMany .add [Handle.sample] true] newTransaction.handle).1 =
      [.ok (.number 1)] := by
    simp only [runAll, act_writeMany_on, hwrite]
    rfl
  have hall : AllDone (runAll [writeMany .add [Handle.sample] true] newTransaction.handle).1 := by
    rw [hdirect]
    exact fun r hr => ⟨_, List.mem_singleton.1 hr⟩
  have htransparent := transaction_transparent [writeMany .add [Handle.sample] true] ht hd
  dsimp only at htransparent
  obtain ⟨-, hcommit, -⟩ := htransparent
  have hdone := hcommit (Or.inl hall)
  dsimp only
  exact ⟨ht, hd, hdone.1.trans hdirect, hdone.2.1, hdone.2.2.1⟩

end Operation

end QuadClient
