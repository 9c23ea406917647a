import QuadClient.Proofs.Graph.WholeTransaction

/-!
# Back in autocommit

A transaction around some work gives autocommit back, whether the work fails or not, as long as
the store lets it leave: it must not refuse the rollback, the commit or the switch. If the commit
alone is refused, the open work is discarded, but the transaction stays open. What is written
after that is staged, and lost when the handle is closed.
-/

namespace QuadClient

open Framed (frame)
open LocalConnection (InAutocommit Staged)

/-! ### Writes after a transaction -/

namespace Handle

variable {h h' : Handle LocalConnection} {u : Triple}

/-- The published triples are kept when the handle is closed. -/
theorem committed_close (h : Handle LocalConnection) :
    h.close.connection.committed = h.connection.committed := by
  unfold close
  split
  · rfl
  · rfl

/-- What a triple added means for the handle: it is there to be seen, and nothing else changed. -/
theorem add_eq_ok (hadd : (add u).on h = (.ok (), h')) :
    h'.visible = (h.visible.insert h.graphName u.stored).2 ∧
      frame h' = frame h ∧ h'.graphName = h.graphName := by
  have hframe := (confined_add u).frame_on h
  rw [hadd] at hframe
  rw [add, Attempt.on_bind] at hadd
  rcases sendOne_cases h .add u with ⟨error, hsend⟩ | ⟨e, -, -, hsend⟩
  · rw [hsend] at hadd
    cases hadd
  · rw [hsend] at hadd
    cases hadd
    exact ⟨visible_written .add u e, hframe, rfl⟩

/-- What is added in autocommit is published at once, and is there when the handle is closed. -/
structure Publishes (u : Triple) (h : Handle LocalConnection) : Prop where
  atOnce : h.connection.committed.contains h.graphName u.stored = true
  afterClose : h.close.connection.committed.contains h.graphName u.stored = true

/-- In autocommit what is seen is what is published. -/
theorem publishes_of_add (ha : h.connection.InAutocommit) (hadd : (add u).on h = (.ok (), h')) :
    h'.Publishes u := by
  obtain ⟨hvisible, hframe, hname⟩ := add_eq_ok hadd
  -- Autocommit is part of the frame, so it is on after the addition too.
  have ha' : h'.connection.InAutocommit := ha.of_frame hframe
  have hcommitted : h'.connection.committed.contains h'.graphName u.stored = true := by
    rw [← ha'.visible, hname]
    show h'.visible.contains _ _ = true
    rw [hvisible]
    exact QuadStore.contains_insert.2 (Or.inl ⟨rfl, rfl⟩)
  exact ⟨hcommitted, by rwa [committed_close]⟩

/-- What is added inside of a transaction is lost when the handle is closed. -/
theorem committed_close_of_staged {s : QuadStore} (hs : h.connection.Staged s)
    (hadd : (add u).on h = (.ok (), h')) : h'.close.connection.committed = s := by
  obtain ⟨-, hframe, -⟩ := add_eq_ok hadd
  rw [committed_close, (hs.of_frame hframe).committed]

end Handle

namespace Transaction

variable {α : Type} {t : Transaction LocalConnection} {s : QuadStore}

/-! ### The ends of a transaction -/

/-- A rollback that is not refused discards the open work. -/
theorem rollback_accepted {c : LocalConnection} (hopen : c.isClosed = false)
    (hrollback : c.faults.rollback = false) :
    LocalConnection.rollback c = (.ok (), c.discarded) := by
  rw [LocalConnection.rollback_of_open hopen, hrollback]
  rfl

/-- The end of a transaction is back in autocommit, unless the commit is refused: then the
transaction stays open. -/
theorem guarded_closing_restores (hopen : t.handle.isClosed = false)
    (hs : t.handle.connection.Staged s)
    (hrollback : t.handle.connection.faults.rollback = false)
    (htoggle : t.handle.connection.faults.setAutoCommit = false) (phase : Phase) :
    (t.handle.connection.faults.commit = false ∧ ∃ c,
        (guarded phase closing).on t = (.ok (), t.withConnection c) ∧ c.InAutocommit) ∨
      t.handle.connection.faults.commit = true ∧ ∃ e c,
        (guarded phase closing).on t = (.error e, t.withConnection c) ∧ c.Staged s := by
  rcases guarded_closing hopen hs phase with
    ⟨haccepted, -, hclosing⟩ | ⟨hrefused, e, hclosing⟩ | ⟨-, hrefused, -⟩
  · -- The transaction is closed and left.
    exact Or.inl ⟨haccepted, _, hclosing, InAutocommit.ended _⟩
  · -- The rollback that follows discards the work and leaves the transaction open.
    rw [rollback_accepted hs.isOpen hrollback] at hclosing
    exact Or.inr ⟨hrefused, e, _, hclosing, hs.discarded⟩
  · rw [htoggle] at hrefused
    cases hrefused

/-- A commit is back in autocommit unless it is refused. -/
theorem commit_restores (ht : t.Ready) (hs : t.handle.connection.Staged s)
    (hrollback : t.handle.connection.faults.rollback = false)
    (htoggle : t.handle.connection.faults.setAutoCommit = false) :
    (t.handle.connection.faults.commit = false ∧ ∃ c,
        commit.on t = (.ok (), t.admitted.withConnection c) ∧ c.InAutocommit) ∨
      t.handle.connection.faults.commit = true ∧ ∃ e c,
        commit.on t = (.error e, t.admitted.withConnection c) ∧ c.Staged s := by
  rw [commit_on ht]
  exact guarded_closing_restores (t := t.admitted) ht.isOpen hs hrollback htoggle .commit

/-- So is an abort, which commits nothing in the end. -/
theorem abort_restores (ht : t.Ready) (hs : t.handle.connection.Staged s)
    (hrollback : t.handle.connection.faults.rollback = false)
    (htoggle : t.handle.connection.faults.setAutoCommit = false) :
    (t.handle.connection.faults.commit = false ∧ ∃ c,
        abort.on t = (.ok (), t.admitted.withConnection c) ∧ c.InAutocommit) ∨
      t.handle.connection.faults.commit = true ∧ ∃ e c,
        abort.on t = (.error e, t.admitted.withConnection c) ∧ c.Staged s := by
  -- The rollback is accepted here, so the closing calls start from a connection without work.
  rw [abort_on ht, rollback_accepted ht.connection hrollback]
  exact guarded_closing_restores (t := t.admitted.withConnection t.handle.connection.discarded)
    ht.isOpen hs.discarded hrollback htoggle .abort

/-! ### The transaction -/

/-- A transaction that began is back in autocommit in the end, unless the commit is refused: then
it fails and stays open, and its work is discarded. -/
theorem execute_of_begun_restores (ht : t.Ready) (ha : t.handle.connection.InAutocommit)
    (hbegin : begin.on t = (.ok (), t.opened)) (w : Work α)
    (hrollback : (workOf w t).2.connection.faults.rollback = false)
    (htoggle : (workOf w t).2.connection.faults.setAutoCommit = false) :
    ((workOf w t).2.connection.faults.commit = false ∧
        ((execute w.act).on t).2.handle.connection.InAutocommit) ∨
      (workOf w t).2.connection.faults.commit = true ∧ ∃ e t', (execute w.act).on t = (.error e, t') ∧
        t'.handle.connection.Staged t.handle.connection.committed := by
  have hu := underway_workOf ht ha w
  have hready := ready_of_underway (t := t) hu
  rw [execute_of_begun hbegin]
  rcases hwork : workOf w t with ⟨e | x, h⟩
  · -- The work failed and is aborted.
    rw [hwork] at hu hready hrollback htoggle
    rcases abort_restores hready hu.staged hrollback htoggle with
      ⟨haccepted, c, habort, hc⟩ | ⟨hrefused, a, c, habort, hc⟩
    · simp only [Attempt.on_bind, Attempt.on_outcome, habort]
      exact Or.inl ⟨haccepted, hc⟩
    · simp only [Attempt.on_bind, Attempt.on_outcome, habort]
      exact Or.inr ⟨hrefused, _, _, rfl, hc⟩
  · -- The work succeeded and is committed.
    rw [hwork] at hu hready hrollback htoggle
    rcases commit_restores hready hu.staged hrollback htoggle with
      ⟨haccepted, c, hcommit, hc⟩ | ⟨hrefused, e, c, hcommit, hc⟩
    · simp only [Attempt.on_bind, hcommit]
      exact Or.inl ⟨haccepted, hc⟩
    · simp only [Attempt.on_bind, hcommit]
      exact Or.inr ⟨hrefused, _, _, rfl, hc⟩

/-- A rollback outside of a transaction finds none to end. -/
theorem inAutocommit_rollback {c : LocalConnection} (ha : c.InAutocommit) :
    (LocalConnection.rollback c).2.InAutocommit := by
  rcases LocalConnection.rollback_cases c with ⟨e, hrollback⟩ | hrollback
  · rw [hrollback]
    exact ha
  · rw [hrollback]
    refine ⟨ha.autoCommit, ?_⟩
    show c.working.map _ = none
    rw [ha.working]
    rfl

/-- A transaction begins, or it fails to and is in autocommit as before. -/
theorem begins_or_stays (hoffered : t.handle.connection.supportsTransactions = true)
    (hsupported : t.supported ≠ some false) (ha : t.handle.connection.InAutocommit)
    (work : GraphAction LocalConnection α) :
    t.Ready ∧ begin.on t = (.ok (), t.opened) ∨
      (∃ e, (begin.on t).1 = .error e) ∧
        ((execute work).on t).2.handle.connection.InAutocommit := by
  rcases t.handle.open_or_refuses with ⟨hopen, hconnection⟩ | hr
  · have ht : t.Ready := ⟨hopen, hconnection, hoffered, hsupported⟩
    rcases begin_cases ht ha with ⟨-, hbegin⟩ | ⟨-, e, hbegin⟩
    · exact Or.inl ⟨ht, hbegin⟩
    · -- The switch was refused; the rollback behind it is one outside of a transaction.
      rw [execute_of_error hbegin, hbegin]
      refine Or.inr ⟨⟨e, rfl⟩, ?_⟩
      exact inAutocommit_rollback (c := reading t.handle.connection) ⟨ha.autoCommit, ha.working⟩
  · obtain ⟨e, hbegin⟩ := begin_of_refuses hr
    rw [execute_of_error hbegin, hbegin]
    exact Or.inr ⟨⟨e, rfl⟩, ha⟩

/-- A transaction around work that leaves a store which refuses neither the rollback nor the
switch is back in autocommit, whether it succeeds or fails, and what is added afterwards is
published at once. The one exception is a commit that is refused: then the transaction fails and
publishes nothing, but it stays open. -/
theorem execute_restores (w : Work α)
    (hoffered : t.handle.connection.supportsTransactions = true)
    (hsupported : t.supported ≠ some false) (ha : t.handle.connection.InAutocommit)
    (hrollback : (workOf w t).2.connection.faults.rollback = false)
    (htoggle : (workOf w t).2.connection.faults.setAutoCommit = false) :
    let commitRefused := (begin.on t).1 = .ok () ∧ (workOf w t).2.connection.faults.commit = true
    let r := (execute w.act).on t
    (¬ commitRefused → r.2.handle.connection.autoCommit = true ∧
        ∀ u h', (Handle.add u).on r.2.handle = (.ok (), h') → h'.Publishes u) ∧
      (commitRefused → (∃ e, r.1 = .error e) ∧
        r.2.handle.connection.Staged t.handle.connection.committed) := by
  intro commitRefused r
  -- In autocommit, what is added is published at once.
  have hrestored (hr : r.2.handle.connection.InAutocommit) :
      r.2.handle.connection.autoCommit = true ∧
        ∀ u h', (Handle.add u).on r.2.handle = (.ok (), h') → h'.Publishes u :=
    ⟨hr.autoCommit, fun _ _ hadd => Handle.publishes_of_add hr hadd⟩
  -- Whether it began says whether there is a commit to be refused.
  rcases begins_or_stays hoffered hsupported ha w.act with ⟨ht, hbegin⟩ | ⟨⟨e, hbegin⟩, hauto⟩
  · rcases execute_of_begun_restores ht ha hbegin w hrollback htoggle with
      ⟨haccepted, hauto⟩ | ⟨hrefused, e, t', hexecute, hstaged⟩
    · refine ⟨fun _ => hrestored hauto, fun hrefused => ?_⟩
      exact absurd (haccepted.symm.trans hrefused.2) Bool.false_ne_true
    · have hr : r = (.error e, t') := hexecute
      refine ⟨fun haccepted => ?_, fun _ => ?_⟩
      · exact absurd ⟨by rw [hbegin], hrefused⟩ haccepted
      · rw [hr]
        exact ⟨⟨e, rfl⟩, hstaged⟩
  · -- It did not begin.
    refine ⟨fun _ => hrestored hauto, fun hrefused => ?_⟩
    cases hbegin.symm.trans hrefused.1

open Operation (newTransaction)

/-- The handle once a triple was added in a transaction and other calls were to fail, and the
transaction was left. -/
def handleAfter (faults : Faults) : Handle LocalConnection :=
  ((execute (addThenFault faults).act).on newTransaction).2.handle

/-- A triple can be added to the handle that a transaction left, if the handle serves. -/
theorem add_handleAfter (faults : Faults) (hopen : (handleAfter faults).isClosed = false)
    (hconnection : (handleAfter faults).connection.isClosed = false)
    (hupdates : (handleAfter faults).connection.faults.updates = false) :
    ∃ h', (Handle.add Handle.sample).on (handleAfter faults) = (.ok (), h') := by
  obtain ⟨e, he⟩ : ∃ e, Handle.sample.encode = .ok e := ⟨_, rfl⟩
  exact ⟨_, Handle.sendOne_tell_of_accepts ⟨hopen, hconnection, hupdates⟩ he _⟩

theorem execute_restores_added :
    newTransaction.handle.connection.supportsTransactions = true ∧
      newTransaction.supported ≠ some false ∧ newTransaction.handle.connection.InAutocommit ∧
      (workOf (addThenFault {}) newTransaction).2.connection.faults = {} ∧
      (handleAfter {}).connection.autoCommit = true ∧
      ∃ h', (Handle.add Handle.sample).on (handleAfter {}) = (.ok (), h') ∧
        h'.Publishes Handle.sample := by
  have ha := inAutocommit_newTransaction
  obtain ⟨h, hwork, hfaults, -⟩ := workOf_addThenFault {}
  have hend : (workOf (addThenFault {}) newTransaction).2.connection.faults = {} := by
    rw [hwork, hfaults]
  obtain ⟨hauto, hadds⟩ := (execute_restores (addThenFault {}) (t := newTransaction) rfl nofun ha
    (by rw [hend]) (by rw [hend])).1 fun hrefused => by
      rw [hend] at hrefused
      cases hrefused.2
  obtain ⟨h', hadd⟩ := add_handleAfter {} (by decide +kernel) (by decide +kernel)
    (by decide +kernel)
  refine ⟨rfl, nofun, ha, hend, ?_, h', hadd, ?_⟩
  · rw [handleAfter]
    exact hauto
  · rw [handleAfter] at hadd
    exact hadds Handle.sample h' hadd

/-- When the commit is refused, autocommit stays off, and a triple that is added later is lost when
the handle is closed. -/
theorem not_execute_restores_refused :
    let faults : Faults := { commit := true }
    newTransaction.handle.connection.InAutocommit ∧
      newTransaction.handle.connection.supportsTransactions = true ∧
      faults.rollback = false ∧ faults.setAutoCommit = false ∧
      (handleAfter faults).connection.autoCommit = false ∧
      ∃ h', (Handle.add Handle.sample).on (handleAfter faults) = (.ok (), h') ∧
        h'.visible.contains "urn:g" Handle.sample = true ∧
        h'.close.connection.committed.contains "urn:g" Handle.sample = false := by
  intro faults
  have ha := inAutocommit_newTransaction
  obtain ⟨h, hwork, hfaults, -⟩ := workOf_addThenFault faults
  rcases execute_of_begun_restores ready_newTransaction ha begin_newTransaction
      (addThenFault faults) (by rw [hwork, hfaults]) (by rw [hwork, hfaults]) with
    ⟨haccepted, -⟩ | ⟨-, e, t', hexecute, hstaged⟩
  · rw [hwork, hfaults] at haccepted
    cases haccepted
  · -- The transaction failed and is open, so what is added to the handle is staged.
    have hafter : t'.handle = handleAfter faults := by rw [handleAfter, hexecute]
    rw [hafter] at hstaged
    obtain ⟨h', hadd⟩ := add_handleAfter { commit := true } (by decide +kernel)
      (by decide +kernel) (by decide +kernel)
    obtain ⟨hvisible, -⟩ := Handle.add_eq_ok hadd
    refine ⟨ha, rfl, rfl, rfl, hstaged.autoCommit, h', hadd, ?_, ?_⟩
    · rw [hvisible]
      exact QuadStore.contains_insert.2 (Or.inl ⟨by decide +kernel, rfl⟩)
    · rw [Handle.committed_close_of_staged hstaged hadd]
      exact QuadStore.contains_empty _ _

end Transaction

end QuadClient
