import QuadClient.Proofs.Graph.Transparency

/-!
# Work inside a transaction as a whole

Work that is handed to a transaction is published if it succeeds and discarded if it fails,
whatever faults appear while it is done. There is one exception: the store publishes the work at
the commit, so when it then refuses to switch autocommit back on, the transaction fails although
its work is published.
-/

namespace QuadClient

open Framed (frame inFrame)
open Attempt (Keeps Confined)
open LocalConnection (InAutocommit Staged)

variable {α : Type} {s : QuadStore}

/-- Work on a handle: data operations, each of which may depend on the outcomes of those before
it, and an outcome in the end. In between, the faults of the store may change. -/
inductive Work (α : Type) : Type 1 where
  /-- the outcome -/
  | done (r : Except Error α)
  /-- an operation on triples and patterns -/
  | operate (o : Operation) (next : Except Error Answer → Work α)
  /-- a document is put into the graph -/
  | load (url : String) (next : Except Error Unit → Work α)
  /-- updates written by the caller are run -/
  | update (u : UpdateSequence) (next : Except Error Unit → Work α)
  /-- the triples that match a pattern are used, all of them or not -/
  | find {β : Type} (p : Pattern)
    (use : Matches (LiveRows LocalConnection) → Except Error β × Matches (LiveRows LocalConnection))
    (huse : Confined (.of use)) (next : Except Error β → Work α)
  /-- the solutions of a query written by the caller are used, all of them or not -/
  | select {β : Type} (query : String) (lookup : String → Option Term)
    (use : Cursor (LiveRows LocalConnection) → Except Error β × Cursor (LiveRows LocalConnection))
    (huse : Confined (.of use)) (next : Except Error β → Work α)
  /-- the rows of a query written by the caller are read -/
  | rows (query : String) (lookup : String → Option Term)
    (next : Except Error (List (List Cell)) → Work α)
  /-- other calls are to fail from now on -/
  | fault (faults : Faults) (next : Work α)

/-- The work on a handle. -/
def Work.act : Work α → GraphAction LocalConnection α
  | done r => Attempt.done r
  | operate o next => do
    let r ← o.act.outcome
    (next r).act
  | load url next => do
    let r ← (Handle.load url : GraphAction LocalConnection Unit).outcome
    (next r).act
  | update u next => do
    let r ← (u.run : GraphAction LocalConnection Unit).outcome
    (next r).act
  | find p use _ next => do
    let r ← (Handle.findWith p use).outcome
    (next r).act
  | select query lookup use _ next => do
    let r ← (Handle.selectWith query lookup use).outcome
    (next r).act
  | rows query lookup next => do
    let r ← (Handle.queryRows query lookup).outcome
    (next r).act
  | fault faults next => do
    modify fun h => { h with connection := { h.connection with faults } }
    next.act

/-! ### What stays while work is done -/

/-- A transaction over these published triples is open on an open handle, and the store offers
transactions. -/
structure Handle.Underway (s : QuadStore) (h : Handle LocalConnection) : Prop where
  isOpen : h.isClosed = false
  offered : h.connection.supportsTransactions = true
  staged : h.connection.Staged s

/-- What stays open over a step is read off the frame of the connection and the profile of the
handle. -/
theorem Handle.Underway.of_frame {h h' : Handle LocalConnection} (hu : h.Underway s)
    (hframe : frame h' = frame h) (hprofile : h'.profile = h.profile) : h'.Underway s :=
  ⟨(congrArg Handle.Profile.isClosed hprofile).trans hu.isOpen,
    (congrArg Frame.supportsTransactions hframe).trans hu.offered, hu.staged.of_frame hframe⟩

/-- What is made of statements leaves the transaction open over the same triples. -/
theorem Handle.underway_of_confined {a : GraphAction LocalConnection α} (ha : a.Confined)
    (hprofile : ∀ p, Keeps (Handle.Has p) a fun _ => True) :
    Keeps (Handle.Underway s) a fun _ => True :=
  fun h hu => ⟨hu.of_frame (ha.frame_on h) (hprofile h.profile h rfl).1, fun _ _ => trivial⟩

/-- So does every operation. -/
theorem Operation.underway_act (o : Operation) :
    Keeps (Handle.Underway s) (o.act : GraphAction LocalConnection Answer) fun _ => True :=
  fun h hu => ⟨hu.of_frame (o.frame_act hu.staged.autoCommit) (o.has_act h rfl).1,
    fun _ _ => trivial⟩

/-- And so does work, whatever becomes of each part of it. -/
theorem Work.underway_act (w : Work α) : Keeps (Handle.Underway s) w.act fun _ => True := by
  -- Each part is an operation or a read made of statements, whose outcome the rest depends on.
  induction w with
  | done r => exact Attempt.keeps_done fun _ _ => trivial
  | operate o next ih => exact Keeps.bind o.underway_act.outcome fun r _ => ih r
  | load url next ih =>
    exact Keeps.bind (Handle.underway_of_confined (Handle.confined_load url)
      fun _ => Handle.has_load url).outcome fun r _ => ih r
  | update u next ih =>
    exact Keeps.bind (Handle.underway_of_confined (Handle.confined_update u)
      fun _ => Handle.has_update u).outcome fun r _ => ih r
  | find p use huse next ih =>
    exact Keeps.bind (Handle.underway_of_confined (Handle.confined_findWith p huse)
      fun _ => Handle.has_findWith p use).outcome fun r _ => ih r
  | select query lookup use huse next ih =>
    exact Keeps.bind (Handle.underway_of_confined (Handle.confined_selectWith query lookup huse)
      fun _ => Handle.has_selectWith query lookup use).outcome fun r _ => ih r
  | rows query lookup next ih =>
    exact Keeps.bind (Handle.underway_of_confined (Handle.confined_queryRows query lookup)
      fun _ => Handle.has_queryRows query lookup).outcome fun r _ => ih r
  -- The faults are no part of what stays.
  | fault faults next ih =>
    refine Keeps.bind (Attempt.keeps_modify fun h hu => ?_) fun _ _ => ih
    exact ⟨hu.isOpen, hu.offered, hu.staged.isOpen, hu.staged.autoCommit, hu.staged.working,
      hu.staged.committed⟩

/-! ### The transaction -/

namespace Transaction

variable {t : Transaction LocalConnection}

/-- The work as it is done in the transaction: its outcome, and the handle it leaves. -/
def workOf (w : Work α) (t : Transaction LocalConnection) :
    Except Error α × Handle LocalConnection :=
  w.act.on t.opened.handle

/-- At its start the work sees the published triples. -/
theorem visible_opened (ha : t.handle.connection.InAutocommit) :
    t.opened.handle.visible = t.handle.connection.committed :=
  (LocalConnection.visible_inFrame _ _).trans ha.visible

/-- A transaction that began does its work and commits it or aborts. -/
theorem execute_of_begun (hbegin : begin.on t = (.ok (), t.opened)) (w : Work α) :
    (execute w.act).on t =
      match workOf w t with
      | (.ok x, h) => (do commit; return x : TransactionAction LocalConnection α).on
          { t.opened with handle := h }
      | (.error e, h) => (do
          match ← Attempt.outcome (abort : TransactionAction LocalConnection Unit) with
          | .ok () => throw e
          | .error a => throw (.abort a e) : TransactionAction LocalConnection α).on
          { t.opened with handle := h } := by
  -- The outcome of the work is a value, so a failure of it does not end the transaction by itself.
  have hwork : (onHandle (w.act.outcome : GraphAction LocalConnection (Except Error α))).on
      t.opened = (.ok (workOf w t).1, { t.opened with handle := (workOf w t).2 }) := rfl
  rw [execute, Attempt.on_bind, hbegin]
  dsimp only
  rw [Attempt.on_bind, hwork]
  rcases workOf w t with ⟨e | x, h⟩
  · rfl
  · rfl

/-- A transaction that did not begin does no work. -/
theorem execute_of_error {e : Error} {t' : Transaction LocalConnection}
    (hbegin : begin.on t = (.error e, t')) (work : GraphAction LocalConnection α) :
    (execute work).on t = (.error e, t') := by
  rw [execute, Attempt.on_bind, hbegin]

/-- After its work the transaction is still open over what was published before. -/
theorem underway_workOf (ht : t.Ready) (ha : t.handle.connection.InAutocommit) (w : Work α) :
    (workOf w t).2.Underway t.handle.connection.committed :=
  (w.underway_act t.opened.handle ⟨ht.isOpen, ht.offered, staged_opened ht ha⟩).1

/-- The end of a transaction finds it ready, whatever the work was. -/
theorem ready_of_underway {h : Handle LocalConnection} (hu : h.Underway s) :
    ({ t.opened with handle := h } : Transaction LocalConnection).Ready :=
  ⟨hu.isOpen, hu.staged.isOpen, hu.offered, nofun⟩

/-- Work that fails is not published. -/
theorem execute_of_failure (ht : t.Ready) (ha : t.handle.connection.InAutocommit)
    (hbegin : begin.on t = (.ok (), t.opened)) {w : Work α} {e : Error}
    {h : Handle LocalConnection} (hwork : workOf w t = (.error e, h)) :
    ∃ e' t', (execute w.act).on t = (.error e', t') ∧
      t'.handle.connection.committed = t.handle.connection.committed := by
  have hu := underway_workOf ht ha w
  rw [hwork] at hu
  obtain ⟨r, c, habort, hcommitted, -⟩ := abort_cases (ready_of_underway (t := t) hu) hu.staged
  rw [execute_of_begun hbegin, hwork]
  simp only [Attempt.on_bind, Attempt.on_outcome, habort]
  cases r with
  -- Either error is one of the transaction, and the abort published nothing.
  | ok => exact ⟨e, _, rfl, hcommitted⟩
  | error a => exact ⟨.abort a e, _, rfl, hcommitted⟩

/-- Work that succeeds is published, unless the commit is refused. If the switch back to
autocommit is refused, the work is published and the transaction fails all the same. -/
theorem execute_of_success (ht : t.Ready) (ha : t.handle.connection.InAutocommit)
    (hbegin : begin.on t = (.ok (), t.opened)) {w : Work α} {x : α}
    {h : Handle LocalConnection} (hwork : workOf w t = (.ok x, h)) :
    (h.connection.faults.commit = false ∧ h.connection.faults.setAutoCommit = false ∧
        ∃ t', (execute w.act).on t = (.ok x, t') ∧ t'.handle.connection.InAutocommit ∧
          t'.handle.connection.committed = h.visible) ∨
      (h.connection.faults.commit = true ∧ ∃ e t', (execute w.act).on t = (.error e, t') ∧
        t'.handle.connection.committed = t.handle.connection.committed) ∨
      (h.connection.faults.commit = false ∧ h.connection.faults.setAutoCommit = true ∧
        ∃ e t', (execute w.act).on t = (.error e, t') ∧
          t'.handle.connection.committed = h.visible) := by
  have hu := underway_workOf ht ha w
  rw [hwork] at hu
  rw [execute_of_begun hbegin, hwork]
  rcases commit_cases (ready_of_underway (t := t) hu) hu.staged with
    ⟨haccepted, hswitched, hcommit⟩ | ⟨hrefused, e, hcommit⟩ | ⟨haccepted, hrefused, e, hcommit⟩
  · -- published and back in autocommit
    simp only [Attempt.on_bind, hcommit]
    refine Or.inl ⟨haccepted, hswitched, _, rfl, InAutocommit.ended _, ?_⟩
    exact hu.staged.visible_published
  · -- The commit was refused, and the rollback behind it drops what was staged only.
    simp only [Attempt.on_bind, hcommit]
    refine Or.inr (Or.inl ⟨hrefused, e, _, rfl, ?_⟩)
    exact (LocalConnection.committed_rollback _).trans hu.staged.committed
  · -- The switch was refused, after the commit had published the work.
    simp only [Attempt.on_bind, hcommit]
    refine Or.inr (Or.inr ⟨haccepted, hrefused, e, _, rfl, ?_⟩)
    exact LocalConnection.committed_rollback _

/-- A transaction that succeeds has published what its work came to from the triples that were
published before. One that fails has published nothing, unless its work succeeded and the store
accepted the commit, but then refused to switch autocommit back on: then the work is published. -/
theorem execute_whole (w : Work α) {t : Transaction LocalConnection}
    (hoffered : t.handle.connection.supportsTransactions = true)
    (hsupported : t.supported ≠ some false) (ha : t.handle.connection.InAutocommit) :
    let c := t.handle.connection
    let work := workOf w t
    let r := (execute w.act).on t
    let c' := r.2.handle.connection
    t.opened.handle.visible = c.committed ∧
      (∀ x, r.1 = .ok x →
        work.1 = .ok x ∧ c'.committed = work.2.visible ∧ c'.autoCommit = true) ∧
      ∀ e, r.1 = .error e →
        c'.committed = c.committed ∨
          (∃ x, work.1 = .ok x) ∧ work.2.connection.faults.commit = false ∧
            work.2.connection.faults.setAutoCommit = true ∧ c'.committed = work.2.visible := by
  dsimp only
  refine ⟨visible_opened ha, ?_⟩
  rcases t.handle.open_or_refuses with ⟨hopen, hconnection⟩ | hr
  · have ht : t.Ready := ⟨hopen, hconnection, hoffered, hsupported⟩
    rcases begin_cases ht ha with ⟨-, hbegin⟩ | ⟨-, e, hbegin⟩
    · -- It began; what follows depends on the outcome of the work.
      rcases hwork : workOf w t with ⟨e | x, h⟩
      · obtain ⟨e', t', hexecute, hcommitted⟩ := execute_of_failure ht ha hbegin hwork
        rw [hexecute]
        exact ⟨nofun, fun _ _ => Or.inl hcommitted⟩
      · -- The work succeeded, and the commit and the switch decide.
        rcases execute_of_success ht ha hbegin hwork with
          ⟨-, -, t', hexecute, hauto, hcommitted⟩ | ⟨-, e, t', hexecute, hcommitted⟩ |
          ⟨haccepted, hrefused, e, t', hexecute, hcommitted⟩
        · rw [hexecute]
          refine ⟨fun y hy => ?_, nofun⟩
          cases hy
          exact ⟨rfl, hcommitted, hauto.autoCommit⟩
        · rw [hexecute]
          exact ⟨nofun, fun _ _ => Or.inl hcommitted⟩
        · -- This is the failure that has published the work.
          rw [hexecute]
          exact ⟨nofun, fun _ _ => Or.inr ⟨⟨x, rfl⟩, haccepted, hrefused, hcommitted⟩⟩
    · -- The switch was refused: the rollback that follows finds nothing to discard.
      rw [execute_of_error hbegin]
      refine ⟨nofun, fun _ _ => Or.inl ?_⟩
      exact LocalConnection.committed_rollback _
  · -- A closed handle or connection does not begin.
    obtain ⟨e, hbegin⟩ := begin_of_refuses hr
    rw [execute_of_error hbegin]
    exact ⟨nofun, fun _ _ => Or.inl rfl⟩

/-- Work that adds a triple, after which other calls are to fail. -/
def addThenFault (faults : Faults) : Work Unit :=
  .operate (.write .add Handle.sample) fun _ => .fault faults (.done (.ok ()))

open Operation (newTransaction)

/-- The work adds its triple and then changes the faults, on a new store. -/
theorem workOf_addThenFault (faults : Faults) :
    ∃ h, workOf (addThenFault faults) newTransaction = (.ok (), h) ∧
      h.connection.faults = faults ∧ h.visible.contains "urn:g" Handle.sample = true := by
  have hs : newTransaction.opened.handle.Serves := ⟨rfl, rfl, rfl⟩
  obtain ⟨e, he⟩ : ∃ e, Handle.sample.encode = .ok e := ⟨_, rfl⟩
  let h := (newTransaction.opened.handle.written .add Handle.sample e).notify
    (.added "urn:g" [Handle.sample])
  have hadd : (Handle.add Handle.sample).on newTransaction.opened.handle = (.ok (), h) :=
    Handle.sendOne_tell_of_accepts hs.accepts he _
  have hact : (Operation.write .add Handle.sample).act.on newTransaction.opened.handle =
      (.ok .done, h) := by
    rw [Operation.act, Attempt.on_bind, hadd]
    rfl
  have hvisible : h.visible = (WriteKind.change .add "urn:g" Handle.sample.stored).apply
      newTransaction.opened.handle.visible := Handle.visible_written .add Handle.sample e
  refine ⟨{ h with connection := { h.connection with faults } }, ?_, rfl, ?_⟩
  · rw [workOf, addThenFault, Work.act, Attempt.on_bind, Attempt.on_outcome, hact]
    rfl
  · show h.visible.contains "urn:g" Handle.sample = true
    rw [hvisible]
    exact QuadStore.contains_insert.2 (Or.inl ⟨rfl, rfl⟩)

theorem ready_newTransaction : newTransaction.Ready := ⟨rfl, rfl, rfl, nofun⟩

theorem inAutocommit_newTransaction : newTransaction.handle.connection.InAutocommit := ⟨rfl, rfl⟩

theorem begin_newTransaction : begin.on newTransaction = (.ok (), newTransaction.opened) := by
  rcases begin_cases ready_newTransaction inAutocommit_newTransaction with
    ⟨-, hbegin⟩ | ⟨hrefused, -⟩
  · exact hbegin
  · cases hrefused

theorem execute_whole_committed :
    newTransaction.handle.connection.supportsTransactions = true ∧
      newTransaction.supported ≠ some false ∧ newTransaction.handle.connection.InAutocommit ∧
      ∃ t', (execute (addThenFault {}).act).on newTransaction = (.ok (), t') ∧
        t'.handle.connection.autoCommit = true ∧
        t'.handle.connection.committed.contains "urn:g" Handle.sample = true := by
  have ha := inAutocommit_newTransaction
  obtain ⟨h, hwork, hfaults, hcontains⟩ := workOf_addThenFault {}
  obtain ⟨-, hok, -⟩ := execute_whole (addThenFault {}) (t := newTransaction) rfl nofun ha
  refine ⟨rfl, nofun, ha, ?_⟩
  rcases execute_of_success ready_newTransaction ha begin_newTransaction hwork with
    ⟨-, -, t', hexecute, -⟩ | ⟨hrefused, -⟩ | ⟨-, hrefused, -⟩
  · -- No fault is left, so the first case is the one.
    rw [hexecute, hwork] at hok
    obtain ⟨-, hcommitted, hauto⟩ := hok () rfl
    exact ⟨t', hexecute, hauto, by rw [hcommitted]; exact hcontains⟩
  · rw [hfaults] at hrefused
    cases hrefused
  · rw [hfaults] at hrefused
    cases hrefused

/-- When the switch back to autocommit is refused, the transaction fails and its work is
published. -/
theorem not_execute_whole_refused :
    newTransaction.handle.connection.InAutocommit ∧
      newTransaction.handle.connection.committed.contains "urn:g" Handle.sample = false ∧
      ∃ e t', (execute (addThenFault { setAutoCommit := true }).act).on newTransaction =
          (.error e, t') ∧
        t'.handle.connection.committed.contains "urn:g" Handle.sample = true := by
  have ha := inAutocommit_newTransaction
  obtain ⟨h, hwork, hfaults, hcontains⟩ := workOf_addThenFault { setAutoCommit := true }
  refine ⟨ha, QuadStore.contains_empty _ _, ?_⟩
  rcases execute_of_success ready_newTransaction ha begin_newTransaction hwork with
    ⟨-, haccepted, -⟩ | ⟨hrefused, -⟩ | ⟨-, -, e, t', hexecute, hcommitted⟩
  · rw [hfaults] at haccepted
    cases haccepted
  · rw [hfaults] at hrefused
    cases hrefused
  · -- The commit was accepted and the switch was not.
    exact ⟨e, t', hexecute, hcommitted ▸ hcontains⟩

end Transaction

end QuadClient
