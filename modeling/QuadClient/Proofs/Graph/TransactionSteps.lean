import QuadClient.Graph.Transaction
import QuadClient.Proofs.Graph.Write
import QuadClient.Proofs.Local.Transactions

/-!
# Steps of a transaction

What a begin, a commit and an abort do to a connection, whatever calls the store refuses on the
way: how each of them ends, and what is published afterwards.
-/

namespace QuadClient

open Framed (frame inFrame)
open LocalConnection (InAutocommit Staged)

namespace Transaction

variable {t : Transaction LocalConnection} {s : QuadStore} {α : Type}

/-- The transaction with another connection in its handle. -/
def withConnection (c : LocalConnection) (t : Transaction LocalConnection) :
    Transaction LocalConnection :=
  { t with handle := { t.handle with connection := c } }

/-- On an open handle a step does to the connection what it does. -/
theorem onConnection_on_of_open {κ : Type} {t : Transaction κ} (hopen : t.handle.isClosed = false)
    (a : Attempt Error κ α) :
    (onConnection a).on t =
      ((a.on t.handle.connection).1,
        ⟨{ t.handle with connection := (a.on t.handle.connection).2 }, t.supported⟩) := by
  rw [onConnection, onHandle, Attempt.on_zoom, Handle.onConnection_of_open hopen]

theorem onConnection_of_open (hopen : t.handle.isClosed = false)
    (a : Attempt Error LocalConnection α) :
    (onConnection a).on t =
      ((a.on t.handle.connection).1, t.withConnection (a.on t.handle.connection).2) :=
  onConnection_on_of_open hopen a

theorem onConnection_of_closed {κ : Type} {t : Transaction κ} (hclosed : t.handle.isClosed = true)
    (a : Attempt Error κ α) : (onConnection a).on t = (.error .closed, t) := by
  rw [onConnection, onHandle, Attempt.on_zoom, Handle.onConnection_of_closed hclosed]

/-- A step that failed is followed by a rollback, which may be refused as well. -/
theorem failWith_on (hopen : t.handle.isClosed = false) (phase : Phase) (cause : CallError) :
    ∃ e, (failWith phase cause : TransactionAction LocalConnection α).on t =
      (.error e, t.withConnection (LocalConnection.rollback t.handle.connection).2) := by
  have hrollback : (Connection.rollback : Attempt CallError LocalConnection Unit).on
      t.handle.connection = LocalConnection.rollback t.handle.connection := rfl
  simp only [failWith, Attempt.on_bind, onConnection_of_open hopen, Attempt.on_outcome, hrollback]
  -- Both ways the cause is what is thrown, alone or with the refusal of the rollback.
  rcases LocalConnection.rollback t.handle.connection with ⟨e | x, c⟩
  · exact ⟨_, rfl⟩
  · exact ⟨_, rfl⟩

/-- The calls of a step succeed together, or a rollback follows the first failure. -/
theorem guarded_cases (hopen : t.handle.isClosed = false) (phase : Phase)
    {calls : Attempt CallError LocalConnection Unit} {r : Except CallError Unit}
    {c : LocalConnection} (hcalls : calls.on t.handle.connection = (r, c)) :
    (r = .ok () ∧ (guarded phase calls).on t = (.ok (), t.withConnection c)) ∨
      (∃ cause, r = .error cause) ∧ ∃ e, (guarded phase calls).on t =
        (.error e, t.withConnection (LocalConnection.rollback c).2) := by
  simp only [guarded, Attempt.on_bind, onConnection_of_open hopen, Attempt.on_outcome, hcalls]
  cases r with
  | ok => exact Or.inl ⟨rfl, rfl⟩
  -- The first failure ends the calls where they are, and the rollback starts from there.
  | error cause =>
    obtain ⟨e, hfail⟩ := failWith_on (t := t.withConnection c) (α := Unit) hopen phase cause
    exact Or.inr ⟨⟨cause, rfl⟩, e, hfail⟩

/-- A step may be taken: the handle and its connection are open, and the store offers
transactions. -/
structure Ready (t : Transaction LocalConnection) : Prop where
  isOpen : t.handle.isClosed = false
  connection : t.handle.connection.isClosed = false
  offered : t.handle.connection.supportsTransactions = true
  supported : t.supported ≠ some false

/-- The transaction once the store was asked whether it offers transactions, and does. -/
def admitted (t : Transaction LocalConnection) : Transaction LocalConnection :=
  { t with supported := some true }

/-- A ready transaction passes the check, and knows from then on that transactions are offered. -/
theorem require_of_ready (ht : t.Ready) (name : String) :
    (require name : TransactionAction LocalConnection Unit).on t = (.ok (), t.admitted) := by
  -- Either it was asked before, or the store is asked now and says yes.
  obtain ⟨handle, supported⟩ := t
  cases supported with
  | some b =>
    cases b with
    | true => rfl
    | false => exact absurd rfl ht.supported
  | none =>
    have hask : (Connection.supportsTransactions : Attempt CallError LocalConnection Bool).on
        handle.connection = (.ok true, handle.connection) := by
      rw [← ht.offered]
      exact LocalConnection.whenOpen_of_open ht.connection
    have hopen : handle.isClosed = false := ht.isOpen
    simp only [require, supportsTransactions, Attempt.on_bind, Attempt.on_get,
      onConnection_of_open (t := ⟨handle, none⟩) hopen, Attempt.on_mapError, hask]
    rfl

/-! ### The calls of the steps -/

/-- A connection that shows committed work of others. -/
def reading (c : LocalConnection) : LocalConnection :=
  { c with isolation := .readCommitted }

/-- The calls that open a transaction. -/
def opening : Attempt CallError LocalConnection Unit := do
  if (← Connection.isolation) ≠ .readCommitted then Connection.setIsolation .readCommitted
  if ← Connection.autoCommit then Connection.setAutoCommit false

/-- The calls that publish the open work and end the transaction. -/
def closing : Attempt CallError LocalConnection Unit := do
  Connection.commit
  Connection.setAutoCommit true

variable {c : LocalConnection}

/-- The frame of a connection once a transaction was begun on it. -/
def openFrame (c : LocalConnection) : Frame :=
  (reading c).stagingFrame

/-- In autocommit, to begin is to change the frame: the working copy starts as what is
published. -/
theorem begun_reading (ha : c.InAutocommit) : (reading c).begun = inFrame (openFrame c) c := by
  have hreading : (reading c).InAutocommit := ⟨ha.autoCommit, ha.working⟩
  rw [hreading.begun_eq]
  rfl

/-- The calls that open a transaction set the isolation level and switch autocommit off. -/
theorem opening_on (hopen : c.isClosed = false) (ha : c.InAutocommit) :
    opening.on c =
      if c.faults.setAutoCommit then
        (.error (.transaction "autocommit toggle refused"), reading c)
      else (.ok (), (reading c).begun) := by
  have hisolation : (Connection.isolation : Attempt CallError LocalConnection Isolation).on c =
      (.ok c.isolation, c) := LocalConnection.whenOpen_of_open hopen
  have hset : (Connection.setIsolation .readCommitted).on c = (.ok (), reading c) := by
    show LocalConnection.whenOpen (fun c => (.ok (), reading c)) c = _
    rw [LocalConnection.whenOpen_of_open hopen]
  have hauto : (Connection.autoCommit : Attempt CallError LocalConnection Bool).on (reading c) =
      (.ok true, reading c) := by
    rw [← ha.autoCommit]
    exact LocalConnection.whenOpen_of_open hopen
  have htoggle : (Connection.setAutoCommit false).on (reading c) =
      LocalConnection.setAutoCommit false (reading c) := rfl
  -- The level comes first, so the switch is asked of the connection that has it.
  have hreading : (reading c).InAutocommit := ⟨ha.autoCommit, ha.working⟩
  have hopen' : (reading c).isClosed = false := hopen
  simp only [opening, Attempt.on_bind, hisolation]
  split
  · simp only [Attempt.on_bind, hset, hauto, if_true, htoggle, hreading.setAutoCommit_false hopen']
    rfl
  · next hlevel =>
    -- The level is right already and is not set again.
    have hsame : reading c = c := by
      obtain ⟨_, _, _, isolation⟩ := c
      obtain rfl : isolation = .readCommitted := not_not.1 hlevel
      rfl
    rw [hsame] at hauto htoggle
    simp only [Attempt.on_bind, hauto, if_true, htoggle,
      ha.setAutoCommit_false hopen, hsame]

/-- The calls that close a transaction fail at the commit, fail at the switch behind it, or
succeed. -/
theorem closing_on (hs : c.Staged s) :
    closing.on c =
      if c.faults.commit then (.error (.transaction "commit refused by store"), c)
      else if c.faults.setAutoCommit then
        (.error (.transaction "autocommit toggle refused"), c.published)
      else (.ok (), c.published.ended) := by
  have hcommit : (Connection.commit : Attempt CallError LocalConnection Unit).on c =
      LocalConnection.commit c := rfl
  have htoggle : (Connection.setAutoCommit true).on c.published =
      LocalConnection.setAutoCommit true c.published := rfl
  -- The commit is the first of the two, and a failure of it leaves the switch alone.
  simp only [closing, Attempt.on_bind, hcommit, LocalConnection.commit_of_open hs.isOpen]
  cases hfault : c.faults.commit with
  | true => rfl
  | false =>
    simp only [Bool.false_eq_true, if_false, htoggle, hs.published.setAutoCommit_true]
    rfl

/-! ### The steps -/

/-- The transaction once it was begun. -/
def opened (t : Transaction LocalConnection) : Transaction LocalConnection :=
  t.admitted.withConnection (inFrame (openFrame t.handle.connection) t.handle.connection)

/-- What is staged at the beginning of a transaction stands over what was published before. -/
theorem staged_opened (ht : t.Ready) (ha : t.handle.connection.InAutocommit) :
    t.opened.handle.connection.Staged t.handle.connection.committed := by
  show (inFrame (openFrame t.handle.connection) t.handle.connection).Staged _
  rw [← begun_reading ha]
  exact Staged.begun (c := reading t.handle.connection) ht.connection

theorem ready_opened (ht : t.Ready) : t.opened.Ready :=
  ⟨ht.isOpen, ht.connection, ht.offered, nofun⟩

/-- A transaction is ready for its next step once work that keeps the frame of the
connection and the profile of the handle was done. -/
theorem Ready.of_frame (ht : t.Ready) {t' : Transaction LocalConnection}
    (hframe : frame t'.handle.connection = frame t.handle.connection)
    (hopen : t'.handle.isClosed = t.handle.isClosed) (hsupported : t'.supported = t.supported) :
    t'.Ready :=
  ⟨hopen.trans ht.isOpen, (congrArg Frame.isClosed hframe).trans ht.connection,
    (congrArg Frame.supportsTransactions hframe).trans ht.offered, hsupported ▸ ht.supported⟩

/-- A transaction begins, or the switch is refused and nothing is staged. -/
theorem begin_cases (ht : t.Ready) (ha : t.handle.connection.InAutocommit) :
    let c := t.handle.connection
    (c.faults.setAutoCommit = false ∧
      begin.on t = (.ok (), t.opened)) ∨
      c.faults.setAutoCommit = true ∧ ∃ e, begin.on t =
        (.error e, t.admitted.withConnection (LocalConnection.rollback (reading c)).2) := by
  intro c
  have hbegin : begin.on t = (guarded .begin opening).on t.admitted := by
    rw [begin, Attempt.on_bind, require_of_ready ht]
    rfl
  have hopening := opening_on ht.connection ha
  rw [hbegin]
  -- The opening calls say whether the switch was refused, and the guard rolls back if it was.
  split at hopening
  · next htoggle =>
    rcases guarded_cases (t := t.admitted) ht.isOpen .begin hopening with ⟨hr, -⟩ | ⟨-, hfail⟩
    · cases hr
    · exact Or.inr ⟨htoggle, hfail⟩
  · next htoggle =>
    rcases guarded_cases (t := t.admitted) ht.isOpen .begin hopening with ⟨-, hok⟩ | ⟨⟨_, hr⟩, -⟩
    · rw [begun_reading ha] at hok
      exact Or.inl ⟨Bool.eq_false_iff.2 htoggle, hok⟩
    · cases hr

/-- A call that a closed connection refuses is refused by a closed handle as well. -/
theorem onConnection_of_refuses (hr : t.handle.Refuses) {a : Attempt Error LocalConnection α}
    (ha : t.handle.connection.isClosed = true →
      ∃ e, a.on t.handle.connection = (.error e, t.handle.connection)) :
    ∃ e, (onConnection a).on t = (.error e, t) := by
  obtain ⟨e, he⟩ := Handle.onConnection_of_fails hr ha
  rw [onConnection, onHandle, Attempt.on_zoom, he]
  exact ⟨e, rfl⟩

/-- The calls of a step are refused on a closed handle, if a closed connection refuses them. -/
theorem guarded_of_refuses (hr : t.handle.Refuses) (phase : Phase)
    {calls : Attempt CallError LocalConnection Unit}
    (hcalls : t.handle.connection.isClosed = true →
      calls.on t.handle.connection = (.error .closed, t.handle.connection)) :
    ∃ e, (guarded phase calls).on t = (.error e, t) := by
  -- The handle may be closed, so that the connection is not asked, or the connection is.
  by_cases hclosed : t.handle.isClosed = true
  · simp only [guarded, Attempt.on_bind, onConnection_of_closed hclosed]
    exact ⟨_, rfl⟩
  · have hconnection := hr.resolve_left hclosed
    rcases guarded_cases (Bool.eq_false_iff.2 hclosed) phase (hcalls hconnection) with
      ⟨hr, -⟩ | ⟨-, e, he⟩
    · cases hr
    · rw [LocalConnection.rollback, LocalConnection.whenOpen_of_closed hconnection] at he
      exact ⟨e, he⟩

/-- A store that cannot be asked leaves a step to what was learned before. -/
theorem require_of_refuses (hr : t.handle.Refuses) (name : String) :
    (require name : TransactionAction LocalConnection Unit).on t = (.ok (), t) ∨
      ∃ e, (require name : TransactionAction LocalConnection Unit).on t = (.error e, t) := by
  obtain ⟨handle, supported⟩ := t
  match supported with
  -- What was learned before is not asked again, on a closed connection either.
  | some true => exact Or.inl rfl
  | some false => exact Or.inr ⟨_, rfl⟩
  | none =>
    have hask : handle.connection.isClosed = true → ∃ e,
        (Attempt.mapError (.transaction .begin) Connection.supportsTransactions :
          Attempt Error LocalConnection Bool).on handle.connection =
            (.error e, handle.connection) := by
      intro hclosed
      have hcall : (Connection.supportsTransactions : Attempt CallError LocalConnection Bool).on
          handle.connection = (.error .closed, handle.connection) :=
        LocalConnection.whenOpen_of_closed hclosed
      rw [Attempt.on_mapError, hcall]
      exact ⟨_, rfl⟩
    obtain ⟨e, he⟩ := onConnection_of_refuses (t := ⟨handle, none⟩) hr hask
    refine Or.inr ⟨e, ?_⟩
    simp only [require, supportsTransactions, Attempt.on_bind, Attempt.on_get, he]

/-- On a closed handle or a closed connection no transaction begins. -/
theorem begin_of_refuses (hr : t.handle.Refuses) : ∃ e, begin.on t = (.error e, t) := by
  have hopening : t.handle.connection.isClosed = true →
      opening.on t.handle.connection = (.error .closed, t.handle.connection) := by
    intro hclosed
    have hisolation : (Connection.isolation : Attempt CallError LocalConnection Isolation).on
        t.handle.connection = (.error .closed, t.handle.connection) :=
      LocalConnection.whenOpen_of_closed hclosed
    simp only [opening, Attempt.on_bind, hisolation]
  rw [begin, Attempt.on_bind]
  rcases require_of_refuses hr "begin transaction" with hrequire | ⟨e, hrequire⟩
  · rw [hrequire]
    exact guarded_of_refuses hr .begin hopening
  · rw [hrequire]
    exact ⟨e, rfl⟩

/-- Open work is published and the transaction ends, unless the commit or the switch is refused.
A switch that is refused comes too late for the rollback. -/
theorem guarded_closing (hopen : t.handle.isClosed = false) (hs : t.handle.connection.Staged s)
    (phase : Phase) :
    let c := t.handle.connection
    (c.faults.commit = false ∧ c.faults.setAutoCommit = false ∧
      (guarded phase closing).on t = (.ok (), t.withConnection c.published.ended)) ∨
      (c.faults.commit = true ∧ ∃ e, (guarded phase closing).on t =
        (.error e, t.withConnection (LocalConnection.rollback c).2)) ∨
      (c.faults.commit = false ∧ c.faults.setAutoCommit = true ∧ ∃ e,
        (guarded phase closing).on t =
          (.error e, t.withConnection (LocalConnection.rollback c.published).2)) := by
  intro c
  -- Two calls can fail, and what the rollback finds depends on which one it was.
  have hclosing := closing_on hs
  split at hclosing
  · next hrefused =>
    -- The commit was refused: all the work is still there to be discarded.
    rcases guarded_cases hopen phase hclosing with ⟨hr, -⟩ | ⟨-, hfail⟩
    · cases hr
    · exact Or.inr (Or.inl ⟨hrefused, hfail⟩)
  · next haccepted =>
    have haccepted : c.faults.commit = false := Bool.eq_false_iff.2 haccepted
    split at hclosing
    · next htoggle =>
      -- The work was published before the failure, so the rollback finds nothing of it.
      rcases guarded_cases hopen phase hclosing with ⟨hr, -⟩ | ⟨-, hfail⟩
      · cases hr
      · exact Or.inr (Or.inr ⟨haccepted, htoggle, hfail⟩)
    · next htoggle =>
      rcases guarded_cases hopen phase hclosing with ⟨-, hok⟩ | ⟨⟨_, hr⟩, -⟩
      · exact Or.inl ⟨haccepted, Bool.eq_false_iff.2 htoggle, hok⟩
      · cases hr

/-- A commit is the closing calls under the guard of its phase. -/
theorem commit_on (ht : t.Ready) : commit.on t = (guarded .commit closing).on t.admitted := by
  rw [commit, Attempt.on_bind, require_of_ready ht]
  rfl

/-- An abort rolls back first; only a rollback that succeeds is followed by the closing calls. -/
theorem abort_on (ht : t.Ready) :
    abort.on t =
      match LocalConnection.rollback t.handle.connection with
      | (.ok (), c) => (guarded .abort closing).on (t.admitted.withConnection c)
      | (.error e, c) => (.error (.transaction .rollback e), t.admitted.withConnection c) := by
  have hopen : t.admitted.handle.isClosed = false := ht.isOpen
  have hrollback : (Connection.rollback : Attempt CallError LocalConnection Unit).on
      t.admitted.handle.connection = LocalConnection.rollback t.handle.connection := rfl
  rw [abort, Attempt.on_bind, require_of_ready ht]
  simp only [Attempt.on_bind, onConnection_of_open hopen, Attempt.on_mapError, hrollback]
  rcases LocalConnection.rollback t.handle.connection with ⟨e | x, c⟩
  · rfl
  · rfl

/-- The open work is published and the transaction ends, unless the commit or the switch is
refused. -/
theorem commit_cases (ht : t.Ready) (hs : t.handle.connection.Staged s) :
    let c := t.handle.connection
    (c.faults.commit = false ∧ c.faults.setAutoCommit = false ∧
      commit.on t = (.ok (), t.admitted.withConnection c.published.ended)) ∨
      (c.faults.commit = true ∧ ∃ e, commit.on t =
        (.error e, t.admitted.withConnection (LocalConnection.rollback c).2)) ∨
      (c.faults.commit = false ∧ c.faults.setAutoCommit = true ∧ ∃ e, commit.on t =
        (.error e, t.admitted.withConnection (LocalConnection.rollback c.published).2)) := by
  rw [commit_on ht]
  exact guarded_closing (t := t.admitted) ht.isOpen hs .commit

/-- An abort that completes has left the transaction and is back in autocommit. Whatever it comes
to, nothing of the open work is published. -/
theorem abort_cases (ht : t.Ready) (hs : t.handle.connection.Staged s) :
    let faults := t.handle.connection.faults
    ∃ r c, abort.on t = (r, t.admitted.withConnection c) ∧ c.committed = s ∧
      (r = .ok () → c.InAutocommit) ∧
      (faults.rollback = false → faults.commit = false → faults.setAutoCommit = false →
        r = .ok ()) := by
  intro faults
  rw [abort_on ht, LocalConnection.rollback_of_open ht.connection]
  cases hrollback : t.handle.connection.faults.rollback with
  -- The rollback was refused: the work stays staged, and nothing of it is published.
  | true => exact ⟨_, _, rfl, hs.committed, nofun, nofun⟩
  | false =>
    -- From here on there is nothing to publish but what was published before.
    have hvisible : t.handle.connection.discarded.visible = s := by
      rw [LocalConnection.visible_discarded, hs.committed]
    rcases guarded_closing (t := t.admitted.withConnection t.handle.connection.discarded) ht.isOpen
        hs.discarded .abort with
      ⟨-, -, hok⟩ | ⟨hrefused, e, hfail⟩ | ⟨-, hrefused, e, hfail⟩
    · refine ⟨_, _, hok, ?_, fun _ => InAutocommit.ended _, fun _ _ _ => rfl⟩
      exact hs.discarded.visible_published.trans hvisible
    · -- The commit of nothing was refused.
      refine ⟨_, _, hfail, ?_, nofun, fun _ haccepted => ?_⟩
      · exact (LocalConnection.committed_rollback _).trans hs.committed
      · exact absurd (haccepted.symm.trans hrefused) Bool.false_ne_true
    · -- The switch was refused, after a commit of what was published before.
      refine ⟨_, _, hfail, ?_, nofun, fun _ _ haccepted => ?_⟩
      · exact (LocalConnection.committed_rollback _).trans hvisible
      · exact absurd (haccepted.symm.trans hrefused) Bool.false_ne_true

/-- On a closed connection the first of the closing calls fails. -/
theorem closing_of_closed (hclosed : c.isClosed = true) : closing.on c = (.error .closed, c) := by
  have hcommit : (Connection.commit : Attempt CallError LocalConnection Unit).on c =
      (.error .closed, c) := by
    show LocalConnection.commit c = _
    rw [LocalConnection.commit, LocalConnection.whenOpen_of_closed hclosed]
  simp only [closing, Attempt.on_bind, hcommit]

/-- On a closed handle or a closed connection nothing is published. -/
theorem commit_of_refuses (hr : t.handle.Refuses) : ∃ e, commit.on t = (.error e, t) := by
  rw [commit, Attempt.on_bind]
  rcases require_of_refuses hr "commit transaction" with hrequire | ⟨e, hrequire⟩
  · rw [hrequire]
    exact guarded_of_refuses hr .commit closing_of_closed
  · rw [hrequire]
    exact ⟨e, rfl⟩

/-- On a closed handle or a closed connection nothing is discarded. -/
theorem abort_of_refuses (hr : t.handle.Refuses) : ∃ e, abort.on t = (.error e, t) := by
  have hrollback : t.handle.connection.isClosed = true → ∃ e,
      (Attempt.mapError (.transaction .rollback) Connection.rollback :
        Attempt Error LocalConnection Unit).on t.handle.connection =
          (.error e, t.handle.connection) := by
    intro hclosed
    have hcall : (Connection.rollback : Attempt CallError LocalConnection Unit).on
        t.handle.connection = (.error .closed, t.handle.connection) := by
      show LocalConnection.rollback t.handle.connection = _
      rw [LocalConnection.rollback, LocalConnection.whenOpen_of_closed hclosed]
    rw [Attempt.on_mapError, hcall]
    exact ⟨_, rfl⟩
  -- The check comes first, and the rollback behind it is refused as well.
  rw [abort, Attempt.on_bind]
  rcases require_of_refuses hr "abort transaction" with hrequire | ⟨e, hrequire⟩
  · obtain ⟨e, he⟩ := onConnection_of_refuses hr hrollback
    simp only [hrequire, Attempt.on_bind, he]
    exact ⟨e, rfl⟩
  · rw [hrequire]
    exact ⟨e, rfl⟩

/-! ### Without faults -/

/-- Nothing but a transaction tells the connection from one in autocommit mode. -/
def Steady (c : LocalConnection) : Prop :=
  c.InAutocommit ∨ ∃ s, c.Staged s

/-- No transaction is open any more, and these triples are published. -/
structure SettledAs (s : QuadStore) (c c' : LocalConnection) : Prop where
  serves : c'.Serves
  auto : c'.InAutocommit
  committed : c'.committed = s
  offered : c'.supportsTransactions = c.supportsTransactions

/-- What is published where no transaction is open was published before. -/
theorem closing_settles (hc : c.Serves) (hsteady : Steady c) :
    ∃ c', closing.on c = (.ok (), c') ∧ SettledAs c.visible c c' := by
  have hfaults := hc.faults
  -- In autocommit both calls do nothing; inside of a transaction they end it.
  rcases hsteady with ha | ⟨s, hs⟩
  · have hcommit : (Connection.commit : Attempt CallError LocalConnection Unit).on c =
        (.ok (), c.published) := by
      show LocalConnection.commit c = _
      rw [LocalConnection.commit_of_open hc.isOpen, hfaults]
      rfl
    have htoggle : (Connection.setAutoCommit true).on c.published = (.ok (), c.published) := by
      have hopen : c.published.isClosed = false := hc.isOpen
      have hauto : c.published.autoCommit = true := ha.autoCommit
      have hfaults' : c.published.faults = {} := hfaults
      show LocalConnection.setAutoCommit true c.published = _
      rw [LocalConnection.setAutoCommit_of_open true hopen, hauto, hfaults']
      rfl
    refine ⟨c.published, ?_, ⟨hfaults, hc.isOpen⟩, ⟨ha.autoCommit, ha.working⟩, rfl, rfl⟩
    simp only [closing, Attempt.on_bind, hcommit, htoggle]
  · refine ⟨c.published.ended, ?_, ⟨hfaults, hc.isOpen⟩, InAutocommit.ended _,
      hs.visible_published, rfl⟩
    rw [closing_on hs, hfaults]
    rfl

/-- A transaction is open after a begin, whether one was open before or not. -/
theorem begin_stages (ht : t.Ready) (hc : t.handle.connection.Serves)
    (hsteady : Steady t.handle.connection) :
    ∃ c', begin.on t = (.ok (), t.admitted.withConnection c') ∧ c'.Serves ∧
      c'.Staged t.handle.connection.committed ∧ c'.visible = t.handle.connection.visible ∧
      c'.supportsTransactions = t.handle.connection.supportsTransactions := by
  -- There may be a transaction already, in which case only the level can change.
  rcases hsteady with ha | ⟨s, hs⟩
  · rcases begin_cases ht ha with ⟨-, hbegin⟩ | ⟨hrefused, -⟩
    · exact ⟨_, hbegin, ⟨hc.faults, hc.isOpen⟩, staged_opened ht ha,
        LocalConnection.visible_inFrame _ _, rfl⟩
    · rw [hc.faults] at hrefused
      cases hrefused
  · have hisolation : (Connection.isolation : Attempt CallError LocalConnection Isolation).on
        t.handle.connection = (.ok t.handle.connection.isolation, t.handle.connection) :=
      LocalConnection.whenOpen_of_open hc.isOpen
    have hset : (Connection.setIsolation .readCommitted).on t.handle.connection =
        (.ok (), reading t.handle.connection) := by
      show LocalConnection.whenOpen (fun c => (.ok (), reading c)) t.handle.connection = _
      rw [LocalConnection.whenOpen_of_open hc.isOpen]
    have hauto {c : LocalConnection} (hopen : c.isClosed = false) (hoff : c.autoCommit = false) :
        (Connection.autoCommit : Attempt CallError LocalConnection Bool).on c = (.ok false, c) := by
      rw [← hoff]
      exact LocalConnection.whenOpen_of_open hopen
    -- The level is set or was right, and the switch stands where it is to stand.
    have hopening : ∃ c', opening.on t.handle.connection = (.ok (), c') ∧
        (c' = t.handle.connection ∨ c' = reading t.handle.connection) := by
      simp only [opening, Attempt.on_bind, hisolation]
      split
      · refine ⟨reading t.handle.connection, ?_, Or.inr rfl⟩
        simp only [Attempt.on_bind, hset,
          hauto (c := reading t.handle.connection) hc.isOpen hs.autoCommit]
        rfl
      · refine ⟨t.handle.connection, ?_, Or.inl rfl⟩
        simp only [Attempt.on_bind, hauto hc.isOpen hs.autoCommit]
        rfl
    obtain ⟨c', hrun, hsame⟩ := hopening
    have hbegin : begin.on t = (guarded .begin opening).on t.admitted := by
      rw [begin, Attempt.on_bind, require_of_ready ht]
      rfl
    have hdone : (guarded .begin opening).on t.admitted =
        (.ok (), t.admitted.withConnection c') := by
      rcases guarded_cases (t := t.admitted) ht.isOpen .begin hrun with ⟨-, hok⟩ | ⟨⟨_, hr⟩, -⟩
      · exact hok
      · -- The calls were seen to succeed, so no rollback follows.
        cases hr
    refine ⟨c', hbegin.trans hdone, ?_⟩
    rw [← hs.committed] at hs
    rcases hsame with rfl | rfl
    · exact ⟨hc, hs, rfl, rfl⟩
    · exact ⟨⟨hc.faults, hc.isOpen⟩, ⟨hs.isOpen, hs.autoCommit, hs.working, hs.committed⟩, rfl, rfl⟩

/-- Without faults the guard has nothing to do, and the closing calls settle the connection. -/
theorem guarded_closing_settles (hopen : t.handle.isClosed = false)
    (hc : t.handle.connection.Serves) (hsteady : Steady t.handle.connection) (phase : Phase) :
    ∃ c', (guarded phase closing).on t = (.ok (), t.withConnection c') ∧
      SettledAs t.handle.connection.visible t.handle.connection c' := by
  obtain ⟨c', hrun, hsettled⟩ := closing_settles hc hsteady
  rcases guarded_cases hopen phase hrun with ⟨-, hok⟩ | ⟨⟨_, hr⟩, -⟩
  · exact ⟨c', hok, hsettled⟩
  · cases hr

/-- A commit publishes what is seen. -/
theorem commit_settles (ht : t.Ready) (hc : t.handle.connection.Serves)
    (hsteady : Steady t.handle.connection) :
    ∃ c', commit.on t = (.ok (), t.admitted.withConnection c') ∧
      SettledAs t.handle.connection.visible t.handle.connection c' := by
  rw [commit_on ht]
  exact guarded_closing_settles (t := t.admitted) ht.isOpen hc hsteady .commit

/-- An abort goes back to what is published. -/
theorem abort_settles (ht : t.Ready) (hc : t.handle.connection.Serves)
    (hsteady : Steady t.handle.connection) :
    ∃ c', abort.on t = (.ok (), t.admitted.withConnection c') ∧
      SettledAs t.handle.connection.committed t.handle.connection c' := by
  -- A rollback leaves the connection as steady as it was: in autocommit it discards nothing.
  have hsteady' : Steady t.handle.connection.discarded := by
    rcases hsteady with ha | ⟨s, hs⟩
    · refine Or.inl ⟨ha.autoCommit, ?_⟩
      show t.handle.connection.working.map _ = none
      rw [ha.working]
      rfl
    · exact Or.inr ⟨s, hs.discarded⟩
  obtain ⟨c', hrun, hsettled⟩ := guarded_closing_settles
    (t := t.admitted.withConnection t.handle.connection.discarded) ht.isOpen
    ⟨hc.faults, hc.isOpen⟩ hsteady' .abort
  have hrollback : LocalConnection.rollback t.handle.connection =
      (.ok (), t.handle.connection.discarded) := by
    rw [LocalConnection.rollback_of_open hc.isOpen, hc.faults]
    rfl
  refine ⟨c', ?_, hsettled.serves, hsettled.auto, ?_, hsettled.offered⟩
  · rw [abort_on ht, hrollback]
    exact hrun
  · -- What is published is what the rollback left to be seen.
    exact hsettled.committed.trans (LocalConnection.visible_discarded _)

end Transaction

end QuadClient
