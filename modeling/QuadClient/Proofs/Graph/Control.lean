import QuadClient.Proofs.Graph.Journal

/-!
# Steps of transactions in the journal

A begin, a commit and an abort tell the listeners nothing. On a store without faults they are
entered where they are taken, and the ledger goes on to account for the store. Work inside of a
transaction of its own comes between two of these steps, and is entered between them.
-/

namespace QuadClient

open LocalConnection (InAutocommit Staged)

variable {α : Type} {graph : String} {m : Mirror} {l : Ledger} {h : Handle LocalConnection}

/-- What the control of transactions of a handle is asked for. -/
inductive Control where
  /-- a transaction is begun -/
  | begin
  /-- the open work is published -/
  | commit
  /-- the open work is discarded -/
  | abort

/-- The control of transactions on the handle. It asks whether the store offers any, unless it
has asked before. -/
def Handle.control (asked : Bool) (h : Handle LocalConnection) : Transaction LocalConnection :=
  ⟨h, if asked then some h.connection.supportsTransactions else none⟩

/-- What is done on the handle through the control of its transactions. -/
def Handle.through (asked : Bool) (a : TransactionAction LocalConnection α) :
    GraphAction LocalConnection α :=
  .of fun h =>
    let (r, t) := a.on (h.control asked)
    (r, t.handle)

theorem Handle.through_on (asked : Bool) (a : TransactionAction LocalConnection α)
    (h : Handle LocalConnection) :
    (through asked a).on h = ((a.on (h.control asked)).1, (a.on (h.control asked)).2.handle) :=
  rfl

namespace Control

/-- The step of a transaction. -/
def step : Control → TransactionAction LocalConnection Unit
  | begin => Transaction.begin
  | commit => Transaction.commit
  | abort => Transaction.abort

/-- The step on the handle. -/
def act (asked : Bool) (o : Control) : GraphAction LocalConnection Unit :=
  Handle.through asked o.step

/-- The entry of the step if it succeeds. -/
def entry : Control → Entry
  | begin => .opened
  | commit => .published
  | abort => .discarded

/-- The entries of the step. -/
def entries (asked : Bool) (o : Control) (h : Handle LocalConnection) : List Entry :=
  match ((o.act asked).on h).1 with
  | .ok _ => [o.entry]
  | .error _ => []

/-- How a transaction ends whose work came to this. -/
def ending : Except Error α → Control
  | .ok _ => commit
  | .error _ => abort

end Control

namespace Transaction

/-- A step on an open handle that meets no failure is ready if transactions are offered. -/
theorem ready_control (hs : h.Serves) (hoffered : h.connection.supportsTransactions = true)
    (asked : Bool) : (h.control asked).Ready := by
  refine ⟨hs.isOpen, hs.connection.isOpen, hoffered, ?_⟩
  -- If it was asked before, what was learned is that they are offered.
  cases asked with
  | true =>
    show some h.connection.supportsTransactions ≠ some false
    rw [hoffered]
    nofun
  | false => nofun

/-- No step is taken where the store offers no transactions. -/
theorem require_of_unoffered (hs : h.Serves)
    (hoffered : h.connection.supportsTransactions = false) (asked : Bool) (name : String) :
    (require name : TransactionAction LocalConnection Unit).on (h.control asked) =
      (.error (.unsupported name), h.control true) := by
  have hknown : h.control true = ⟨h, some false⟩ := by rw [Handle.control, if_pos rfl, hoffered]
  rw [hknown]
  -- It knows, or it asks the store and learns it now.
  cases asked with
  | true =>
    rw [hknown]
    rfl
  | false =>
    have hask : (Connection.supportsTransactions : Attempt CallError LocalConnection Bool).on
        h.connection = (.ok false, h.connection) := by
      rw [← hoffered]
      exact LocalConnection.whenOpen_of_open hs.connection.isOpen
    have hopen : h.isClosed = false := hs.isOpen
    show (require name : TransactionAction LocalConnection Unit).on ⟨h, none⟩ = _
    simp only [require, supportsTransactions, Attempt.on_bind, Attempt.on_get,
      onConnection_of_open (t := ⟨h, none⟩) hopen, Attempt.on_mapError, hask]
    rfl

end Transaction

namespace Control

variable {asked : Bool} {o : Control}

/-- A step that finds out that transactions are not offered is not taken. -/
theorem step_of_unoffered (hs : h.Serves) (hoffered : h.connection.supportsTransactions = false)
    (asked : Bool) (o : Control) :
    ∃ e, o.step.on (h.control asked) = (.error e, h.control true) := by
  have hrequire := Transaction.require_of_unoffered hs hoffered asked
  cases o with
  | begin =>
    refine ⟨.unsupported "begin transaction", ?_⟩
    rw [step, Transaction.begin, Attempt.on_bind, hrequire]
  | commit =>
    refine ⟨.unsupported "commit transaction", ?_⟩
    rw [step, Transaction.commit, Attempt.on_bind, hrequire]
  | abort =>
    refine ⟨.unsupported "abort transaction", ?_⟩
    rw [step, Transaction.abort, Attempt.on_bind, hrequire]

/-- The handle is left as it was then. -/
theorem act_of_unoffered (hs : h.Serves) (hoffered : h.connection.supportsTransactions = false)
    (asked : Bool) (o : Control) : ∃ e, (o.act asked).on h = (.error e, h) := by
  obtain ⟨e, he⟩ := step_of_unoffered hs hoffered asked o
  refine ⟨e, ?_⟩
  rw [act, Handle.through_on, he]
  rfl

/-- No step is taken on a closed handle. -/
theorem act_of_refuses (hr : h.Refuses) (asked : Bool) (o : Control) :
    ∃ e, (o.act asked).on h = (.error e, h) := by
  have hr' : (h.control asked).handle.Refuses := hr
  have hstep : ∃ e, o.step.on (h.control asked) = (.error e, h.control asked) := by
    cases o with
    | begin => exact Transaction.begin_of_refuses hr'
    | commit => exact Transaction.commit_of_refuses hr'
    | abort => exact Transaction.abort_of_refuses hr'
  obtain ⟨e, he⟩ := hstep
  refine ⟨e, ?_⟩
  rw [act, Handle.through_on, he]
  rfl

/-- A step that is taken leaves a connection that serves the handle as before, and what is in the
ledger accounts for it. -/
theorem act_of_offered (hl : l.Accounts graph m h)
    (hoffered : h.connection.supportsTransactions = true) (asked : Bool) (o : Control) :
    ∃ c, o.step.on (h.control asked) = (.ok (), (h.control asked).admitted.withConnection c) ∧
      c.supportsTransactions = h.connection.supportsTransactions ∧
      (l.enter o.entry).Accounts graph m { h with connection := c } := by
  have ht := Transaction.ready_control hl.serves hoffered asked
  have hconnection : (h.control asked).handle.connection.Serves := hl.serves.connection
  have hsteady : Transaction.Steady (h.control asked).handle.connection := hl.steady
  -- Each step leaves what its entry says, by what was shown of it without faults.
  cases o with
  | begin =>
    obtain ⟨c, hbegin, hserves, hstaged, hvisible, hsame⟩ :=
      Transaction.begin_stages ht hconnection hsteady
    have hcommitted : c.committed = h.connection.committed := hstaged.committed
    refine ⟨c, hbegin, hsame, ⟨hl.serves.isOpen, hserves⟩, hl.graphName, ?_, ?_, ?_⟩
    · -- What is published stays; what is seen is now seen in the transaction.
      show c.committed.contents = Event.replayAll l.settled m
      rw [hcommitted, hl.settled]
    · show c.visible.contents = Event.replayAll l.seen m
      rw [hvisible]
      exact hl.seen
    · show c.Staged c.committed
      rw [hcommitted]
      exact hstaged
  | commit =>
    obtain ⟨c, hcommit, hsettled⟩ := Transaction.commit_settles ht hconnection hsteady
    refine ⟨c, hcommit, hsettled.offered, ?_⟩
    refine Ledger.accounts_of_auto ⟨hl.serves.isOpen, hsettled.serves⟩ hl.graphName hsettled.auto ?_
    -- What was seen is published.
    show c.committed.contents = Event.replayAll l.seen m
    rw [hsettled.committed]
    exact hl.seen
  | abort =>
    obtain ⟨c, habort, hsettled⟩ := Transaction.abort_settles ht hconnection hsteady
    refine ⟨c, habort, hsettled.offered, ?_⟩
    refine Ledger.accounts_of_auto ⟨hl.serves.isOpen, hsettled.serves⟩ hl.graphName hsettled.auto ?_
    -- What was published is seen again.
    show c.committed.contents = Event.replayAll l.settled m
    rw [hsettled.committed]
    exact hl.settled

theorem act_of_step {c : LocalConnection}
    (hstep : o.step.on (h.control asked) =
      (.ok (), (h.control asked).admitted.withConnection c)) :
    (o.act asked).on h = (.ok (), { h with connection := c }) := by
  rw [act, Handle.through_on, hstep]
  rfl

theorem entries_of_offered (hl : l.Accounts graph m h)
    (hoffered : h.connection.supportsTransactions = true) (asked : Bool) (o : Control) :
    o.entries asked h = [o.entry] := by
  obtain ⟨c, hstep, -, -⟩ := act_of_offered hl hoffered asked o
  rw [entries, act_of_step hstep]

/-- A step of a transaction is entered if it is taken. -/
theorem entered (hl : l.Accounts graph m h) (asked : Bool) (o : Control) :
    Entered graph m (o.entries asked h) l h ((o.act asked).on h).2 := by
  cases hoffered : h.connection.supportsTransactions with
  -- no entry, and no change of the handle
  | false =>
    obtain ⟨e, hrun⟩ := act_of_unoffered hl.serves hoffered asked o
    have hentries : o.entries asked h = [] := by rw [entries, hrun]
    rw [hentries, hrun]
    exact .nil hl
  | true =>
    obtain ⟨c, hstep, hsame, haccounts⟩ := act_of_offered hl hoffered asked o
    -- The listeners are told nothing of a step.
    have hquiet : Entry.delivered [o.entry] = [] := by
      cases o with
      | begin => rfl
      | commit => rfl
      | abort => rfl
    rw [entries_of_offered hl hoffered, act_of_step hstep]
    refine ⟨haccounts, ?_, hsame⟩
    rw [hquiet]
    exact (Mailbox.map_receive_nil h.listeners).symm

/-- Work inside of a transaction of its own. -/
def execute (asked : Bool) (work : GraphAction LocalConnection α) :
    GraphAction LocalConnection α :=
  Handle.through asked (Transaction.execute work)

/-- Where the store offers no transactions no work is done. -/
theorem execute_of_unoffered (hs : h.Serves)
    (hoffered : h.connection.supportsTransactions = false) (asked : Bool)
    (work : GraphAction LocalConnection α) : ((execute asked work).on h).2 = h := by
  obtain ⟨e, he⟩ := step_of_unoffered hs hoffered asked begin
  rw [step] at he
  rw [execute, Handle.through_on, Transaction.execute, Attempt.on_bind, he]
  rfl

/-- A closed handle has no work done. -/
theorem execute_of_refuses (hr : h.Refuses) (asked : Bool)
    (work : GraphAction LocalConnection α) : ((execute asked work).on h).2 = h := by
  have hr' : (h.control asked).handle.Refuses := hr
  obtain ⟨e, he⟩ := Transaction.begin_of_refuses hr'
  rw [execute, Handle.through_on, Transaction.execute, Attempt.on_bind, he]
  rfl

/-- Work inside of a transaction of its own comes between a begin and a commit or an abort. -/
theorem execute_of_offered (hl : l.Accounts graph m h)
    (hoffered : h.connection.supportsTransactions = true) (asked : Bool)
    (work : GraphAction LocalConnection α)
    (hwork : (work.on ((begin.act asked).on h).2).2.connection.supportsTransactions = true) :
    let r := work.on ((begin.act asked).on h).2
    ((execute asked work).on h).2 = (((ending r.1).act true).on r.2).2 := by
  obtain ⟨c, hbegin, -, -⟩ := act_of_offered hl hoffered asked begin
  have hbegin' : Transaction.begin.on (h.control asked) =
      (.ok (), (h.control asked).admitted.withConnection c) := hbegin
  rw [act_of_step hbegin] at hwork ⊢
  show ((Transaction.execute work).on (h.control asked)).2.handle = _
  let outcome : GraphAction LocalConnection (Except Error α) := work.outcome
  have hdone : (Transaction.onHandle outcome).on
      ((h.control asked).admitted.withConnection c) =
        (.ok (work.on { h with connection := c }).1,
          ⟨(work.on { h with connection := c }).2, some true⟩) := rfl
  -- The begin was seen to succeed, so the work is done on the handle that it left.
  rw [Transaction.execute, Attempt.on_bind, hbegin']
  dsimp only
  rw [Attempt.on_bind, hdone]
  rcases hrun : work.on { h with connection := c } with ⟨r, h₂⟩
  rw [hrun] at hwork
  -- Since it began, the transaction knows that the store offers any.
  have hknown : h₂.control true = ⟨h₂, some true⟩ := by
    rw [Handle.control, if_pos rfl]
    exact congrArg (fun b => (⟨h₂, some b⟩ : Transaction LocalConnection)) hwork
  -- Either end is the step that the outcome of the work asks for, taken on what it left.
  cases r with
  | error e =>
    show _ = (Transaction.abort.on (h₂.control true)).2.handle
    rw [hknown]
    simp only [Attempt.on_bind, Attempt.on_outcome]
    rcases Transaction.abort.on (⟨h₂, some true⟩ : Transaction LocalConnection) with ⟨a | x, t⟩
    · rfl
    · rfl
  | ok x =>
    show _ = (Transaction.commit.on (h₂.control true)).2.handle
    rw [hknown]
    simp only [Attempt.on_bind]
    rcases Transaction.commit.on (⟨h₂, some true⟩ : Transaction LocalConnection) with ⟨a | x, t⟩
    · rfl
    · rfl

/-- The entries of work inside of a transaction of its own, from those of the work. -/
def around (asked : Bool) (work : GraphAction LocalConnection α) (inner : List Entry)
    (h : Handle LocalConnection) : List Entry :=
  let r := work.on ((begin.act asked).on h).2
  match ((begin.act asked).on h).1 with
  | .ok _ => begin.entries asked h ++ (inner ++ (ending r.1).entries true r.2)
  | .error _ => []

/-- Work inside of a transaction of its own is entered if its own entries are right wherever the
transaction begins. -/
theorem entered_execute (hl : l.Accounts graph m h) (asked : Bool)
    (work : GraphAction LocalConnection α) {inner : List Entry}
    (hinner : (l.enterAll (begin.entries asked h)).Accounts graph m ((begin.act asked).on h).2 →
      Entered graph m inner (l.enterAll (begin.entries asked h)) ((begin.act asked).on h).2
        (work.on ((begin.act asked).on h).2).2) :
    Entered graph m (around asked work inner h) l h ((execute asked work).on h).2 := by
  have hbegun := entered hl asked begin
  cases hoffered : h.connection.supportsTransactions with
  -- It does not begin, so there is nothing to enter.
  | false =>
    obtain ⟨e, hrun⟩ := act_of_unoffered hl.serves hoffered asked begin
    have hnone : around asked work inner h = [] := by simp only [around, hrun]
    rw [hnone, execute_of_unoffered hl.serves hoffered]
    exact .nil hl
  | true =>
    have hwork := hinner hbegun.accounts
    obtain ⟨c, hstep, -, -⟩ := act_of_offered hl hoffered asked begin
    have hrun := act_of_step hstep
    have hall : around asked work inner h = begin.entries asked h ++
        (inner ++ (ending (work.on ((begin.act asked).on h).2).1).entries true
          (work.on ((begin.act asked).on h).2).2) := by
      simp only [around, hrun]
    -- Work does not change what the store offers, so the end is taken as well.
    have hsame := (hwork.offered.trans hbegun.offered).trans hoffered
    rw [hall, execute_of_offered hl hoffered asked work hsame]
    -- the begin, the work, and the end
    exact hbegun.append (hwork.append (entered hwork.accounts true _))

end Control

end QuadClient
