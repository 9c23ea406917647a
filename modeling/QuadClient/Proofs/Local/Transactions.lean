import QuadClient.Proofs.Local.Frame

/-!
# Transactions of a connection

While autocommit is off, a working copy stands before the published triples, and nothing but a
commit, a switch back to autocommit or a watcher who seeds the store changes what is published.
This holds along any sequence of calls, whatever faults are shown in between.
-/

namespace QuadClient

open Framed (frame inFrame)
open Attempt (Confined)

namespace LocalConnection

variable {c : LocalConnection}

/-! ### The calls of a transaction -/

/-- The work of the open transaction is published; the transaction goes on. -/
def published (c : LocalConnection) : LocalConnection :=
  { c with committed := c.visible, commits := c.commits + 1 }

/-- The work of the open transaction is discarded; the transaction goes on. -/
def discarded (c : LocalConnection) : LocalConnection :=
  { c with working := c.working.map fun _ => c.committed, rollbacks := c.rollbacks + 1 }

/-- A transaction begins. -/
def begun (c : LocalConnection) : LocalConnection :=
  { c with working := some c.committed, autoCommit := false }

/-- The work of the open transaction is published, and the transaction is over. -/
def ended (c : LocalConnection) : LocalConnection :=
  { c with committed := c.visible, working := none, autoCommit := true }

/-- A commit is refused by a fault, or publishes what is staged. -/
theorem commit_of_open (h : c.isClosed = false) :
    commit c =
      if c.faults.commit then (.error (.transaction "commit refused by store"), c)
      else (.ok (), c.published) :=
  whenOpen_of_open h

/-- A rollback is refused by a fault, or discards what is staged. -/
theorem rollback_of_open (h : c.isClosed = false) :
    rollback c =
      if c.faults.rollback then (.error (.transaction "rollback refused by store"), c)
      else (.ok (), c.discarded) :=
  whenOpen_of_open h

/-- The switch is refused by a fault, stays where it is, or ends or begins a transaction. -/
theorem setAutoCommit_of_open (on : Bool) (h : c.isClosed = false) :
    setAutoCommit on c =
      if c.faults.setAutoCommit then (.error (.transaction "autocommit toggle refused"), c)
      else if on = c.autoCommit then (.ok (), c)
      else if on then (.ok (), c.ended)
      else (.ok (), c.begun) :=
  whenOpen_of_open h

/-- A commit that fails changes nothing. -/
theorem commit_cases (c : LocalConnection) :
    (∃ e, commit c = (.error e, c)) ∨ commit c = (.ok (), c.published) := by
  cases hopen : c.isClosed with
  | true => exact Or.inl ⟨.closed, whenOpen_of_closed hopen⟩
  | false =>
    rw [commit_of_open hopen]
    split
    · exact Or.inl ⟨_, rfl⟩
    · exact Or.inr rfl

/-- A rollback that fails changes nothing. -/
theorem rollback_cases (c : LocalConnection) :
    (∃ e, rollback c = (.error e, c)) ∨ rollback c = (.ok (), c.discarded) := by
  cases hopen : c.isClosed with
  | true => exact Or.inl ⟨.closed, whenOpen_of_closed hopen⟩
  | false =>
    rw [rollback_of_open hopen]
    split
    · exact Or.inl ⟨_, rfl⟩
    · exact Or.inr rfl

/-- A rollback publishes nothing. -/
theorem committed_rollback (c : LocalConnection) : (rollback c).2.committed = c.committed := by
  rcases rollback_cases c with ⟨e, h⟩ | h
  · rw [h]
  · rw [h]
    rfl

/-- A switch that fails changes nothing. -/
theorem setAutoCommit_cases (on : Bool) (c : LocalConnection) :
    (∃ e, setAutoCommit on c = (.error e, c)) ∨
      (on = c.autoCommit ∧ setAutoCommit on c = (.ok (), c)) ∨
      (on = true ∧ c.autoCommit = false ∧ setAutoCommit on c = (.ok (), c.ended)) ∨
      (on = false ∧ c.autoCommit = true ∧ setAutoCommit on c = (.ok (), c.begun)) := by
  cases hopen : c.isClosed with
  | true => exact Or.inl ⟨.closed, whenOpen_of_closed hopen⟩
  | false =>
    rw [setAutoCommit_of_open on hopen]
    split
    · exact Or.inl ⟨_, rfl⟩
    · split
      · next hsame => exact Or.inr (Or.inl ⟨hsame, rfl⟩)
      · next hother =>
        cases on with
        | true => exact Or.inr (Or.inr (Or.inl ⟨rfl, by simpa using Ne.symm hother, rfl⟩))
        | false => exact Or.inr (Or.inr (Or.inr ⟨rfl, by simpa using Ne.symm hother, rfl⟩))

/-- Nothing is left of the work that was discarded. -/
theorem visible_discarded (c : LocalConnection) : c.discarded.visible = c.committed := by
  obtain ⟨committed, working⟩ := c
  cases working with
  | none => rfl
  | some w => rfl

end LocalConnection

/-! ### Any use of a connection -/

/-- What can be asked of a connection, of a statement or an answer made with it, and of whoever
watches the store. -/
inductive Use where
  /-- a statement is run for no rows -/
  | execute (text : String) (options : SendOptions)
  /-- a statement is run for its rows -/
  | query (text : String) (options : SendOptions)
  /-- a statement is prepared -/
  | prepare (text : String) (options : SendOptions)
  /-- a parameter of a statement is bound -/
  | bind (statement : Prepared) (index : Nat) (value : Param)
  /-- the parameters of a statement are put by for a batch -/
  | putBy (statement : Prepared)
  /-- the batch of a statement is run -/
  | runBatch (statement : Prepared)
  /-- a prepared statement is run for no rows -/
  | executePrepared (statement : Prepared)
  /-- a prepared statement is run for its rows -/
  | queryPrepared (statement : Prepared)
  /-- the next row of an answer is read -/
  | fetchRow (rows : Rows)
  /-- the rows of an answer that are still to come are dropped -/
  | cancelRows (rows : Rows)
  /-- an answer is released -/
  | closeRows (rows : Rows)
  /-- the connection is asked whether autocommit is on -/
  | autoCommit
  /-- autocommit is switched -/
  | setAutoCommit (on : Bool)
  /-- the open transaction is published -/
  | commit
  /-- the work of the open transaction is discarded -/
  | rollback
  /-- the connection is asked whether transactions are offered -/
  | supportsTransactions
  /-- the connection is asked how far transactions are kept apart -/
  | isolation
  /-- transactions are to be kept apart so far -/
  | setIsolation (level : Isolation)
  /-- the connection is to offer no transactions from now on -/
  | withoutTransactions
  /-- the connection is released -/
  | close
  /-- the watcher prepares a result -/
  | push (r : ResultSet)
  /-- the watcher publishes triples -/
  | seed (graph : String) (ts : List Triple)
  /-- the watcher decides which calls are to fail from now on -/
  | setFaults (faults : Faults)

namespace Use

/-- An attempt on an answer that was handed out. -/
def onRows {α : Type} (rows : Rows) (a : Attempt CallError (LiveRows LocalConnection) α) :
    Attempt CallError LocalConnection α :=
  .zoom (⟨·, rows⟩) (fun live _ => live.connection) a

/-- The use as an attempt, its value forgotten. -/
def act : Use → Attempt CallError LocalConnection Unit
  | execute text options => Connection.execute text options
  | query text options => do let _ ← Connection.query text options
  | prepare text options => do let _ ← Connection.prepare text options
  | bind statement index value => do let _ ← Connection.bind statement index value
  | putBy statement => do let _ ← Connection.putBy statement
  | runBatch statement => do let _ ← Connection.runBatch statement
  | executePrepared statement => Connection.executePrepared statement
  | queryPrepared statement => do let _ ← Connection.queryPrepared statement
  | fetchRow rows => do let _ ← onRows rows Connection.fetchRow
  | cancelRows rows => onRows rows Connection.cancelRows
  | closeRows rows => onRows rows Connection.closeRows
  | autoCommit => do let _ ← Connection.autoCommit
  | setAutoCommit on => Connection.setAutoCommit on
  | commit => Connection.commit
  | rollback => Connection.rollback
  | supportsTransactions => do let _ ← Connection.supportsTransactions
  | isolation => do let _ ← Connection.isolation
  | setIsolation level => Connection.setIsolation level
  | withoutTransactions => modify fun c => { c with supportsTransactions := false }
  | close => Connection.close
  | push r => modify (LocalConnection.push r)
  | seed graph ts => modify (LocalConnection.seed graph ts)
  | setFaults faults => modify fun c => { c with faults }

/-- The connection after the use, whatever its outcome is. -/
def after (c : LocalConnection) (u : Use) : LocalConnection :=
  (u.act.on c).2

/-- The connection after a sequence of uses. -/
def run (uses : List Use) (c : LocalConnection) : LocalConnection :=
  uses.foldl after c

end Use

/-! ### What a use changes -/

namespace LocalConnection

/-- Whatever changed was staged: only the triples that the connection sees may differ, and on a
closed connection not even those. -/
structure Stages (c c' : LocalConnection) : Prop where
  isClosed : c'.isClosed = c.isClosed
  autoCommit : c'.autoCommit = c.autoCommit
  working : c'.working.isSome = c.working.isSome
  committed : c.working.isSome = true ∨ c.isClosed = true → c'.committed = c.committed

theorem Stages.refl (c : LocalConnection) : c.Stages c := ⟨rfl, rfl, rfl, fun _ => rfl⟩

/-- What keeps the frame writes to a working copy, if there is one. -/
theorem stages_of_frame {c c' : LocalConnection} (hframe : frame c' = frame c)
    (hclosed : c.isClosed = true → c'.committed = c.committed) : c.Stages c' := by
  have hshut : c'.isClosed = c.isClosed := congrArg Frame.isClosed hframe
  have hauto : c'.autoCommit = c.autoCommit := congrArg Frame.autoCommit hframe
  rcases working_of_frame hframe with ⟨hw, hw'⟩ | ⟨w, w', hw, hw', hcommitted⟩
  · -- Without a working copy what is seen is published, so only a closed connection says more.
    refine ⟨hshut, hauto, by rw [hw, hw'], ?_⟩
    rintro (hworking | hc)
    · rw [hw] at hworking
      cases hworking
    · exact hclosed hc
  · exact ⟨hshut, hauto, by rw [hw, hw']; rfl, fun _ => hcommitted⟩

/-- A statement that a closed connection refuses. -/
theorem stages_whenOpen {α : Type} {call : Call α} (h : Confined (.of (whenOpen call)))
    (c : LocalConnection) : c.Stages (whenOpen call c).2 := by
  refine stages_of_frame (h.frame_on c) fun hclosed => ?_
  rw [whenOpen_of_closed hclosed]

end LocalConnection

open LocalConnection

namespace Use

/-- The use is a step of a transaction, or publishes triples on its own. -/
def Transacts : Use → Prop
  | setAutoCommit _ | commit | rollback | close | seed .. => True
  | _ => False

/-- Any other use leaves the transaction as it is. -/
theorem stages_act (u : Use) (h : ¬ u.Transacts) (c : LocalConnection) : c.Stages (u.after c) := by
  have hforget {α : Type} (a : Attempt CallError LocalConnection α) :
      ((do let _ ← a : Attempt CallError LocalConnection Unit).on c).2 = (a.on c).2 := by
    -- What is made of the value makes no difference to the connection.
    rw [Attempt.on_bind]
    rcases a.on c with ⟨e | x, c'⟩
    · rfl
    · rfl
  have hread {α : Type} (f : LocalConnection → α) :
      c.Stages (whenOpen (fun c => (.ok (f c), c)) c).2 := by
    unfold whenOpen
    split
    · exact .refl c
    · exact .refl c
  cases u with
  | execute text options => exact stages_whenOpen (confined_execute text options []) c
  | query text options =>
    rw [after, act, hforget]
    exact stages_whenOpen (confined_query text options []) c
  | prepare text options =>
    rw [after, act, hforget]
    exact stages_whenOpen (confined_prepare text options) c
  | bind statement index value =>
    rw [after, act, hforget]
    cases index with
    | zero => exact .refl c
    | succ i => exact .refl c
  | putBy statement => exact .refl c
  | runBatch statement =>
    rw [after, act, hforget]
    exact stages_whenOpen (confined_runBatch statement) c
  | executePrepared st => exact stages_whenOpen (confined_execute st.text st.options st.params) c
  | queryPrepared st =>
    rw [after, act, hforget]
    exact stages_whenOpen (confined_query st.text st.options st.params) c
  | fetchRow rows =>
    rw [after, act, hforget]
    obtain ⟨columns, rows, isOpen⟩ := rows
    cases isOpen with
    | false => exact .refl c
    | true =>
      cases rows with
      | nil => exact .refl c
      | cons row rest => exact .refl c
  | cancelRows rows => exact ⟨rfl, rfl, rfl, fun _ => rfl⟩
  | closeRows rows =>
    obtain ⟨columns, rows, isOpen⟩ := rows
    cases isOpen with
    | false => exact .refl c
    | true => exact ⟨rfl, rfl, rfl, fun _ => rfl⟩
  | autoCommit =>
    rw [after, act, hforget]
    exact hread (·.autoCommit)
  | supportsTransactions =>
    rw [after, act, hforget]
    exact hread (·.supportsTransactions)
  | isolation =>
    rw [after, act, hforget]
    exact hread (·.isolation)
  | setIsolation level =>
    show c.Stages (whenOpen (fun c => (.ok (), { c with isolation := level })) c).2
    unfold whenOpen
    split
    · exact .refl c
    · exact ⟨rfl, rfl, rfl, fun _ => rfl⟩
  | withoutTransactions => exact ⟨rfl, rfl, rfl, fun _ => rfl⟩
  | push r => exact ⟨rfl, rfl, rfl, fun _ => rfl⟩
  | setFaults faults => exact ⟨rfl, rfl, rfl, fun _ => rfl⟩
  | setAutoCommit on => exact absurd trivial h
  | commit => exact absurd trivial h
  | rollback => exact absurd trivial h
  | close => exact absurd trivial h
  | seed graph ts => exact absurd trivial h

end Use

/-! ### Staged work -/

/-- A working copy stands before the published triples exactly while autocommit is off. -/
def LocalConnection.Consistent (c : LocalConnection) : Prop :=
  c.isClosed = false → (c.working.isSome = true ↔ c.autoCommit = false)

/-- Work that is staged leaves the working copy and the switch in step. -/
theorem LocalConnection.Stages.consistent {c c' : LocalConnection} (hs : c.Stages c')
    (hc : c.Consistent) : c'.Consistent := by
  intro hopen
  rw [hs.working, hs.autoCommit]
  exact hc (hs.isClosed.symm.trans hopen)

namespace Use

/-- One use keeps the working copy in step with the switch. -/
theorem consistent_after {c : LocalConnection} (hc : c.Consistent) (u : Use) :
    (u.after c).Consistent := by
  by_cases hstep : u.Transacts
  · cases u with
    | setAutoCommit on =>
      show (LocalConnection.setAutoCommit on c).2.Consistent
      rcases setAutoCommit_cases on c with ⟨e, h⟩ | ⟨-, h⟩ | ⟨-, -, h⟩ | ⟨-, -, h⟩
      · rwa [h]
      · rwa [h]
      · -- The transaction ends, and its working copy with it.
        rw [h]
        exact fun _ => iff_of_false Bool.false_ne_true Bool.noConfusion
      · -- It begins with a working copy of what is published.
        rw [h]
        exact fun _ => iff_of_true rfl rfl
    | commit =>
      show (LocalConnection.commit c).2.Consistent
      rcases commit_cases c with ⟨e, h⟩ | h
      · rwa [h]
      · rwa [h]
    | rollback =>
      show (LocalConnection.rollback c).2.Consistent
      rcases rollback_cases c with ⟨e, h⟩ | h
      · rwa [h]
      · rw [h]
        intro hopen
        rw [discarded, Option.isSome_map]
        -- A rollback goes back to a copy of what is published, so there is still one.
        exact hc hopen
    | close => exact nofun
    | seed graph ts => exact hc
    | _ => exact hstep.elim
  · exact (u.stages_act hstep c).consistent hc

/-- How a use treats staged work. -/
structure Isolates (u : Use) (c : LocalConnection) : Prop where
  /-- staged work is published by a commit or by the switch back to autocommit; besides these,
  only the watcher publishes anything -/
  published : c.autoCommit = false →
    (u.after c).committed = c.committed ∨
      ((u = .commit ∨ u = .setAutoCommit true) ∧ (u.act.on c).1 = .ok ()) ∨
      ∃ graph ts, u = .seed graph ts
  /-- a step of the transaction that is refused does nothing -/
  refused : (u = .commit ∨ u = .rollback ∨ ∃ on, u = .setAutoCommit on) →
    ∀ e, (u.act.on c).1 = .error e →
      (u.after c).committed = c.committed ∧ (u.after c).working = c.working ∧
        (u.after c).autoCommit = c.autoCommit
  /-- nothing is left of work that was discarded -/
  discarded : u = .rollback → (u.act.on c).1 = .ok () →
    (u.after c).visible = (u.after c).committed
  /-- work that was staged when the connection is released is lost -/
  closed : u = .close → (u.after c).committed = c.committed ∧ (u.after c).working = none

/-- What a step of a transaction that was refused leaves. -/
theorem after_of_error {c : LocalConnection} {u : Use} {e : CallError}
    (hu : u = .commit ∨ u = .rollback ∨ ∃ on, u = .setAutoCommit on)
    (he : (u.act.on c).1 = .error e) : u.after c = c := by
  rcases hu with rfl | rfl | ⟨on, rfl⟩
  · replace he : (LocalConnection.commit c).1 = .error e := he
    show (LocalConnection.commit c).2 = c
    rcases commit_cases c with ⟨e', h⟩ | h
    · rw [h]
    · rw [h] at he
      cases he
  · replace he : (LocalConnection.rollback c).1 = .error e := he
    show (LocalConnection.rollback c).2 = c
    rcases rollback_cases c with ⟨e', h⟩ | h
    · rw [h]
    · rw [h] at he
      cases he
  · replace he : (LocalConnection.setAutoCommit on c).1 = .error e := he
    show (LocalConnection.setAutoCommit on c).2 = c
    rcases setAutoCommit_cases on c with ⟨e', h⟩ | ⟨-, h⟩ | ⟨-, -, h⟩ | ⟨-, -, h⟩
    · rw [h]
    · rw [h]
    · rw [h] at he
      cases he
    · rw [h] at he
      cases he

/-- What changes the published triples while autocommit is off. -/
theorem committed_after {c : LocalConnection} (hc : c.Consistent) (hauto : c.autoCommit = false)
    (u : Use) :
    (u.after c).committed = c.committed ∨
      ((u = .commit ∨ u = .setAutoCommit true) ∧ (u.act.on c).1 = .ok ()) ∨
      ∃ graph ts, u = .seed graph ts := by
  by_cases hstep : u.Transacts
  · cases u with
    | setAutoCommit on =>
      show (LocalConnection.setAutoCommit on c).2.committed = c.committed ∨
        (_ ∧ (LocalConnection.setAutoCommit on c).1 = .ok ()) ∨ _
      rcases setAutoCommit_cases on c with ⟨e, h⟩ | ⟨-, h⟩ | ⟨rfl, -, h⟩ | ⟨-, -, h⟩
      · exact Or.inl (by rw [h])
      · exact Or.inl (by rw [h])
      · -- The switch back to autocommit publishes what is staged, and it was accepted.
        exact Or.inr (Or.inl ⟨Or.inr rfl, by rw [h]⟩)
      · exact Or.inl (by rw [h]; rfl)
    | commit =>
      show (LocalConnection.commit c).2.committed = c.committed ∨
        (_ ∧ (LocalConnection.commit c).1 = .ok ()) ∨ _
      rcases commit_cases c with ⟨e, h⟩ | h
      · exact Or.inl (by rw [h])
      · exact Or.inr (Or.inl ⟨Or.inl rfl, by rw [h]⟩)
    | rollback => exact Or.inl (committed_rollback c)
    | close => exact Or.inl rfl
    | seed graph ts => exact Or.inr (Or.inr ⟨graph, ts, rfl⟩)
    | _ => exact hstep.elim
  · -- A statement goes to the working copy, which is there because autocommit is off.
    refine Or.inl ((u.stages_act hstep c).committed ?_)
    cases hopen : c.isClosed with
    | true => exact Or.inr rfl
    | false => exact Or.inl ((hc hopen).2 hauto)

/-- A connection whose working copy is in step with the switch treats staged work as it should. -/
theorem isolates_of_consistent {c : LocalConnection} (hc : c.Consistent) (u : Use) :
    u.Isolates c where
  published hauto := committed_after hc hauto u
  refused hu e he := by
    rw [after_of_error hu he]
    exact ⟨rfl, rfl, rfl⟩
  discarded := by
    rintro rfl hok
    replace hok : (LocalConnection.rollback c).1 = .ok () := hok
    show (LocalConnection.rollback c).2.visible = (LocalConnection.rollback c).2.committed
    rcases rollback_cases c with ⟨e, h⟩ | h
    · rw [h] at hok
      cases hok
    · rw [h]
      exact visible_discarded c
  closed := by
    rintro rfl
    exact ⟨rfl, rfl⟩

/-- Along a run the working copy stays in step with the switch. -/
theorem consistent_run (uses : List Use) {c : LocalConnection} (hc : c.Consistent) :
    (run uses c).Consistent := by
  induction uses generalizing c with
  | nil => exact hc
  | cons u uses ih => exact ih (consistent_after hc u)

/-- Along any sequence of uses of a new connection, a working copy stands before the published
triples exactly while autocommit is off, as long as the connection is not released, and every
further use keeps staged work apart from what is published. -/
theorem run_isolates (uses : List Use) (supportsTransactions : Bool) (faults : Faults) :
    let c := run uses { supportsTransactions, faults }
    (c.isClosed = false → (c.working.isSome = true ↔ c.autoCommit = false)) ∧
      ∀ u : Use, u.Isolates c := by
  have hnew : LocalConnection.Consistent { supportsTransactions, faults } :=
    fun _ => iff_of_false Bool.false_ne_true Bool.noConfusion
  have hrun := consistent_run uses hnew
  exact ⟨hrun, isolates_of_consistent hrun⟩

end Use

/-! ### Outside and inside of a transaction -/

namespace LocalConnection

/-- Every write is published at once, and no transaction is open. -/
structure InAutocommit (c : LocalConnection) : Prop where
  autoCommit : c.autoCommit = true
  working : c.working = none

/-- A transaction is open on an open connection, over these published triples. -/
structure Staged (s : QuadStore) (c : LocalConnection) : Prop where
  isOpen : c.isClosed = false
  autoCommit : c.autoCommit = false
  working : c.working.isSome = true
  committed : c.committed = s

variable {s : QuadStore} {c c' : LocalConnection}

theorem InAutocommit.visible (ha : c.InAutocommit) : c.visible = c.committed := by
  rw [LocalConnection.visible, ha.working]
  rfl

/-- What keeps the frame opens no transaction. -/
theorem InAutocommit.of_frame (ha : c.InAutocommit) (hframe : frame c' = frame c) :
    c'.InAutocommit := by
  refine ⟨(congrArg Frame.autoCommit hframe).trans ha.autoCommit, ?_⟩
  rcases working_of_frame hframe with ⟨-, hw'⟩ | ⟨w, -, hw, -⟩
  · exact hw'
  · rw [ha.working] at hw
    cases hw

theorem InAutocommit.ended (c : LocalConnection) : c.ended.InAutocommit := ⟨rfl, rfl⟩

theorem Staged.begun (hopen : c.isClosed = false) : c.begun.Staged c.committed :=
  ⟨hopen, rfl, rfl, rfl⟩

/-- Work that keeps the frame stays staged. -/
theorem Staged.of_frame (hs : c.Staged s) (hframe : frame c' = frame c) : c'.Staged s := by
  have hstages := stages_of_frame hframe fun hclosed => by
    rw [hs.isOpen] at hclosed
    cases hclosed
  exact ⟨hstages.isClosed.trans hs.isOpen, hstages.autoCommit.trans hs.autoCommit,
    hstages.working.trans hs.working, (hstages.committed (Or.inl hs.working)).trans hs.committed⟩

/-- Outside of a transaction the switch begins one, unless it is refused. -/
theorem InAutocommit.setAutoCommit_false (ha : c.InAutocommit) (hopen : c.isClosed = false) :
    setAutoCommit false c =
      if c.faults.setAutoCommit then (.error (.transaction "autocommit toggle refused"), c)
      else (.ok (), c.begun) := by
  rw [setAutoCommit_of_open false hopen, ha.autoCommit]
  rfl

/-- Inside of a transaction the switch ends it, unless it is refused. -/
theorem Staged.setAutoCommit_true (hs : c.Staged s) :
    setAutoCommit true c =
      if c.faults.setAutoCommit then (.error (.transaction "autocommit toggle refused"), c)
      else (.ok (), c.ended) := by
  rw [setAutoCommit_of_open true hs.isOpen, hs.autoCommit]
  rfl

theorem Staged.setAutoCommit_accepted (hs : c.Staged s) (h : c.faults.setAutoCommit = false) :
    setAutoCommit true c = (.ok (), c.ended) := by
  rw [hs.setAutoCommit_true, h]
  rfl

/-- A transaction whose work was discarded is open still, over the same published triples. -/
theorem Staged.discarded (hs : c.Staged s) : c.discarded.Staged s := by
  refine ⟨hs.isOpen, hs.autoCommit, ?_, hs.committed⟩
  rw [LocalConnection.discarded, Option.isSome_map]
  exact hs.working

/-- A transaction whose work was published is open still, over what it staged. -/
theorem Staged.published (hs : c.Staged s) : c.published.Staged c.visible :=
  ⟨hs.isOpen, hs.autoCommit, hs.working, rfl⟩

/-- To publish the work of a transaction does not change what is seen. -/
theorem Staged.visible_published (hs : c.Staged s) : c.published.visible = c.visible := by
  obtain ⟨w, hw⟩ := Option.isSome_iff_exists.1 hs.working
  unfold LocalConnection.published LocalConnection.visible
  rw [hw]
  rfl

/-- The frame of a connection once it began a transaction. -/
def stagingFrame (c : LocalConnection) : Frame :=
  { frame c with under := some c.committed, autoCommit := false }

/-- To begin a transaction is to be put into its frame. -/
theorem InAutocommit.begun_eq (ha : c.InAutocommit) : c.begun = inFrame c.stagingFrame c := by
  have hworking := ha.working
  obtain ⟨committed, working⟩ := c
  cases hworking
  rfl

/-- The work of a transaction that ended is the same work in any other frame. -/
theorem inFrame_ended (F : Frame) (c : LocalConnection) :
    inFrame F c.published.ended = inFrame F c := by
  obtain ⟨committed, working⟩ := c
  cases working with
  | none => rfl
  | some w => rfl

end LocalConnection

end QuadClient
