import QuadClient.Proofs.Graph.Control

/-!
# Runs across transactions

A run mixes operations with steps of transactions and with work inside of transactions of its
own. The events that listeners are told are not enough to follow it: a rollback takes back what
was told, and a batched write that fails inside of a transaction leaves batches there that nobody
was told of. With its journal the run can be followed at every point.
-/

namespace QuadClient

open LocalConnection (InAutocommit)

variable {α : Type} {graph : String} {m : Mirror} {l : Ledger} {h : Handle LocalConnection}
  {es : List Entry}

/-- The course of a run: operations, steps of transactions, and work inside of transactions of
its own, each of which may depend on the outcomes of what came before it. -/
inductive Course : Type → Type 1 where
  /-- the outcome -/
  | done {α : Type} (r : Except Error α) : Course α
  /-- an operation -/
  | operation {α : Type} (o : Operation) (next : Except Error Answer → Course α) : Course α
  /-- a step of a transaction -/
  | control {α : Type} (asked : Bool) (o : Control) (next : Except Error Unit → Course α) : Course α
  /-- work inside of a transaction of its own -/
  | execute {α β : Type} (asked : Bool) (work : Course β) (next : Except Error β → Course α) :
    Course α

namespace Course

/-- The run on a handle. -/
def act : {α : Type} → Course α → GraphAction LocalConnection α
  | _, done r => Attempt.done r
  | _, operation o next => do
    let r ← o.act.outcome
    (next r).act
  | _, control asked o next => do
    let r ← (o.act asked).outcome
    (next r).act
  | _, execute asked work next => do
    let r ← (Control.execute asked work.act).outcome
    (next r).act

/-- Listeners hear of every operation of the run. -/
def Heard (graph : String) : {α : Type} → Course α → Prop
  | _, done _ => True
  | _, operation o next => o.Heard graph ∧ ∀ r, (next r).Heard graph
  | _, control _ _ next => ∀ r, (next r).Heard graph
  | _, execute _ work next => work.Heard graph ∧ ∀ r, (next r).Heard graph

/-- The entries of the run. -/
def journal : {α : Type} → Course α → Handle LocalConnection → List Entry
  | _, done _, _ => []
  | _, operation o next, h =>
    let r := o.act.on h
    o.entries h ++ (next r.1).journal r.2
  | _, control asked o next, h =>
    let r := (o.act asked).on h
    o.entries asked h ++ (next r.1).journal r.2
  | _, execute asked work next, h =>
    let inner := work.journal ((Control.begin.act asked).on h).2
    let r := (Control.execute asked work.act).on h
    Control.around asked work.act inner h ++ (next r.1).journal r.2

/-- A point of a run: the entries up to there, and the handle. -/
abbrev Point := List Entry × Handle LocalConnection

/-- A point after these entries. -/
def following (es : List Entry) (p : Point) : Point :=
  (es ++ p.1, p.2)

/-- Every point of the run, also those inside of the work of a transaction. -/
def points : {α : Type} → Course α → Handle LocalConnection → List Point
  | _, done _, h => [([], h)]
  | _, operation o next, h =>
    let r := o.act.on h
    ([], h) :: ((next r.1).points r.2).map (following (o.entries h))
  | _, control asked o next, h =>
    let r := (o.act asked).on h
    ([], h) :: ((next r.1).points r.2).map (following (o.entries asked h))
  | _, execute asked work next, h =>
    let begun := (Control.begin.act asked).on h
    let inside :=
      match begun.1 with
      | .ok _ => (work.points begun.2).map (following (Control.begin.entries asked h))
      | .error _ => []
    let r := (Control.execute asked work.act).on h
    let es := Control.around asked work.act (work.journal begun.2) h
    ([], h) :: inside ++ ((next r.1).points r.2).map (following es)

/-- The end of a run is one of its points. -/
theorem end_mem_points (c : Course α) (h : Handle LocalConnection) :
    (c.journal h, (c.act.on h).2) ∈ c.points h := by
  induction c generalizing h with
  | done r => exact List.mem_singleton_self _
  | operation o next ih =>
    exact List.mem_cons_of_mem _ (List.mem_map_of_mem (f := following _) (ih _ _))
  | control asked o next ih =>
    exact List.mem_cons_of_mem _ (List.mem_map_of_mem (f := following _) (ih _ _))
  | execute asked work next _ ih =>
    exact List.mem_append_right _ (List.mem_map_of_mem (f := following _) (ih _ _))

/-- A run is entered with what it did. -/
theorem entered_act {c : Course α} (hl : l.Accounts graph m h) (hc : c.Heard graph) :
    Entered graph m (c.journal h) l h (c.act.on h).2 := by
  induction c generalizing l h with
  | done r => exact .nil hl
  | operation o next ih =>
    obtain ⟨ho, hnext⟩ := hc
    have hfirst := o.entered hl ho
    exact hfirst.append (ih _ hfirst.accounts (hnext _))
  | control asked o next ih =>
    have hfirst := o.entered hl asked
    exact hfirst.append (ih _ hfirst.accounts (hc _))
  | execute asked work next ihwork ih =>
    -- Where the transaction begins its work is entered, and the ends of the transaction around it.
    obtain ⟨hwork, hnext⟩ := hc
    have hfirst := Control.entered_execute hl asked work.act fun hbegun => ihwork hbegun hwork
    exact hfirst.append (ih _ hfirst.accounts (hnext _))

/-- So is every part of it. -/
theorem entered_points {c : Course α} (hl : l.Accounts graph m h) (hc : c.Heard graph) :
    ∀ p ∈ c.points h, Entered graph m p.1 l h p.2 := by
  induction c generalizing l h with
  | done r => exact List.forall_mem_singleton.2 (.nil hl)
  | operation o next ih =>
    obtain ⟨ho, hnext⟩ := hc
    have hfirst := o.entered hl ho
    refine List.forall_mem_cons.2 ⟨.nil hl, List.forall_mem_map.2 fun p hp => ?_⟩
    exact hfirst.append (ih _ hfirst.accounts (hnext _) p hp)
  | control asked o next ih =>
    have hfirst := o.entered hl asked
    refine List.forall_mem_cons.2 ⟨.nil hl, List.forall_mem_map.2 fun p hp => ?_⟩
    exact hfirst.append (ih _ hfirst.accounts (hc _) p hp)
  | execute asked work next ihwork ih =>
    obtain ⟨hwork, hnext⟩ := hc
    -- The work counts twice: point by point, and as a whole in front of what comes after it.
    have hfirst := Control.entered_execute hl asked work.act fun hbegun => entered_act hbegun hwork
    have hbegun := Control.entered hl asked .begin
    refine List.forall_mem_append.2 ⟨List.forall_mem_cons.2 ⟨.nil hl, ?_⟩, ?_⟩
    · -- the points inside of the work, if the transaction begins
      split
      · refine List.forall_mem_map.2 fun p hp => ?_
        exact hbegun.append (ihwork hbegun.accounts hwork p hp)
      · exact List.forall_mem_nil _
    · -- the points behind it
      refine List.forall_mem_map.2 fun p hp => ?_
      exact hfirst.append (ih _ hfirst.accounts (hnext _) p hp)

/-- On a closed handle a run comes to nothing. -/
theorem points_of_refuses {c : Course α} (hr : h.Refuses) (ha : h.connection.InAutocommit)
    (hc : c.Heard h.graphName) : ∀ p ∈ c.points h, p = ([], h) := by
  induction c with
  | done r => exact List.forall_mem_singleton.2 rfl
  | operation o next ih =>
    obtain ⟨ho, hnext⟩ := hc
    obtain ⟨e, hrun⟩ := o.act_of_refuses hr ho
    -- The operation failed in autocommit, so nothing of it was left.
    have hnone : o.entries h = [] := by simp [Operation.entries, hrun, ha.autoCommit]
    refine List.forall_mem_cons.2 ⟨rfl, List.forall_mem_map.2 fun p hp => ?_⟩
    rw [hrun] at hp
    rw [hnone, ih _ (hnext _) p hp]
    rfl
  | control asked o next ih =>
    obtain ⟨e, hrun⟩ := o.act_of_refuses hr asked
    have hnone : o.entries asked h = [] := by rw [Control.entries, hrun]
    refine List.forall_mem_cons.2 ⟨rfl, List.forall_mem_map.2 fun p hp => ?_⟩
    rw [hrun] at hp
    rw [hnone, ih _ (hc _) p hp]
    rfl
  | execute asked work next _ ih =>
    obtain ⟨-, hnext⟩ := hc
    obtain ⟨e, hrun⟩ := Control.act_of_refuses hr asked .begin
    refine List.forall_mem_append.2 ⟨List.forall_mem_cons.2 ⟨rfl, ?_⟩, ?_⟩
    · -- The transaction does not begin, so its work has no points.
      rw [hrun]
      exact List.forall_mem_nil _
    · -- Nothing was done, so what comes after starts from the same handle.
      refine List.forall_mem_map.2 fun p hp => ?_
      have hnone : Control.around asked work.act
          (work.journal ((Control.begin.act asked).on h).2) h = [] := by
        simp only [Control.around, hrun]
      rw [Control.execute_of_refuses hr] at hp
      rw [hnone, ih _ (hnext _) p hp]
      rfl

/-- What the journal of a run says at one of its points. -/
structure Mirrored (h : Handle LocalConnection) (es : List Entry) (h' : Handle LocalConnection) :
    Prop where
  /-- the listeners were told the events in the journal, in order -/
  listeners : h'.listeners = h.listeners.map (Mailbox.receive (Entry.delivered es))
  /-- where no transaction is open, the changes that the journal settles bring the triples of the
  start to those that are published -/
  settled : h'.connection.autoCommit = true →
    h'.connection.committed.contents =
      Event.replayAll (Ledger.enterAll {} es).settled h.connection.committed.contents
  /-- the events do so by themselves if nothing was discarded and no batches were left -/
  plain : h'.connection.autoCommit = true → (∀ entry ∈ es, entry.IsPlain) →
    h'.connection.committed.contents =
      Event.replayAll (Entry.delivered es) h.connection.committed.contents

/-- A point that is entered is mirrored. -/
theorem mirrored_of_entered {h' : Handle LocalConnection}
    (h₀₁ : Entered graph h.connection.committed.contents es {} h h') : Mirrored h es h' := by
  have hsettled := h₀₁.accounts.settled
  refine ⟨h₀₁.listeners, fun _ => hsettled, fun hauto hplain => ?_⟩
  -- In autocommit nothing is pending, so what is seen is what is settled.
  have hpending := h₀₁.accounts.pending_eq_none hauto
  have hseen : (Ledger.enterAll {} es).seen = Entry.delivered es := Ledger.seen_enterAll hplain
  have hall : (Ledger.enterAll {} es).seen = (Ledger.enterAll {} es).settled := by
    rw [Ledger.seen, hpending]
    exact List.append_nil _
  rw [hsettled, ← hall, hseen]

/-- **A journal mirrors the graph across transactions.** Take any run of operations that listeners
hear of, of steps of transactions and of work inside of transactions of its own, on a store that
shows no faults and has no transaction open. At every point of it the listeners were told the
events of the journal. Wherever no transaction is open, what the journal settles brings the
triples of the start to those that are published: every event but those of transactions that were
discarded, and the full batches that a failed write left in a transaction that was published. -/
theorem points_mirrored {h : Handle LocalConnection} (hfaults : h.connection.faults = {})
    (ha : h.connection.InAutocommit) {c : Course α} (hc : c.Heard h.graphName) :
    (c.journal h, (c.act.on h).2) ∈ c.points h ∧
      ∀ es h', (es, h') ∈ c.points h → Mirrored h es h' := by
  refine ⟨c.end_mem_points h, fun es h' hpoint => ?_⟩
  rcases h.open_or_refuses with ⟨hopen, hconnection⟩ | hr
  · -- The handle serves, so its empty ledger accounts for it, and for every point from there.
    have hs : h.Serves := ⟨hopen, hfaults, hconnection⟩
    have hl : Ledger.Accounts h.graphName h.connection.committed.contents {} h :=
      Ledger.accounts_of_auto hs rfl ha rfl
    exact mirrored_of_entered (entered_points hl hc _ hpoint)
  · cases points_of_refuses hr ha hc _ hpoint
    exact ⟨(Mailbox.map_receive_nil h.listeners).symm, fun _ => rfl, fun _ _ => rfl⟩

open Happening (overheard)

theorem inAutocommit_overheard : overheard.connection.InAutocommit := ⟨rfl, rfl⟩

/-- A triple is added in work that fails, and then in a transaction that is published. -/
def giveUpThenCommit : Course Unit :=
  .execute false
    (.operation (.write .add Handle.sample) fun _ => .done (.error .closed : Except Error Unit))
    fun _ => .control false .begin fun _ => .operation (.write .add Handle.sample) fun _ =>
      .control true .commit fun _ => .done (.ok ())

theorem points_mirrored_giveUpThenCommit :
    overheard.connection.InAutocommit ∧ giveUpThenCommit.Heard overheard.graphName ∧
      giveUpThenCommit.journal overheard =
        [.opened, .told (.added "urn:g" [Handle.sample]), .discarded,
          .opened, .told (.added "urn:g" [Handle.sample]), .published] ∧
      Mirrored overheard (giveUpThenCommit.journal overheard)
        (giveUpThenCommit.act.on overheard).2 := by
  have hsample : ¬ Handle.sample.object.IsUntaggedLangString := by decide
  have hheard : giveUpThenCommit.Heard overheard.graphName :=
    ⟨⟨hsample, fun _ => trivial⟩, fun _ _ => ⟨hsample, fun _ _ => trivial⟩⟩
  obtain ⟨hend, hall⟩ := points_mirrored rfl inAutocommit_overheard hheard
  exact ⟨inAutocommit_overheard, hheard, by decide +kernel, hall _ _ hend⟩

/-- After the run no transaction is open, and the events that were told do not bring the triples
of the start to those that are published. -/
def Misleads (c : Course Unit) : Prop :=
  (c.act.on overheard).2.connection.autoCommit = true ∧
    ∃ es, (c.act.on overheard).2.listeners = [{ events := es }] ∧
      (c.act.on overheard).2.connection.committed.contents ≠
        Event.replayAll es overheard.connection.committed.contents

theorem accounts_overheard :
    Ledger.Accounts "urn:g" overheard.connection.committed.contents {} overheard :=
  Ledger.accounts_of_auto ⟨rfl, rfl, rfl⟩ rfl inAutocommit_overheard rfl

/-- The events mislead where the journal settles something else. -/
theorem misleads_of_journal {c : Course Unit} (hc : c.Heard "urn:g") {es : List Entry}
    (hjournal : c.journal overheard = es) (hpending : (Ledger.enterAll {} es).pending = none)
    (hother : Event.replayAll (Ledger.enterAll {} es).settled
        overheard.connection.committed.contents ≠
      Event.replayAll (Entry.delivered es) overheard.connection.committed.contents) :
    c.Misleads := by
  have hentered := entered_act accounts_overheard hc
  rw [hjournal] at hentered
  have hagrees := hentered.accounts.agrees
  unfold Ledger.Agrees at hagrees
  rw [hpending] at hagrees
  refine ⟨hagrees.autoCommit, Entry.delivered es, hentered.listeners, ?_⟩
  rw [hentered.accounts.settled]
  exact hother

/-- Nothing is in the store that is listened to. -/
theorem not_mem_overheard (t : Triple) :
    t ∉ overheard.connection.committed.contents "urn:g" := by
  intro ht
  have hcontains : overheard.connection.committed.contains "urn:g" t = true := ht
  rw [show overheard.connection.committed = QuadStore.empty from rfl,
    QuadStore.contains_empty] at hcontains
  cases hcontains

theorem mem_replay_added (t : Triple) {ts : List Triple} (ht : t ∈ ts) (m : Mirror) :
    t ∈ (Event.added "urn:g" ts).replay m "urn:g" :=
  Or.inl ⟨rfl, ht⟩

/-- A triple is added in a transaction that is rolled back. -/
def addThenAbort : Course Unit :=
  .control false .begin fun _ => .operation (.write .add Handle.sample) fun _ =>
    .control true .abort fun _ => .done (.ok ())

/-- What was told of the discarded work is in the mirror and not in the store. -/
theorem misleads_addThenAbort : addThenAbort.Misleads := by
  have hsample : ¬ Handle.sample.object.IsUntaggedLangString := by decide
  have hheard : addThenAbort.Heard "urn:g" := fun _ => ⟨hsample, fun _ _ => trivial⟩
  have hjournal : addThenAbort.journal overheard =
      [.opened, .told (.added "urn:g" [Handle.sample]), .discarded] := by decide +kernel
  refine misleads_of_journal hheard hjournal rfl fun hsame => ?_
  have htold := mem_replay_added Handle.sample (List.mem_singleton_self _)
    overheard.connection.committed.contents
  have hsettled : overheard.connection.committed.contents "urn:g" =
      (Event.added "urn:g" [Handle.sample]).replay
        overheard.connection.committed.contents "urn:g" := congrFun hsame "urn:g"
  rw [← hsettled] at htold
  exact not_mem_overheard Handle.sample htold

/-- A triple whose subject is a literal. -/
def misplaced : Triple := { Handle.sample with subject := .literal (.plain "x") }

/-- One full batch and a triple that cannot be coded. -/
def batchThenMisplaced : List Triple := List.replicate batchLimit Handle.sample ++ [misplaced]

/-- A write that fails after its first batch, in a transaction that is published. -/
def failThenCommit : Course Unit :=
  .control false .begin fun _ => .operation (.writeMany .add batchThenMisplaced true) fun _ =>
    .control true .commit fun _ => .done (.ok ())

/-- The full batch in front of the misplaced triple was sent. -/
theorem mem_sentBefore : Handle.sample ∈ Handle.sentBefore batchThenMisplaced := by
  have hfront : batchThenMisplaced.takeWhile (fun t => t.encode.isOk) =
      List.replicate batchLimit Handle.sample := by
    have hmisplaced : [misplaced].takeWhile (fun t => t.encode.isOk) = [] := rfl
    unfold batchThenMisplaced
    rw [List.takeWhile_append_of_pos, hmisplaced, List.append_nil]
    intro t ht
    rw [List.eq_of_mem_replicate ht]
    rfl
  -- The batch is full, so all of it was sent.
  have hall : Handle.sentBefore batchThenMisplaced = List.replicate batchLimit Handle.sample := by
    unfold Handle.sentBefore
    dsimp only
    rw [hfront, List.length_replicate, Nat.mod_self, Nat.sub_zero]
    exact List.take_of_length_le (List.length_replicate ..).le
  rw [hall]
  exact List.mem_replicate.2 ⟨by decide, rfl⟩

theorem storable_batchThenMisplaced :
    ∀ t ∈ batchThenMisplaced, ¬ t.object.IsUntaggedLangString := by
  intro t ht
  rcases List.mem_append.1 ht with hsample | hmisplaced
  · rw [List.eq_of_mem_replicate hsample]
    decide
  · rw [List.mem_singleton.1 hmisplaced]
    decide

/-- The write failed and is told to nobody, and its full batch is published with the
transaction. -/
theorem journal_failThenCommit : failThenCommit.journal overheard =
    [.opened, .left (.added "urn:g" (Handle.sentBefore batchThenMisplaced)), .published] := by
  let h₁ := ((Control.begin.act false).on overheard).2
  let o : Operation := .writeMany .add batchThenMisplaced true
  have hs₁ : h₁.Serves := ⟨rfl, rfl, rfl⟩
  have hauto₁ : h₁.connection.autoCommit = false := rfl
  have hoffered₁ : h₁.connection.supportsTransactions = true := rfl
  have hbatch := storable_batchThenMisplaced
  have hbegun := Control.entered accounts_overheard false .begin
  have hopened : Control.begin.entries false overheard = [.opened] := rfl
  -- It stops at the triple that cannot be coded.
  have hfails : ∃ e, (o.act.on h₁).1 = .error e := by
    rw [Operation.act_writeMany_on]
    rcases Handle.writeMany_staged hs₁ hauto₁ .add hbatch with ⟨hcoded, -⟩ | ⟨e, h', hwrite, -⟩
    · obtain ⟨e, he⟩ := hcoded misplaced (List.mem_append_right _ (List.mem_singleton_self _))
      cases he
    · rw [hwrite]
      exact ⟨e, rfl⟩
  have hleft : o.entries h₁ =
      [.left (.added "urn:g" (Handle.sentBefore batchThenMisplaced))] := by
    obtain ⟨e, he⟩ := hfails
    rw [Operation.entries, he]
    rfl
  have hwritten := Operation.entered (o := o) hbegun.accounts ⟨rfl, hbatch⟩
  have hpublished : Control.commit.entries true (o.act.on h₁).2 = [.published] :=
    Control.entries_of_offered hwritten.accounts (hwritten.offered.trans hoffered₁) true .commit
  have hjournal : failThenCommit.journal overheard =
      Control.begin.entries false overheard ++
        (o.entries h₁ ++ (Control.commit.entries true (o.act.on h₁).2 ++ [])) := rfl
  rw [hjournal, hopened, hleft, hpublished]
  rfl

/-- What the failed write left is in the store and not in the mirror. -/
theorem misleads_failThenCommit : failThenCommit.Misleads := by
  have hheard : failThenCommit.Heard "urn:g" :=
    fun _ => ⟨⟨rfl, storable_batchThenMisplaced⟩, fun _ _ => trivial⟩
  refine misleads_of_journal hheard journal_failThenCommit rfl fun hsame => ?_
  have hleft := mem_replay_added Handle.sample mem_sentBefore
    overheard.connection.committed.contents
  have hdelivered : (Event.added "urn:g" (Handle.sentBefore batchThenMisplaced)).replay
      overheard.connection.committed.contents "urn:g" =
        overheard.connection.committed.contents "urn:g" := congrFun hsame "urn:g"
  rw [hdelivered] at hleft
  exact not_mem_overheard Handle.sample hleft

/-- A triple that is not kept as it is. -/
def untagged : Triple := { Handle.sample with object := .literal (.ofTyped "x" .langString) }

/-- It is added. -/
def addUntagged : Course Unit :=
  .operation (.write .add untagged) fun _ => .done (.ok ())

/-- What was told to be added is in the mirror, while the store keeps it as another triple. -/
theorem misleads_addUntagged : addUntagged.Misleads := by
  have hs : overheard.Serves := ⟨rfl, rfl, rfl⟩
  obtain ⟨e, he⟩ : ∃ e, untagged.encode = .ok e := ⟨_, rfl⟩
  let h' := (overheard.written .add untagged e).notify (.added "urn:g" [untagged])
  have hadd : (Handle.add untagged).on overheard = (.ok (), h') :=
    Handle.sendOne_tell_of_accepts hs.accepts he _
  have hrun : addUntagged.act.on overheard = (.ok (), h') := by
    rw [addUntagged, act, Attempt.on_bind, Attempt.on_outcome, Operation.act, Attempt.on_bind, hadd]
    rfl
  unfold Misleads
  rw [hrun]
  refine ⟨rfl, [.added "urn:g" [untagged]], rfl, fun hsame => ?_⟩
  have htold := mem_replay_added untagged (List.mem_singleton_self _)
    overheard.connection.committed.contents
  have hcommitted : h'.connection.committed =
      (overheard.connection.committed.insert "urn:g" untagged.stored).2 := rfl
  have hkept : h'.connection.committed.contains "urn:g" untagged = true := by
    have hall : h'.connection.committed.contents "urn:g" =
        (Event.added "urn:g" [untagged]).replay
          overheard.connection.committed.contents "urn:g" := congrFun hsame "urn:g"
    rw [← hall] at htold
    exact htold
  rw [hcommitted, QuadStore.contains_insert] at hkept
  -- The store holds the triple in its plain form, which is another one.
  rcases hkept with ⟨-, hstored⟩ | hbefore
  · exact absurd hstored (by decide)
  · exact not_mem_overheard untagged hbefore

/-- The events alone do not do: they tell of what was rolled back, they are silent about batches
that a failed write left behind, and they tell of triples that are not kept as they are. -/
theorem not_points_mirrored_told :
    addThenAbort.Misleads ∧ failThenCommit.Misleads ∧ addUntagged.Misleads :=
  ⟨misleads_addThenAbort, misleads_failThenCommit, misleads_addUntagged⟩

end Course

end QuadClient
