import QuadClient.Proofs.Graph.Frame
import QuadClient.Proofs.Local.Transactions

/-!
# A batched write as a whole

Outside of a transaction a batched write begins one of its own. It stages its batches there,
publishes them together, and discards them if anything fails. A store that refuses to discard
them has them published all the same, when autocommit is switched back on.
-/

namespace QuadClient

open Framed (frame inFrame)
open LocalConnection (InAutocommit Staged)

namespace Handle

variable {h : Handle LocalConnection} {s : QuadStore} {kind : WriteKind} {α : Type}

/-- The handle once its connection began a transaction. -/
def begun (h : Handle LocalConnection) : Handle LocalConnection :=
  { h with connection := h.connection.begun }

/-- The handle once its work was published and the transaction ended. -/
def concluded (h : Handle LocalConnection) : Handle LocalConnection :=
  { h with connection := h.connection.published.ended }

/-- The handle once its work was discarded, unless that was refused, and the transaction ended. -/
def withdrawn (h : Handle LocalConnection) : Handle LocalConnection :=
  { h with
    connection :=
      (if h.connection.faults.rollback then h.connection else h.connection.discarded).ended }

/-! ### The transaction of a write -/

/-- A write on a closed handle or connection ends before it asks for the switch. -/
theorem enterWrite_of_refuses (hr : h.Refuses) (kind : WriteKind) :
    (enterWrite kind).on h =
      (.error (if h.isClosed then .closed else .ofMutation kind .closed), h) := by
  -- The handle is asked first, so its error hides that of the connection.
  by_cases hclosed : h.isClosed = true
  · rw [enterWrite, onConnection_of_closed hclosed, if_pos hclosed]
  · have hauto : (Connection.autoCommit : Attempt CallError LocalConnection Bool).on h.connection =
        (.error .closed, h.connection) :=
      LocalConnection.whenOpen_of_closed (hr.resolve_left hclosed)
    rw [enterWrite, onConnection_of_open (Bool.eq_false_iff.2 hclosed), if_neg hclosed]
    simp only [Attempt.on_mapError, Attempt.on_bind, hauto]
    rfl

/-- A write outside of a transaction begins one, unless the switch is refused. -/
theorem enterWrite_of_open (hopen : h.isClosed = false)
    (hconnection : h.connection.isClosed = false) (ha : h.connection.InAutocommit)
    (kind : WriteKind) :
    (enterWrite kind).on h =
      if h.connection.faults.setAutoCommit then
        (.error (.ofMutation kind (.transaction "autocommit toggle refused")), h)
      else (.ok true, h.begun) := by
  have hauto : (Connection.autoCommit : Attempt CallError LocalConnection Bool).on h.connection =
      (.ok true, h.connection) := by
    rw [← ha.autoCommit]
    exact LocalConnection.whenOpen_of_open hconnection
  have htoggle : (Connection.setAutoCommit false).on h.connection =
      LocalConnection.setAutoCommit false h.connection := rfl
  rw [enterWrite, onConnection_of_open hopen]
  simp only [Attempt.on_mapError, Attempt.on_bind, hauto, if_true, htoggle,
    ha.setAutoCommit_false hconnection]
  cases hfault : h.connection.faults.setAutoCommit with
  | true => rfl
  | false => rfl

/-- A write outside of a transaction begins one, or fails and changes nothing. -/
theorem enterWrite_cases (ha : h.connection.InAutocommit) (kind : WriteKind) :
    (∃ e, (enterWrite kind).on h = (.error e, h)) ∨
      h.isClosed = false ∧ h.connection.isClosed = false ∧
        h.connection.faults.setAutoCommit = false ∧
        (enterWrite kind).on h = (.ok true, h.begun) := by
  rcases h.open_or_refuses with ⟨hopen, hconnection⟩ | hr
  · rw [enterWrite_of_open hopen hconnection ha]
    split
    · exact Or.inl ⟨_, rfl⟩
    · next haccepted => exact Or.inr ⟨hopen, hconnection, Bool.eq_false_iff.2 haccepted, rfl⟩
  · exact Or.inl ⟨_, enterWrite_of_refuses hr kind⟩

/-- Staged work is published, or the commit is refused and nothing changes. -/
theorem publishWrite_of_staged (hopen : h.isClosed = false) (hs : h.connection.Staged s)
    (htoggle : h.connection.faults.setAutoCommit = false) (kind : WriteKind) :
    (publishWrite kind).on h =
      if h.connection.faults.commit then
        (.error (.ofMutation kind (.transaction "commit refused by store")), h)
      else (.ok (), h.concluded) := by
  have hcommit : (Connection.commit : Attempt CallError LocalConnection Unit).on h.connection =
      LocalConnection.commit h.connection := rfl
  have hend : (Connection.setAutoCommit true).on h.connection.published =
      (.ok (), h.connection.published.ended) := hs.published.setAutoCommit_accepted htoggle
  rw [publishWrite, onConnection_of_open hopen]
  simp only [Attempt.on_mapError, Attempt.on_bind, hcommit,
    LocalConnection.commit_of_open hs.isOpen]
  cases hfault : h.connection.faults.commit with
  | true => rfl
  -- The commit went through, and the switch behind it is accepted.
  | false =>
    simp only [Bool.false_eq_true, if_false, hend]
    rfl

/-- Staged work is discarded if the store allows it; the transaction ends in any case. -/
theorem discardWrite_of_staged (hopen : h.isClosed = false) (hs : h.connection.Staged s)
    (htoggle : h.connection.faults.setAutoCommit = false) :
    (discardWrite : GraphAction LocalConnection Unit).on h = (.ok (), h.withdrawn) := by
  have hrollback : (Connection.rollback : Attempt CallError LocalConnection Unit).on h.connection =
      LocalConnection.rollback h.connection := rfl
  -- Whatever the rollback came to, a transaction is open and is ended.
  have hend {c : LocalConnection} (hc : c.Staged s) (hfaults : c.faults = h.connection.faults) :
      (Connection.setAutoCommit true).on c = (.ok (), c.ended) :=
    hc.setAutoCommit_accepted (by rw [hfaults, htoggle])
  rw [discardWrite, onConnection_of_open hopen]
  simp only [Attempt.on_bind, Attempt.on_outcome, hrollback,
    LocalConnection.rollback_of_open hs.isOpen]
  unfold withdrawn
  cases hfault : h.connection.faults.rollback with
  -- It was refused: the work is still staged when the transaction ends.
  | true =>
    simp only [if_true, hend hs rfl]
    rfl
  | false =>
    simp only [Bool.false_eq_true, if_false, hend hs.discarded rfl]
    rfl

/-- Work that was published is what the store holds. -/
theorem committed_concluded (hs : h.connection.Staged s) :
    h.concluded.connection.committed = h.visible :=
  hs.visible_published

/-- What the store holds once the work was withdrawn: what was published before, unless the store
refused to discard the work. -/
theorem committed_withdrawn (hs : h.connection.Staged s) :
    h.withdrawn.connection.committed = if h.connection.faults.rollback then h.visible else s := by
  unfold withdrawn
  split
  · rfl
  · -- The rollback was accepted, so the end publishes what was published before.
    show h.connection.discarded.visible = s
    rw [LocalConnection.visible_discarded, hs.committed]

/-- Work that failed is withdrawn. -/
theorem leaveWrite_of_error (hopen : h.isClosed = false) (hs : h.connection.Staged s)
    (htoggle : h.connection.faults.setAutoCommit = false) (kind : WriteKind) (e : Error) :
    (leaveWrite kind true (.error e : Except Error α)).on h = (.error e, h.withdrawn) := by
  have hdiscard := discardWrite_of_staged hopen hs htoggle
  simp only [leaveWrite, if_true, Attempt.on_bind, Attempt.on_outcome, Attempt.on_done, hdiscard]

/-- Work that succeeded is published; if that is refused it is withdrawn. -/
theorem leaveWrite_of_ok (hopen : h.isClosed = false) (hs : h.connection.Staged s)
    (htoggle : h.connection.faults.setAutoCommit = false) (kind : WriteKind) (x : α) :
    (leaveWrite kind true (.ok x)).on h =
      if h.connection.faults.commit then
        (.error (.ofMutation kind (.transaction "commit refused by store")), h.withdrawn)
      else (.ok x, h.concluded) := by
  have hpublish := publishWrite_of_staged hopen hs htoggle kind
  have hdiscard := discardWrite_of_staged hopen hs htoggle
  simp only [leaveWrite, if_true, Attempt.on_bind, Attempt.on_outcome, Attempt.on_done, hpublish]
  -- A refused commit makes the write fail, and what it sent is withdrawn like that of any other.
  cases hfault : h.connection.faults.commit with
  | true => simp only [if_true, Attempt.on_bind, Attempt.on_outcome, Attempt.on_done, hdiscard]
  | false => rfl

/-! ### The write -/

/-- The listeners of a handle are told about a batched write, if they are to be. -/
def announce (kind : WriteKind) (ts : List Triple) (notify : Bool) (h : Handle LocalConnection) :
    Handle LocalConnection :=
  if notify then h.notify (writeEvent kind ts h.graphName) else h

theorem connection_announce (kind : WriteKind) (ts : List Triple) (notify : Bool)
    (h : Handle LocalConnection) : (h.announce kind ts notify).connection = h.connection := by
  unfold announce
  split
  · rfl
  · rfl

/-- A batched write does nothing on a closed handle or a closed connection. -/
theorem writeMany_of_refuses (hr : h.Refuses) (kind : WriteKind) (ts : List Triple)
    (notify : Bool) :
    (writeMany kind ts notify).on h =
      (.error (if h.isClosed then .closed else .ofMutation kind .closed), h) := by
  show ((writeAll kind ts notify h).1.1, (writeAll kind ts notify h).2) = _
  rw [writeAll, enterWrite_of_refuses hr]

/-- What becomes of a batched write that began a transaction of its own: it sends its batches and
leaves the transaction. -/
theorem writeMany_of_begun (hopen : h.isClosed = false)
    (hconnection : h.connection.isClosed = false)
    (htoggle : h.connection.faults.setAutoCommit = false)
    (henter : (enterWrite kind).on h = (.ok true, h.begun)) (ts : List Triple) (notify : Bool) :
    ∃ r p h₁, sendAll kind ts h.begun = ((r, p), h₁) ∧
      h₁.connection.Staged h.connection.committed ∧ frame h₁ = frame h.begun ∧
      (writeMany kind ts notify).on h =
        match r with
        | .error e => (.error e, h₁.withdrawn)
        | .ok n =>
          if h.connection.faults.commit then
            (.error (.ofMutation kind (.transaction "commit refused by store")), h₁.withdrawn)
          else (.ok n, h₁.concluded.announce kind ts notify) := by
  have hframe := frame_sendAll kind ts h.begun
  have hhandle := sendAll_connection kind ts h.begun
  rcases hsend : sendAll kind ts h.begun with ⟨⟨r, p⟩, h₁⟩
  rw [hsend] at hframe hhandle
  -- Sending keeps the frame, so the transaction that is left is the one of this write.
  have hs : h₁.connection.Staged h.connection.committed :=
    (Staged.begun hconnection).of_frame hframe
  have hfaults : h₁.connection.faults = h.connection.faults := congrArg Frame.faults hframe
  have hopen₁ : h₁.isClosed = false := (congrArg Handle.isClosed hhandle).trans hopen
  have htoggle₁ : h₁.connection.faults.setAutoCommit = false := by rw [hfaults, htoggle]
  refine ⟨r, p, h₁, rfl, hs, hframe, ?_⟩
  show ((writeAll kind ts notify h).1.1, (writeAll kind ts notify h).2) = _
  simp only [writeAll, henter, hsend]
  cases r with
  | error e => rw [leaveWrite_of_error hopen₁ hs htoggle₁]
  | ok n =>
    -- It is the commit that decides now, with the faults that the write found.
    rw [leaveWrite_of_ok hopen₁ hs htoggle₁, hfaults]
    cases hfault : h.connection.faults.commit with
    | true => rfl
    | false => rfl

/-- A batched write has begun its own transaction on the handle and sent these triples. -/
structure Sending (kind : WriteKind) (sent : List Triple) (h h₁ : Handle LocalConnection) :
    Prop where
  handle : h₁ = { h with connection := h₁.connection }
  staged : h₁.connection.Staged h.connection.committed
  frame : frame h₁ = frame h.begun
  visible : h₁.visible = h.connection.committed.write kind h.graphName sent

theorem Sending.faults {sent : List Triple} {h₁ : Handle LocalConnection}
    (hs : h.Sending kind sent h₁) : h₁.connection.faults = h.connection.faults :=
  congrArg Frame.faults hs.frame

theorem Sending.listeners {sent : List Triple} {h₁ : Handle LocalConnection}
    (hs : h.Sending kind sent h₁) : h₁.listeners = h.listeners := by
  rw [hs.handle]

theorem Sending.graphName {sent : List Triple} {h₁ : Handle LocalConnection}
    (hs : h.Sending kind sent h₁) : h₁.graphName = h.graphName := by
  rw [hs.handle]

/-- A batched write outside of a transaction fails before it does anything, or it begins a
transaction. Then it withdraws what it sent, or it publishes its whole list and tells of it. -/
theorem writeMany_cases (kind : WriteKind) (ts : List Triple) (notify : Bool)
    (ha : h.connection.InAutocommit) :
    (∃ e, (writeMany kind ts notify).on h = (.error e, h)) ∨
      (h.connection.faults.setAutoCommit = false ∧ ∃ e h₁ sent, h.Sending kind sent h₁ ∧
        sent <+: ts ∧ (writeMany kind ts notify).on h = (.error e, h₁.withdrawn)) ∨
      ∃ h₁, h.Sending kind ts h₁ ∧
        (writeMany kind ts notify).on h =
          (.ok ts.length, h₁.concluded.announce kind ts notify) := by
  rcases enterWrite_cases ha kind with ⟨e, henter⟩ | ⟨hopen, hconnection, htoggle, henter⟩
  · -- The transaction was not begun, so nothing else was tried.
    have hwrite : (writeMany kind ts notify).on h = (.error e, h) := by
      show ((writeAll kind ts notify h).1.1, (writeAll kind ts notify h).2) = _
      rw [writeAll, henter]
    exact Or.inl ⟨e, hwrite⟩
  · obtain ⟨r, p, h₁, hsend, hs, hframe, hwrite⟩ :=
      writeMany_of_begun hopen hconnection htoggle henter ts notify
    obtain ⟨r', p', h₁', sent, hsend', hprefix, -, hvisible, hall⟩ :=
      sendAll_cases kind ts h.begun
    have hhandle := sendAll_connection kind ts h.begun
    rw [hsend] at hsend' hhandle
    cases hsend'
    have hsending : h.Sending kind sent h₁ := ⟨hhandle, hs, hframe, hvisible⟩
    rw [hwrite]
    cases r with
    -- The sending failed.
    | error e => exact Or.inr (Or.inl ⟨htoggle, e, h₁, sent, hsending, hprefix, rfl⟩)
    | ok n =>
      obtain ⟨rfl, rfl⟩ := hall n rfl
      cases hcommit : h.connection.faults.commit with
      -- The whole list was sent, but the commit was refused.
      | true => exact Or.inr (Or.inl ⟨htoggle, _, h₁, sent, hsending, hprefix, rfl⟩)
      | false => exact Or.inr (Or.inr ⟨h₁, hsending, rfl⟩)

/-- A batched write outside of a transaction that succeeds publishes its whole list and leaves
autocommit on. One that fails publishes nothing, unless the store refuses to discard what was
sent: then those triples of the list that were sent are published. -/
theorem writeMany_whole (kind : WriteKind) (ts : List Triple) (notify : Bool)
    {h : Handle LocalConnection} (ha : h.connection.InAutocommit) :
    let c := h.connection
    let r := (writeMany kind ts notify).on h
    let c' := r.2.connection
    (∀ n, r.1 = .ok n → n = ts.length ∧ c'.autoCommit = true ∧
      c'.committed = c.committed.write kind h.graphName ts) ∧
    ∀ e, r.1 = .error e → c'.committed = c.committed ∨
      c.faults.rollback = true ∧ c.faults.setAutoCommit = false ∧
        ∃ sent, sent <+: ts ∧ c'.committed = c.committed.write kind h.graphName sent := by
  dsimp only
  rcases writeMany_cases kind ts notify ha with
    ⟨e, hwrite⟩ | ⟨htoggle, e, h₁, sent, hsending, hprefix, hwrite⟩ | ⟨h₁, hsending, hwrite⟩
  · -- It failed before it began.
    rw [hwrite]
    exact ⟨nofun, fun _ _ => Or.inl rfl⟩
  · rw [hwrite]
    refine ⟨nofun, fun _ _ => ?_⟩
    -- The end of the transaction publishes what a refused rollback left in it.
    rw [committed_withdrawn hsending.staged, hsending.faults]
    split
    · next hrollback => exact Or.inr ⟨hrollback, htoggle, sent, hprefix, hsending.visible⟩
    · exact Or.inl rfl
  · -- It succeeded: the list that was sent is the whole list, and it is published.
    rw [hwrite]
    refine ⟨fun n hn => ?_, nofun⟩
    obtain rfl : ts.length = n := Except.ok.inj hn
    rw [connection_announce]
    exact ⟨rfl, rfl, (committed_concluded hsending.staged).trans hsending.visible⟩

/-- A handle on a new connection that shows these faults. -/
def ofFaults (faults : Faults) : Handle LocalConnection where
  connection := { faults }
  graphName := "urn:g"

theorem inAutocommit_ofFaults (faults : Faults) : (ofFaults faults).connection.InAutocommit :=
  ⟨rfl, rfl⟩

/-- A triple to write. -/
def sample : Triple := ⟨.iri ⟨"urn:s", rfl⟩, .iri ⟨"urn:p", rfl⟩, .literal (.plain "x")⟩

theorem contains_write_sample (faults : Faults) :
    ((ofFaults faults).connection.committed.write .add "urn:g" [sample]).contains "urn:g" sample =
      true :=
  QuadStore.contains_write_add.2 (Or.inl ⟨rfl, sample, List.mem_singleton_self _, rfl⟩)

theorem writeMany_whole_published :
    (ofFaults {}).connection.InAutocommit ∧
      ∃ h', (writeMany .add [sample] true).on (ofFaults {}) = (.ok 1, h') ∧
        h'.connection.autoCommit = true ∧
        h'.connection.committed.contains "urn:g" sample = true := by
  have ha := inAutocommit_ofFaults {}
  rcases hwrite : (writeMany .add [sample] true).on (ofFaults {}) with ⟨r, h'⟩
  have hok : r = .ok 1 := (congrArg Prod.fst hwrite).symm.trans rfl
  obtain ⟨-, hauto, hcommitted⟩ := (writeMany_whole .add [sample] true ha).1 1 (by rw [hwrite, hok])
  rw [hwrite] at hauto hcommitted
  refine ⟨ha, h', by rw [hok], hauto, ?_⟩
  rw [hcommitted]
  exact contains_write_sample {}

/-- A handle on a store that refuses to commit as well as to roll back. -/
def stubborn : Handle LocalConnection :=
  ofFaults { commit := true, rollback := true }

/-- The write fails and is published. -/
theorem not_writeMany_whole_refused :
    stubborn.connection.InAutocommit ∧
      ∃ e h', (writeMany .add [sample] true).on stubborn = (.error e, h') ∧
        stubborn.connection.committed.contains "urn:g" sample = false ∧
        h'.connection.committed.contains "urn:g" sample = true := by
  have henter : (enterWrite .add).on stubborn = (.ok true, stubborn.begun) := rfl
  obtain ⟨r, p, h₁, hsend, hs, hframe, hwrite⟩ :=
    writeMany_of_begun rfl rfl rfl henter [sample] true
  have hfaults : h₁.connection.faults = stubborn.connection.faults :=
    congrArg Frame.faults hframe
  obtain ⟨r', p', h₁', sent, hsend', -, -, hvisible, hall⟩ :=
    sendAll_cases .add [sample] stubborn.begun
  rw [hsend] at hsend'
  cases hsend'
  have hok : r = .ok 1 := (congrArg (·.1.1) hsend).symm.trans rfl
  obtain ⟨-, rfl⟩ := hall 1 hok
  have hcommit : stubborn.connection.faults.commit = true := rfl
  have hrollback : stubborn.connection.faults.rollback = true := rfl
  -- The commit fails, and so does the rollback, so the end of the transaction publishes the
  -- triple.
  simp only [hok, hcommit, if_true] at hwrite
  refine ⟨inAutocommit_ofFaults _, _, _, hwrite, QuadStore.contains_empty _ _, ?_⟩
  rw [committed_withdrawn hs, hfaults, if_pos hrollback, hvisible]
  exact contains_write_sample _

end Handle

end QuadClient
