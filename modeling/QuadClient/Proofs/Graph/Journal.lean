import QuadClient.Proofs.Graph.Batching
import QuadClient.Proofs.Graph.Mirror
import QuadClient.Proofs.Graph.TransactionSteps

/-!
# A journal of the graph

Listeners are told of an operation when its statements have run, whether or not the work is
published later on. So the events alone do not say what is published once transactions are used.
A journal does that also enters where transactions begin and end, and the batches that a failed
write left in an open transaction. What was told inside a transaction counts when it is published,
and is struck out when it is discarded.
-/

namespace QuadClient

open Framed (frame)
open LocalConnection (InAutocommit Staged)

variable {α β : Type}

/-! ### The journal -/

/-- What is worth a note of a run. -/
inductive Entry where
  /-- the listeners were told an event -/
  | told (e : Event)
  /-- a batched write failed inside of a transaction and left there what this event says -/
  | left (e : Event)
  /-- a transaction was begun -/
  | opened
  /-- the work of the transaction was published -/
  | published
  /-- the work of the transaction was discarded -/
  | discarded
  deriving DecidableEq

namespace Entry

/-- The event of an entry that was told. -/
def event? : Entry → Option Event
  | told e => some e
  | left _ | opened | published | discarded => none

/-- The events that listeners were told, in order. -/
def delivered (es : List Entry) : List Event :=
  es.filterMap event?

/-- Listeners who go by the events alone need not know of this entry. -/
def IsPlain : Entry → Prop
  | told _ | opened | published => True
  | left _ | discarded => False

theorem delivered_append (es fs : List Entry) :
    delivered (es ++ fs) = delivered es ++ delivered fs :=
  List.filterMap_append

end Entry

/-- What the journal comes to: the changes that are published, and those of the transaction that
is open, if there is one. -/
structure Ledger where
  /-- what is published -/
  settled : List Event := []
  /-- what was done in the open transaction -/
  pending : Option (List Event) := none

namespace Ledger

variable {l : Ledger} {e : Event}

/-- The changes that are seen from inside of the transaction. -/
def seen (l : Ledger) : List Event :=
  l.settled ++ l.pending.getD []

/-- A change joins the open transaction, or is published at once. -/
def add (e : Event) (l : Ledger) : Ledger :=
  match l.pending with
  | none => { l with settled := l.settled ++ [e] }
  | some es => { l with pending := some (es ++ [e]) }

/-- The next entry of the journal is taken over. -/
def enter (l : Ledger) : Entry → Ledger
  | .told e | .left e => l.add e
  | .opened => { l with pending := some (l.pending.getD []) }
  | .published => { settled := l.seen }
  | .discarded => { settled := l.settled }

/-- The journal is taken over, entry by entry. -/
def enterAll (l : Ledger) (es : List Entry) : Ledger :=
  es.foldl enter l

theorem enterAll_append (es fs : List Entry) :
    l.enterAll (es ++ fs) = (l.enterAll es).enterAll fs :=
  List.foldl_append

/-- A change is seen at once, be it pending or published. -/
theorem seen_add : (l.add e).seen = l.seen ++ [e] := by
  obtain ⟨settled, pending⟩ := l
  cases pending with
  | none => simp [add, seen]
  | some es => simp [add, seen]

/-- An entry that is plain shows what it tells and nothing else. -/
theorem seen_enter {entry : Entry} (h : entry.IsPlain) :
    (l.enter entry).seen = l.seen ++ entry.event?.toList := by
  cases entry with
  | told e => exact seen_add
  | left e => exact h.elim
  | opened => exact (List.append_nil _).symm
  | published => rfl
  | discarded => exact h.elim

/-- Where nothing was struck out and nothing was left behind, the events alone tell what is
seen. -/
theorem seen_enterAll {es : List Entry} (h : ∀ entry ∈ es, entry.IsPlain) :
    (l.enterAll es).seen = l.seen ++ Entry.delivered es := by
  induction es generalizing l with
  | nil => exact (List.append_nil _).symm
  | cons entry es ih =>
    obtain ⟨hentry, hes⟩ := List.forall_mem_cons.1 h
    have hcons : Entry.delivered (entry :: es) = entry.event?.toList ++ Entry.delivered es := by
      unfold Entry.delivered
      rw [List.filterMap_cons]
      cases entry.event? with
      | none => rfl
      | some e => rfl
    have hrest : (l.enterAll (entry :: es)).seen = ((l.enter entry).enterAll es).seen := rfl
    rw [hrest, ih hes, seen_enter hentry, hcons, List.append_assoc]

/-- The connection is in a transaction if the ledger is. -/
def Agrees (l : Ledger) (c : LocalConnection) : Prop :=
  match l.pending with
  | none => c.InAutocommit
  | some _ => c.Staged c.committed

/-- The ledger tells from these triples those that are published and those that are seen. -/
structure Accounts (graph : String) (m : Mirror) (l : Ledger) (h : Handle LocalConnection) :
    Prop where
  serves : h.Serves
  graphName : h.graphName = graph
  settled : h.connection.committed.contents = Event.replayAll l.settled m
  seen : h.visible.contents = Event.replayAll l.seen m
  agrees : l.Agrees h.connection

variable {graph : String} {m : Mirror} {h h' : Handle LocalConnection}

/-- A ledger that accounts for a connection finds it in autocommit or in a transaction. -/
theorem Accounts.steady (hl : l.Accounts graph m h) : Transaction.Steady h.connection := by
  have hagrees := hl.agrees
  unfold Agrees at hagrees
  split at hagrees
  · exact Or.inl hagrees
  · exact Or.inr ⟨_, hagrees⟩

/-- Nothing is pending in autocommit mode. -/
theorem Accounts.pending_eq_none (hl : l.Accounts graph m h)
    (hauto : h.connection.autoCommit = true) : l.pending = none := by
  have hagrees := hl.agrees
  unfold Agrees at hagrees
  split at hagrees
  · next hnone => exact hnone
  · rw [hagrees.autoCommit] at hauto
    cases hauto

/-- In autocommit a ledger with nothing pending accounts for what is published. -/
theorem accounts_of_auto {es : List Event} (hs : h.Serves) (hname : h.graphName = graph)
    (ha : h.connection.InAutocommit)
    (hsettled : h.connection.committed.contents = Event.replayAll es m) :
    Accounts graph m { settled := es } h := by
  refine ⟨hs, hname, hsettled, ?_, ha⟩
  have hvisible : h.visible = h.connection.committed := ha.visible
  have hseen : ({ settled := es } : Ledger).seen = es := List.append_nil es
  rw [hvisible, hseen, hsettled]

end Ledger

/-- The way from one handle to the other, with these entries in the journal. -/
structure Entered (graph : String) (m : Mirror) (es : List Entry) (l : Ledger)
    (h h' : Handle LocalConnection) : Prop where
  accounts : (l.enterAll es).Accounts graph m h'
  listeners : h'.listeners = h.listeners.map (Mailbox.receive (Entry.delivered es))
  offered : h'.connection.supportsTransactions = h.connection.supportsTransactions

variable {graph : String} {m : Mirror} {l : Ledger} {h h₁ h₂ : Handle LocalConnection}
  {es fs : List Entry}

theorem Entered.nil (hl : l.Accounts graph m h) : Entered graph m [] l h h :=
  ⟨hl, (Mailbox.map_receive_nil h.listeners).symm, rfl⟩

/-- What was entered in two parts is entered as one. -/
theorem Entered.append (h₀₁ : Entered graph m es l h h₁)
    (h₁₂ : Entered graph m fs (l.enterAll es) h₁ h₂) : Entered graph m (es ++ fs) l h h₂ where
  accounts := by
    rw [Ledger.enterAll_append]
    exact h₁₂.accounts
  -- What the listeners were told is in the entries, part by part.
  listeners := by
    rw [h₁₂.listeners, h₀₁.listeners, List.map_map, Entry.delivered_append]
    exact List.map_congr_left fun mailbox _ => mailbox.receive_receive _ _
  offered := h₁₂.offered.trans h₀₁.offered

/-! ### Operations -/

namespace Operation

/-- What is left in an open transaction by the operation if it fails there. -/
def leftover (graph : String) : Operation → List Entry
  | writeMany kind ts _ => [.left (Handle.writeEvent kind (Handle.sentBefore ts) graph)]
  | write _ _ | remove _ | wipe | clear | find _ | contains _ | size => []

/-- The entries of an operation: its event if it succeeds. If it fails in autocommit mode it
undoes what it did. -/
def entries (o : Operation) (h : Handle LocalConnection) : List Entry :=
  match (o.act.on h).1 with
  | .ok _ => (o.event? h.graphName).toList.map .told
  | .error _ => if h.connection.autoCommit then [] else o.leftover h.graphName

variable {o : Operation}

theorem entries_of_ok {x : Answer} {event : Event} (hx : (o.act.on h).1 = .ok x)
    (hevent : o.event? h.graphName = some event) : o.entries h = [.told event] := by
  simp [entries, hx, hevent]

/-- An operation keeps an open handle open, and its graph. -/
theorem serves_act (hs : h.Serves) (hterms : (o.act.on h).2.OnTermsOf h) :
    (o.act.on h).2.Serves ∧ (o.act.on h).2.graphName = h.graphName := by
  have hprofile : (o.act.on h).2.profile = h.profile := (o.has_act h rfl).1
  refine ⟨⟨?_, ?_, ?_⟩, congrArg Handle.Profile.graphName hprofile⟩
  · exact (congrArg Handle.Profile.isClosed hprofile).trans hs.isOpen
  · exact hterms.faults.trans hs.connection.faults
  · exact hterms.isClosed.trans hs.connection.isOpen

/-- In autocommit mode an operation is entered with what it did to the published triples. -/
theorem entered_of_auto (hl : l.Accounts graph m h) (ha : h.connection.InAutocommit)
    (hheard : o.Heard graph) : Entered graph m (o.entries h) l h (o.act.on h).2 := by
  have hp : h.Publishing graph := ⟨hl.graphName, ha, by rw [hl.serves.connection.faults]⟩
  obtain ⟨ha', hterms⟩ := onTerms_act ha o
  obtain ⟨hs', hname'⟩ := serves_act hl.serves hterms
  have hpending := hl.pending_eq_none ha.autoCommit
  -- In autocommit nothing is pending, so the ledger is what is settled.
  have hl_eq : l = { settled := l.settled } := by rw [← hpending]
  have hsettled := hl.settled
  rcases mirrored_of_heard hp hheard with
    ⟨⟨e, he⟩, hlisteners, hcommitted⟩ | ⟨x, event, hx, hevent, hlisteners, hcontents⟩
  · -- It failed, undid what it did, and is not entered.
    have hentries : o.entries h = [] := by simp [entries, he, ha.autoCommit]
    have hnone := Mailbox.map_receive_nil h.listeners
    rw [hentries]
    refine ⟨?_, hlisteners.trans hnone.symm, hterms.offered⟩
    rw [hl_eq]
    exact Ledger.accounts_of_auto hs' (hname'.trans hl.graphName) ha' (by rw [hcommitted, hsettled])
  · -- Its event is settled at once.
    rw [entries_of_ok hx hevent]
    refine ⟨?_, hlisteners, hterms.offered⟩
    rw [hl_eq]
    refine Ledger.accounts_of_auto hs' (hname'.trans hl.graphName) ha' ?_
    rw [hcontents, hsettled, Event.replayAll_append]
    rfl

end Operation

/-- A batched write inside of a transaction sends its whole list and tells of it, or leaves the
full batches in front of a triple that cannot be coded. -/
theorem Handle.writeMany_staged (hs : h.Serves) (hauto : h.connection.autoCommit = false)
    (kind : WriteKind) {ts : List Triple} (hts : ∀ t ∈ ts, ¬ t.object.IsUntaggedLangString) :
    (∀ t ∈ ts, ∃ e, t.encode = .ok e) ∧ (∃ h', (writeMany kind ts true).on h = (.ok ts.length, h') ∧
        h.Told (writeEvent kind ts h.graphName) h') ∨
      ∃ e h', (writeMany kind ts true).on h = (.error e, h') ∧ h'.listeners = h.listeners ∧
        h'.visible.contents =
          (writeEvent kind (sentBefore ts) h.graphName).replay h.visible.contents := by
  have hhandle := sendAll_connection kind ts h
  rw [writeMany_of_staged hauto]
  rcases sendAll_of_serves hs kind ts with
    ⟨hcoded, p, h', hsend, hvisible⟩ | ⟨e, p, h', hsend, hvisible⟩
  · -- The whole list was sent.
    rw [hsend] at hhandle ⊢
    dsimp only at hhandle
    have hlisteners : h'.listeners = h.listeners := by rw [hhandle]
    have hname : h'.graphName = h.graphName := by rw [hhandle]
    refine Or.inl ⟨hcoded, _, rfl, ?_, ?_⟩
    · show h'.listeners.map (Mailbox.send (writeEvent kind ts h'.graphName)) = _
      rw [hlisteners, hname]
    · show h'.visible.contents = _
      rw [hvisible]
      exact QuadStore.contents_write kind hts h.graphName h.visible
  · -- It stopped, and the batches in front were sent.
    have hsent : ∀ t ∈ sentBefore ts, ¬ t.object.IsUntaggedLangString := by
      intro t ht
      exact hts t (List.takeWhile_subset _ (List.mem_of_mem_take ht))
    rw [hsend] at hhandle ⊢
    dsimp only at hhandle
    refine Or.inr ⟨e, h', rfl, by rw [hhandle], ?_⟩
    rw [hvisible]
    exact QuadStore.contents_write kind hsent h.graphName h.visible

/-- A change inside of a transaction joins what is pending. -/
theorem Ledger.Accounts.add (hl : l.Accounts graph m h)
    (hs : h.connection.Staged h.connection.committed) (hs₁ : h₁.Serves)
    (hname : h₁.graphName = h.graphName) (hframe : frame h₁ = frame h) {event : Event}
    (hvisible : h₁.visible.contents = event.replay h.visible.contents) :
    (l.add event).Accounts graph m h₁ := by
  have hstaged : h₁.connection.Staged h.connection.committed := hs.of_frame hframe
  have hcommitted := hstaged.committed
  obtain ⟨settled, pending⟩ := l
  have hagrees := hl.agrees
  cases pending with
  -- Nothing pending would mean autocommit, which is off.
  | none =>
    have hoff := hs.autoCommit
    rw [InAutocommit.autoCommit hagrees] at hoff
    cases hoff
  | some es =>
    refine ⟨hs₁, hname.trans hl.graphName, ?_, ?_, ?_⟩
    · -- What is published is not touched inside of a transaction.
      rw [hcommitted]
      exact hl.settled
    · rw [hvisible, hl.seen, Ledger.seen_add, Event.replayAll_append]
      rfl
    · show h₁.connection.Staged h₁.connection.committed
      rw [hcommitted]
      exact hstaged

namespace Operation

variable {o : Operation}

/-- An operation inside of a transaction that is told is entered with its event. -/
theorem entered_told (hl : l.Accounts graph m h)
    (hs : h.connection.Staged h.connection.committed) {x : Answer} {event : Event}
    (hx : (o.act.on h).1 = .ok x) (hevent : o.event? h.graphName = some event)
    (htold : h.Told event (o.act.on h).2) :
    Entered graph m (o.entries h) l h (o.act.on h).2 := by
  have hframe := o.frame_act hs.autoCommit
  obtain ⟨hs', hname'⟩ := serves_act hl.serves (.of_frame hframe)
  rw [entries_of_ok hx hevent]
  refine ⟨hl.add hs hs' hname' hframe htold.visible, htold.listeners, ?_⟩
  exact (Handle.OnTermsOf.of_frame hframe).offered

/-- Inside of a transaction an operation is entered with what it did to the triples seen there. -/
theorem entered_of_staged (hl : l.Accounts graph m h)
    (hs : h.connection.Staged h.connection.committed) (hheard : o.Heard graph) :
    Entered graph m (o.entries h) l h (o.act.on h).2 := by
  have hauto := hs.autoCommit
  have hnone := (Mailbox.map_receive_nil h.listeners).symm
  rw [← hl.graphName] at hheard
  rcases o.batched_or_other with ⟨kind, ts, notify, rfl⟩ | hother
  · -- A batched write may leave batches behind, in which case these are entered.
    obtain ⟨rfl, hts⟩ := hheard
    rcases Handle.writeMany_staged hl.serves hauto kind hts with
      ⟨-, h', hwrite, htold⟩ | ⟨e, h', hwrite, hlisteners, hvisible⟩
    · have hrun : (writeMany kind ts true).act.on h = (.ok (.number ts.length), h') := by
        rw [act_writeMany_on, hwrite]
        rfl
      exact entered_told hl hs (by rw [hrun]) rfl (by rw [hrun]; exact htold)
    · have hrun : (writeMany kind ts true).act.on h = (.error e, h') := by
        rw [act_writeMany_on, hwrite]
        rfl
      have hframe := (writeMany kind ts true).frame_act hauto
      obtain ⟨hs', hname'⟩ := serves_act hl.serves (.of_frame hframe)
      have hentries : (writeMany kind ts true).entries h =
          [.left (Handle.writeEvent kind (Handle.sentBefore ts) h.graphName)] := by
        simp [entries, hrun, hauto, leftover]
      rw [hrun] at hframe hs' hname'
      rw [hentries, hrun]
      refine ⟨hl.add hs hs' hname' hframe hvisible, hlisteners.trans hnone, ?_⟩
      exact (Handle.OnTermsOf.of_frame hframe).offered
  · -- Any other operation either does nothing or is told.
    rcases act_statement hheard hother with
      ⟨e, hrun⟩ | ⟨-, x, event, h', hrun, hevent, htold⟩
    · have hleft : o.leftover h.graphName = [] := by
        cases o with
        | writeMany kind ts notify => exact absurd rfl (hother kind ts notify)
        | _ => rfl
      have hentries : o.entries h = [] := by simp [entries, hrun, hleft]
      rw [hentries, hrun]
      exact .nil hl
    · exact entered_told hl hs (by rw [hrun]) hevent (by rw [hrun]; exact htold)

/-- An operation is entered with what it did. -/
theorem entered (hl : l.Accounts graph m h) (hheard : o.Heard graph) :
    Entered graph m (o.entries h) l h (o.act.on h).2 := by
  have hagrees := hl.agrees
  unfold Ledger.Agrees at hagrees
  -- The ledger knows whether a transaction is open.
  split at hagrees
  · exact entered_of_auto hl hagrees hheard
  · exact entered_of_staged hl hagrees hheard

/-- A closed handle does nothing that listeners would hear of. -/
theorem act_of_refuses (hr : h.Refuses) (hheard : o.Heard h.graphName) :
    ∃ e, o.act.on h = (.error e, h) := by
  rcases o.batched_or_other with ⟨kind, ts, notify, rfl⟩ | hother
  · rw [act_writeMany_on, Handle.writeMany_of_refuses hr]
    exact ⟨_, rfl⟩
  · rcases act_statement hheard hother with hrun | ⟨ha, -⟩
    · exact hrun
    · rcases hr with hclosed | hclosed
      · rw [ha.isOpen] at hclosed
        cases hclosed
      · rw [ha.connection.isOpen] at hclosed
        cases hclosed

end Operation

end QuadClient
