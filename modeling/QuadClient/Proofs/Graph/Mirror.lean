import Mathlib.Data.Set.Basic
import QuadClient.Proofs.Graph.Profile
import QuadClient.Proofs.Graph.Removal
import QuadClient.Proofs.Graph.Staged

/-!
# A mirror of the graph

Whoever hears the events of a handle can keep a copy of its graph. In autocommit mode the copy
is exact: an operation that fails undoes what it began and tells nothing, one that succeeds tells
one event, and the event says what became of the published triples.
-/

namespace QuadClient

open Framed (frame)
open LocalConnection (InAutocommit Staged)

/-! ### Replaying events -/

/-- The triples of every graph, as somebody who hears the events may keep them. -/
abbrev Mirror := String → Set Triple

/-- The mirror once the event was heard. -/
def Event.replay (e : Event) (m : Mirror) : Mirror :=
  match e with
  | added graph ts => fun name => {t | (name = graph ∧ t ∈ ts) ∨ t ∈ m name}
  | deleted graph ts => fun name => {t | t ∈ m name ∧ ¬ (name = graph ∧ t ∈ ts)}
  | removed graph p => fun name => {t | t ∈ m name ∧ ¬ (name = graph ∧ p.accepts t = true)}
  | cleared graph => fun name => {t | t ∈ m name ∧ name ≠ graph}

/-- The mirror once these events were heard, one after the other. -/
def Event.replayAll (es : List Event) (m : Mirror) : Mirror :=
  es.foldl (fun m e => e.replay m) m

/-- What an exact mirror of the store holds. -/
def QuadStore.contents (s : QuadStore) : Mirror :=
  fun name => {t | s.contains name t = true}

namespace Event

theorem replayAll_cons (e : Event) (es : List Event) (m : Mirror) :
    replayAll (e :: es) m = replayAll es (e.replay m) := rfl

theorem replayAll_append (es fs : List Event) (m : Mirror) :
    replayAll (es ++ fs) m = replayAll fs (replayAll es m) :=
  List.foldl_append

/-- An event says nothing about other graphs than its own. -/
theorem replay_other {e : Event} {name : String} (h : name ≠ e.graph) (m : Mirror) :
    e.replay m name = m name := by
  cases e with
  | added graph ts => simp [replay, show name ≠ graph from h]
  | deleted graph ts => simp [replay, show name ≠ graph from h]
  | removed graph p => simp [replay, show name ≠ graph from h]
  | cleared graph => simp [replay, show name ≠ graph from h]

/-- Events of one graph leave the others alone. -/
theorem replayAll_other {es : List Event} {name : String} (h : ∀ e ∈ es, name ≠ e.graph)
    (m : Mirror) : replayAll es m name = m name := by
  induction es generalizing m with
  | nil => rfl
  | cons e es ih =>
    obtain ⟨he, hes⟩ := List.forall_mem_cons.1 h
    rw [replayAll_cons, ih hes, replay_other he]

end Event

namespace QuadStore

theorem contents_ext {s : QuadStore} {m : Mirror}
    (h : ∀ name t, s.contains name t = true ↔ t ∈ m name) : s.contents = m := by
  funext name
  exact Set.ext (h name)

/-- The triples of a write come into the graph, or go out of it, as its event says. -/
theorem contents_write (kind : WriteKind) {ts : List Triple}
    (hts : ∀ t ∈ ts, ¬ t.object.IsUntaggedLangString) (graph : String) (s : QuadStore) :
    (s.write kind graph ts).contents = (Handle.writeEvent kind ts graph).replay s.contents := by
  -- Each triple is kept as it is, so the event lists what is stored.
  have hstored (u : Triple) : (∃ t ∈ ts, u = t.stored) ↔ u ∈ ts := by
    constructor
    · rintro ⟨t, ht, rfl⟩
      rwa [Triple.stored_of_not (hts t ht)]
    · intro hu
      exact ⟨u, hu, (Triple.stored_of_not (hts u hu)).symm⟩
  apply contents_ext
  intro name u
  cases kind with
  | add => rw [contains_write_add, hstored]; rfl
  | delete => rw [contains_write_delete, hstored]; rfl

theorem contents_dropGraph (graph : String) (s : QuadStore) :
    (s.dropGraph graph).contents = (Event.cleared graph).replay s.contents :=
  contents_ext fun _ _ => contains_dropGraph

/-- A change that takes out what a pattern accepts is told by the event of a removal. -/
theorem contents_takesOut {graph : String} {p : Pattern} {change : Change}
    (h : change.TakesOut graph p) (s : QuadStore) :
    (change.apply s).contents = (Event.removed graph p).replay s.contents :=
  contents_ext fun name t => h s name t

end QuadStore

/-! ### Listeners -/

namespace Mailbox

/-- Events come to a mailbox, unless nobody reads it. -/
def receive (es : List Event) (m : Mailbox) : Mailbox :=
  if m.isOpen then { m with events := m.events ++ es } else m

@[simp] theorem receive_nil (m : Mailbox) : m.receive [] = m := by
  simp [receive]

theorem map_receive_nil (ms : List Mailbox) : ms.map (receive []) = ms := by
  have hsame : receive [] = id := funext receive_nil
  rw [hsame, List.map_id]

theorem receive_receive (es fs : List Event) (m : Mailbox) :
    (m.receive es).receive fs = m.receive (es ++ fs) := by
  by_cases h : m.isOpen = true <;> simp [receive, h]

end Mailbox

/-! ### What operations tell -/

namespace Operation

/-- The event that tells of the operation on this graph, if it is told at all. -/
def event? (graph : String) : Operation → Option Event
  | write kind t => some (Handle.writeEvent kind [t] graph)
  | writeMany kind ts notify => if notify then some (Handle.writeEvent kind ts graph) else none
  | remove p => some (.removed graph p)
  | clear => some (.cleared graph)
  | wipe | find _ | contains _ | size => none

/-- Listeners hear of the operation, and what they hear stands for what the store does: no triple
of it is kept as another one, and no pattern is read as another one. -/
def Heard (graph : String) : Operation → Prop
  | write _ t => ¬ t.object.IsUntaggedLangString
  | writeMany _ ts notify => notify = true ∧ ∀ t ∈ ts, ¬ t.object.IsUntaggedLangString
  | remove p => p.Removable ∧ ∃ g : Iri, graph = g.text
  | clear => True
  | wipe | find _ | contains _ | size => False

/-- An operation tells of the graph of its handle. -/
theorem event?_graph {graph : String} {o : Operation} {e : Event}
    (h : o.event? graph = some e) : e.graph = graph := by
  cases o with
  | write kind t => cases kind <;> cases h <;> rfl
  | writeMany kind ts notify => cases notify <;> cases kind <;> cases h <;> rfl
  | remove p => cases h; rfl
  | clear => cases h; rfl
  | wipe => cases h
  | find p => cases h
  | contains p => cases h
  | size => cases h

end Operation

namespace Handle

variable {h h' : Handle LocalConnection} {event : Event}

/-- The listeners of the handle were told the event, and the triples that the handle sees are
those that the event leaves. -/
structure Told (event : Event) (h h' : Handle LocalConnection) : Prop where
  listeners : h'.listeners = h.listeners.map (Mailbox.send event)
  visible : h'.visible.contents = event.replay h.visible.contents

/-- A change that is told as it is leaves the listeners with the triples of the store. -/
theorem told_notify {entry : LogEntry} {change : Change}
    (hchange : (change.apply h.visible).contents = event.replay h.visible.contents) :
    h.Told event ((h.changed entry change).notify event) := by
  refine ⟨rfl, ?_⟩
  rw [visible_notify, visible_changed]
  exact hchange

theorem told_written (kind : WriteKind) {t : Triple} (ht : ¬ t.object.IsUntaggedLangString)
    (e : TripleCode) :
    h.Told (writeEvent kind [t] h.graphName)
      ((h.written kind t e).notify (writeEvent kind [t] h.graphName)) :=
  told_notify (QuadStore.contents_write kind (List.forall_mem_singleton.2 ht) h.graphName h.visible)

end Handle

namespace Operation

variable {h : Handle LocalConnection} {o : Operation}

/-- An operation of one statement fails without a trace, or does what its event says. -/
theorem act_statement (hheard : o.Heard h.graphName)
    (ho : ∀ kind ts notify, o ≠ .writeMany kind ts notify) :
    (∃ e, o.act.on h = (.error e, h)) ∨
      h.Accepts ∧ ∃ x event h', o.act.on h = (.ok x, h') ∧
        o.event? h.graphName = some event ∧ h.Told event h' := by
  cases o with
  | write kind t =>
    rcases Handle.sendOne_cases h kind t with ⟨e, hsend⟩ | ⟨e, -, ha, hsend⟩
    · -- The statement was refused or never sent, and nothing else was done.
      cases kind with
      | add =>
        rw [act, Attempt.on_bind, Handle.add, Attempt.on_bind, hsend]
        exact Or.inl ⟨e, rfl⟩
      | delete =>
        rw [act, Attempt.on_bind, Handle.delete, Attempt.on_bind, hsend]
        exact Or.inl ⟨e, rfl⟩
    · -- The change was made, and is told by the event of its kind.
      have htold := Handle.told_written (h := h) kind hheard e
      cases kind with
      | add =>
        rw [act, Attempt.on_bind, Handle.add, Attempt.on_bind, hsend]
        exact Or.inr ⟨ha, .done, _, _, rfl, rfl, htold⟩
      | delete =>
        rw [act, Attempt.on_bind, Handle.delete, Attempt.on_bind, hsend]
        exact Or.inr ⟨ha, .done, _, _, rfl, rfl, htold⟩
  | writeMany kind ts notify => exact absurd rfl (ho kind ts notify)
  | remove p =>
    obtain ⟨hp, g, hname⟩ := hheard
    rw [act, Attempt.on_bind, Handle.remove, Attempt.on_bind]
    -- The graph is named by an address, so the deletion names it and no other.
    rcases Handle.eraseMatching_changes g hname hp with ⟨e, hrun⟩ | ⟨ha, entry, change, hrun, hout⟩
    · rw [hrun]
      exact Or.inl ⟨e, rfl⟩
    · rw [hrun]
      exact Or.inr ⟨ha, .done, _, _, rfl, rfl,
        Handle.told_notify (QuadStore.contents_takesOut hout h.visible)⟩
  | clear =>
    have hchange := LocalConnection.changeOf_clear h.graphName
    rw [act, Attempt.on_bind, Handle.clear, Attempt.on_bind, Handle.wipe, Attempt.on_bind,
      Attempt.on_get]
    rcases Handle.sendWith_cases (h := h) .delete hchange with ⟨e, hsend⟩ | ⟨ha, hsend⟩
    · simp only [Handle.emptyGraph, hsend]
      exact Or.inl ⟨e, rfl⟩
    · simp only [Handle.emptyGraph, hsend]
      exact Or.inr ⟨ha, .done, _, _, rfl, rfl,
        Handle.told_notify (QuadStore.contents_dropGraph h.graphName h.visible)⟩
  | wipe => exact hheard.elim
  | find p => exact hheard.elim
  | contains p => exact hheard.elim
  | size => exact hheard.elim

end Operation

/-! ### One operation in autocommit mode -/

/-- What no step of a run in autocommit mode changes: the graph of the handle, and that every
write is published at once on a store that refuses no rollback. -/
structure Handle.Publishing (graph : String) (h : Handle LocalConnection) : Prop where
  graphName : h.graphName = graph
  auto : h.connection.InAutocommit
  rollback : h.connection.faults.rollback = false

/-- The store works for one handle as it does for the other. -/
structure Handle.OnTermsOf (h' h : Handle LocalConnection) : Prop where
  isClosed : h'.connection.isClosed = h.connection.isClosed
  faults : h'.connection.faults = h.connection.faults
  offered : h'.connection.supportsTransactions = h.connection.supportsTransactions

namespace Handle.OnTermsOf

variable {h h₁ h₂ : Handle LocalConnection}

theorem refl (h : Handle LocalConnection) : h.OnTermsOf h := ⟨rfl, rfl, rfl⟩

theorem trans (h₂₁ : h₂.OnTermsOf h₁) (h₁₀ : h₁.OnTermsOf h) : h₂.OnTermsOf h :=
  ⟨h₂₁.isClosed.trans h₁₀.isClosed, h₂₁.faults.trans h₁₀.faults, h₂₁.offered.trans h₁₀.offered⟩

theorem of_frame (hframe : frame h₁ = frame h) : h₁.OnTermsOf h :=
  ⟨congrArg Frame.isClosed hframe, congrArg Frame.faults hframe,
    congrArg Frame.supportsTransactions hframe⟩

end Handle.OnTermsOf

/-- Sending its batches leaves a write on the terms that it found. -/
theorem Handle.Sending.onTerms {h h₁ : Handle LocalConnection} {kind : WriteKind}
    {sent : List Triple} (hs : h.Sending kind sent h₁) : h₁.OnTermsOf h :=
  ⟨congrArg Frame.isClosed hs.frame, congrArg Frame.faults hs.frame,
    congrArg Frame.supportsTransactions hs.frame⟩

/-- An operation and what is seen of it outside: it fails, tells nothing and leaves the published
triples, or it succeeds, tells one event and leaves the triples that the event says. -/
def Operation.Mirrored (o : Operation) (h : Handle LocalConnection) : Prop :=
  ((∃ e, (o.act.on h).1 = .error e) ∧ (o.act.on h).2.listeners = h.listeners ∧
      (o.act.on h).2.connection.committed = h.connection.committed) ∨
    ∃ x event, (o.act.on h).1 = .ok x ∧ o.event? h.graphName = some event ∧
      (o.act.on h).2.listeners = h.listeners.map (Mailbox.send event) ∧
      (o.act.on h).2.connection.committed.contents =
        event.replay h.connection.committed.contents

namespace Operation

variable {graph : String} {h : Handle LocalConnection} {o : Operation}

/-- Every operation in autocommit mode comes back to it, and the store works as before. -/
theorem onTerms_act (ha : h.connection.InAutocommit) (o : Operation) :
    (o.act.on h).2.connection.InAutocommit ∧ (o.act.on h).2.OnTermsOf h := by
  rcases o.batched_or_other with ⟨kind, ts, notify, rfl⟩ | hother
  · rw [act_writeMany_on]
    rcases Handle.writeMany_cases kind ts notify ha with
      ⟨e, hwrite⟩ | ⟨-, e, h₁, sent, hsending, -, hwrite⟩ | ⟨h₁, hsending, hwrite⟩
    · rw [hwrite]
      exact ⟨ha, .refl h⟩
    · -- It failed: the transaction is ended, whether or not the rollback in it was refused.
      rw [hwrite]
      refine ⟨InAutocommit.ended _, .trans ?_ hsending.onTerms⟩
      unfold Handle.withdrawn
      split
      · exact ⟨rfl, rfl, rfl⟩
      · exact ⟨rfl, rfl, rfl⟩
    · -- It succeeded: the transaction is ended, and telling of it changes no term.
      rw [hwrite]
      have hconnection := Handle.connection_announce kind ts notify h₁.concluded
      have hconcluded : h₁.concluded.OnTermsOf h₁ := ⟨rfl, rfl, rfl⟩
      have htold : (h₁.concluded.announce kind ts notify).OnTermsOf h₁.concluded := by
        refine ⟨?_, ?_, ?_⟩ <;> rw [hconnection]
      refine ⟨?_, (htold.trans hconcluded).trans hsending.onTerms⟩
      rw [hconnection]
      exact InAutocommit.ended _
  · -- Any other operation stays in the frame.
    have hframe : frame (o.act.on h).2 = frame h := (confined_act o hother).frame_on h
    exact ⟨ha.of_frame hframe, .of_frame hframe⟩

/-- An operation goes on publishing at once, on the same graph. -/
theorem publishing_act (hp : h.Publishing graph) (o : Operation) :
    (o.act.on h).2.Publishing graph := by
  obtain ⟨hauto, hterms⟩ := onTerms_act hp.auto o
  have hname : (o.act.on h).2.graphName = h.graphName :=
    congrArg Handle.Profile.graphName (o.has_act h rfl).1
  exact ⟨hname.trans hp.graphName, hauto, by rw [hterms.faults, hp.rollback]⟩

/-- A batched write in autocommit is mirrored as a whole. -/
theorem mirrored_writeMany (hp : h.Publishing graph) (kind : WriteKind) {ts : List Triple}
    (hts : ∀ t ∈ ts, ¬ t.object.IsUntaggedLangString) :
    (writeMany kind ts true).Mirrored h := by
  unfold Mirrored
  rw [act_writeMany_on]
  rcases Handle.writeMany_cases kind ts true hp.auto with
    ⟨e, hwrite⟩ | ⟨-, e, h₁, sent, hsending, -, hwrite⟩ | ⟨h₁, hsending, hwrite⟩
  · -- The transaction was not begun.
    rw [hwrite]
    exact Or.inl ⟨⟨e, rfl⟩, rfl, rfl⟩
  · -- The batches that were sent are discarded before autocommit is switched on.
    have hcommitted := Handle.committed_withdrawn hsending.staged
    rw [hsending.faults, if_neg (Bool.eq_false_iff.1 hp.rollback)] at hcommitted
    rw [hwrite]
    exact Or.inl ⟨⟨e, rfl⟩, hsending.listeners, hcommitted⟩
  · -- The whole list was published, and told.
    have hcommitted := (Handle.committed_concluded hsending.staged).trans hsending.visible
    rw [hwrite]
    refine Or.inr ⟨_, _, rfl, rfl, ?_, ?_⟩
    · show h₁.listeners.map (Mailbox.send (Handle.writeEvent kind ts h₁.graphName)) = _
      rw [hsending.listeners, hsending.graphName]
    · rw [Handle.connection_announce, hcommitted]
      exact QuadStore.contents_write kind hts h.graphName h.connection.committed

/-- An operation that listeners hear of is mirrored. -/
theorem mirrored_of_heard (hp : h.Publishing graph) (hheard : o.Heard graph) :
    o.Mirrored h := by
  rcases o.batched_or_other with ⟨kind, ts, notify, rfl⟩ | hother
  · obtain ⟨rfl, hts⟩ := hheard
    exact mirrored_writeMany hp kind hts
  · have hp' := publishing_act hp o
    have hvisible : h.visible = h.connection.committed := hp.auto.visible
    rw [← hp.graphName] at hheard
    rcases act_statement hheard hother with
      ⟨e, hrun⟩ | ⟨-, x, event, h', hrun, hevent, htold⟩
    · unfold Mirrored
      rw [hrun]
      exact Or.inl ⟨⟨e, rfl⟩, rfl, rfl⟩
    · rw [hrun] at hp'
      -- In autocommit the triples that are seen are those that are published.
      have hvisible' : h'.visible = h'.connection.committed := hp'.auto.visible
      have hcontents := htold.visible
      rw [hvisible, hvisible'] at hcontents
      unfold Mirrored
      rw [hrun]
      exact Or.inr ⟨x, event, rfl, hevent, htold.listeners, hcontents⟩

end Operation

/-! ### Runs in autocommit mode -/

/-- What happens to a handle in a run. -/
inductive Happening where
  /-- an operation, whatever becomes of it -/
  | operation (o : Operation)
  /-- other calls are to fail from now on -/
  | fault (faults : Faults)

namespace Happening

/-- The handle afterwards. -/
def after (h : Handle LocalConnection) : Happening → Handle LocalConnection
  | operation o => (o.act.on h).2
  | fault faults => { h with connection := { h.connection with faults } }

/-- The events that are told meanwhile: the one of an operation that succeeds. -/
def told (h : Handle LocalConnection) : Happening → List Event
  | operation o =>
    match (o.act.on h).1 with
    | .ok _ => (o.event? h.graphName).toList
    | .error _ => []
  | fault _ => []

/-- The handle after a run. -/
def run (steps : List Happening) (h : Handle LocalConnection) : Handle LocalConnection :=
  steps.foldl after h

/-- The events that are told in a run, in order. -/
def toldAll : List Happening → Handle LocalConnection → List Event
  | [], _ => []
  | step :: steps, h => step.told h ++ toldAll steps (step.after h)

/-- Listeners hear of the operation, and no rollback is to be refused. -/
def Admitted (graph : String) : Happening → Prop
  | operation o => o.Heard graph
  | fault faults => faults.rollback = false

/-- The events brought the listeners and the published triples from one handle to the other. -/
structure Tracked (graph : String) (es : List Event) (h h' : Handle LocalConnection) : Prop where
  publishing : h'.Publishing graph
  listeners : h'.listeners = h.listeners.map (Mailbox.receive es)
  contents : h'.connection.committed.contents =
    Event.replayAll es h.connection.committed.contents
  graphs : ∀ e ∈ es, e.graph = graph

variable {graph : String} {h : Handle LocalConnection}

/-- Runs that were tracked one after the other are tracked together. -/
theorem Tracked.trans {h₁ h₂ : Handle LocalConnection} {es fs : List Event}
    (h₁₂ : Tracked graph es h h₁) (h₂₃ : Tracked graph fs h₁ h₂) :
    Tracked graph (es ++ fs) h h₂ where
  publishing := h₂₃.publishing
  listeners := by
    have hcomp : Mailbox.receive fs ∘ Mailbox.receive es = Mailbox.receive (es ++ fs) :=
      funext fun m => m.receive_receive es fs
    rw [h₂₃.listeners, h₁₂.listeners, List.map_map, hcomp]
  contents := by
    rw [h₂₃.contents, h₁₂.contents, Event.replayAll_append]
  graphs := List.forall_mem_append.2 ⟨h₁₂.graphs, h₂₃.graphs⟩

/-- Nothing was told and nothing was published. -/
theorem tracked_nil {h' : Handle LocalConnection} (hp : h'.Publishing graph)
    (hlisteners : h'.listeners = h.listeners)
    (hcommitted : h'.connection.committed = h.connection.committed) :
    Tracked graph [] h h' := by
  have hnone := (Mailbox.map_receive_nil h.listeners).symm
  refine ⟨hp, hlisteners.trans hnone, ?_, List.forall_mem_nil _⟩
  rw [hcommitted]
  rfl

/-- One step of a run keeps the mirror exact. -/
theorem tracked_after (hp : h.Publishing graph) {step : Happening} (hstep : step.Admitted graph) :
    Tracked graph (step.told h) h (step.after h) := by
  cases step with
  | operation o =>
    have hp' := Operation.publishing_act hp o
    rcases Operation.mirrored_of_heard hp hstep with
      ⟨⟨e, he⟩, hlisteners, hcommitted⟩ | ⟨x, event, hx, hevent, hlisteners, hcontents⟩
    · -- It failed, so there is nothing to tell.
      have htold : told h (operation o) = [] := by simp [told, he]
      rw [htold]
      exact tracked_nil hp' hlisteners hcommitted
    · have htold : told h (operation o) = [event] := by simp [told, hx, hevent]
      have hgraph : event.graph = graph := (Operation.event?_graph hevent).trans hp.graphName
      rw [htold]
      exact ⟨hp', hlisteners, hcontents, List.forall_mem_singleton.2 hgraph⟩
  -- The faults are changed and nothing else.
  | fault faults =>
    exact tracked_nil ⟨hp.graphName, ⟨hp.auto.autoCommit, hp.auto.working⟩, hstep⟩ rfl rfl

/-- A run keeps the mirror exact. -/
theorem tracked_run (hp : h.Publishing graph) {steps : List Happening}
    (hsteps : ∀ step ∈ steps, step.Admitted graph) :
    Tracked graph (toldAll steps h) h (run steps h) := by
  induction steps generalizing h with
  | nil => exact tracked_nil hp rfl rfl
  | cons step steps ih =>
    obtain ⟨hstep, hrest⟩ := List.forall_mem_cons.1 hsteps
    -- The step lemma for the first happening; the run behind it starts from where that leaves off.
    have hfirst := tracked_after hp hstep
    exact hfirst.trans (ih hfirst.publishing hrest)

/-- **Events mirror the graph in autocommit mode.** Take any run of operations that listeners
hear of, with any faults in between that refuse no rollback. An operation that fails then tells
nothing and changes none of the published triples, and one that succeeds tells its event and no
other. At every point of the run, the events told so far bring the triples of the start to those
that are published, and every other graph holds what it held. -/
theorem run_mirrors (g : Iri) {h : Handle LocalConnection} (hname : h.graphName = g.text)
    (ha : h.connection.InAutocommit) (hrollback : h.connection.faults.rollback = false)
    {steps : List Happening} (hsteps : ∀ step ∈ steps, step.Admitted g.text) :
    let h' := run steps h
    let es := toldAll steps h
    h'.listeners = h.listeners.map (Mailbox.receive es) ∧
      h'.connection.committed.contents =
        Event.replayAll es h.connection.committed.contents ∧
      (∀ name, name ≠ g.text →
        h'.connection.committed.contents name = h.connection.committed.contents name) ∧
      ∀ o : Operation, o.Heard g.text → o.Mirrored h' := by
  have htracked := tracked_run ⟨hname, ha, hrollback⟩ hsteps
  refine ⟨htracked.listeners, htracked.contents, fun name hother => ?_, fun o ho => ?_⟩
  · -- None of the events tells of another graph.
    rw [htracked.contents]
    refine Event.replayAll_other (fun e he => ?_) _
    rw [htracked.graphs e he]
    exact hother
  · exact Operation.mirrored_of_heard htracked.publishing ho

/-- A handle that somebody listens to. -/
def overheard : Handle LocalConnection :=
  { Handle.ofFaults {} with listeners := [{}] }

/-- A triple is added, deleting it fails at the commit, and then the graph is cleared. -/
def addAndClear : List Happening :=
  [.operation (.writeMany .add [Handle.sample] true), .fault { commit := true },
    .operation (.writeMany .delete [Handle.sample] true), .operation .clear]

theorem run_mirrors_addAndClear :
    overheard.connection.InAutocommit ∧ (∀ step ∈ addAndClear, step.Admitted "urn:g") ∧
      toldAll addAndClear overheard = [.added "urn:g" [Handle.sample], .cleared "urn:g"] ∧
      (run addAndClear overheard).connection.committed.contents =
        Event.replayAll (toldAll addAndClear overheard)
          overheard.connection.committed.contents := by
  have ha : overheard.connection.InAutocommit := ⟨rfl, rfl⟩
  have hsteps : ∀ step ∈ addAndClear, step.Admitted "urn:g" := by
    have hsample : ∀ t ∈ [Handle.sample], ¬ t.object.IsUntaggedLangString := by decide
    intro step hstep
    simp only [addAndClear, List.mem_cons, List.not_mem_nil, or_false] at hstep
    rcases hstep with rfl | rfl | rfl | rfl
    · exact ⟨rfl, hsample⟩
    · exact rfl
    · exact ⟨rfl, hsample⟩
    · exact trivial
  exact ⟨ha, hsteps, by decide +kernel, (run_mirrors ⟨"urn:g", by decide⟩ rfl ha rfl hsteps).2.1⟩

end Happening

end QuadClient
