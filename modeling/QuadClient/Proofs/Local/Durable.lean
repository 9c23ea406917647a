import QuadClient.Proofs.Local.Calls
import QuadClient.Proofs.Local.Changes
import QuadClient.Proofs.Local.Frame
import QuadClient.Proofs.Local.Queries
import QuadClient.Proofs.Outcome
import QuadClient.Proofs.Solution.Row

/-!
# Stores whose triples come back as they are

A triple with nodes in the first two slots comes back from a store as it was, unless its object
is the one kind of literal that no text form tells from a plain one. No write of the library
puts any other triple into a store, so a connection whose triples all come back keeps that
whatever is done with it.
-/

namespace QuadClient

open Framed (frame)

/-- Every triple of the store comes back as it is. -/
def QuadStore.Durable (s : QuadStore) : Prop :=
  ∀ g t, s.contains g t = true → t.Durable

/-- A change that puts no other triples into a store. -/
def Change.Durable : Change → Prop
  | .insert _ t => t.Durable
  | _ => True

theorem QuadStore.durable_empty : QuadStore.empty.Durable := by
  intro g t h
  rw [QuadStore.contains_empty] at h
  cases h

/-- To insert a durable triple adds that one and no other. -/
theorem QuadStore.Durable.insert {s : QuadStore} (hs : s.Durable) {g : String} {t : Triple}
    (ht : t.Durable) : (s.insert g t).2.Durable := by
  intro g' u hu
  rcases QuadStore.contains_insert.1 hu with ⟨-, rfl⟩ | hu
  · exact ht
  · exact hs g' u hu

/-- A durable change keeps a store durable: three of the five take triples away, and one does
nothing. -/
theorem QuadStore.Durable.apply {s : QuadStore} (hs : s.Durable) {change : Change}
    (hc : change.Durable) : (change.apply s).Durable := by
  cases change with
  | insert g t => exact hs.insert hc
  | remove g t => exact fun g' u hu => hs g' u (QuadStore.contains_remove.1 hu).1
  | clear g => exact fun g' u hu => hs g' u (QuadStore.contains_dropGraph.1 hu).1
  | sweep g p => exact fun g' u hu => hs g' u (QuadStore.contains_sweep.1 hu).1
  | none => exact hs

/-- The change of a write is durable, since the object is stored in the form it comes back
in. -/
theorem WriteKind.durable_change (kind : WriteKind) {t : Triple} {e : TripleCode}
    (he : t.encode = .ok e) (graph : String) : (kind.change graph t.stored).Durable := by
  cases kind with
  | add => exact Triple.Durable.stored (Triple.isStorable_of_encode he)
  | delete => trivial

/-! ### Statements -/

namespace LocalConnection

/-- Whatever change the statement makes with these parameters is durable. -/
def DurableChange (text : String) (params : List Param) : Prop :=
  ∀ change, changeOf text params = .ok change → change.Durable

/-- A statement that asks for one durable change makes no other. -/
theorem durableChange_of_eq {text : String} {params : List Param} {change : Change}
    (h : changeOf text params = .ok change) (hchange : change.Durable) :
    DurableChange text params := by
  intro change' h'
  rw [h] at h'
  cases h'
  exact hchange

end LocalConnection

/-- No text but that of the template asks for an insertion. -/
theorem Request.ofText_ne_insert {text : String} {params : List Param}
    (h : text ≠ Template.insert) : ofText text params ≠ .ok .insert := by
  intro hinsert
  -- Every way to read the text ends in another request; what the text starts with decides which.
  rw [ofText, if_neg h] at hinsert
  split at hinsert
  · cases hinsert
  · split at hinsert
    · cases hinsert
    · dsimp only at hinsert
      split at hinsert
      · cases hinsert
      · split at hinsert
        · -- A text that starts a deletion is one, with or without a pattern.
          rw [deletion] at hinsert
          split at hinsert
          · cases hinsert
          · split at hinsert
            · cases hinsert
            · cases hinsert
        · -- What is left is read as a selection: it counts, lists so many triples, or lists all.
          obtain ⟨scope, -, hrest⟩ := bind_eq_ok.1 hinsert
          split at hrest
          · cases hrest
          · split at hrest
            · cases hrest
            · split at hrest
              · cases hrest
              · cases hrest

/-- A text that is not the template of insertions makes a durable change only, whatever its
parameters are. -/
theorem LocalConnection.durableChange_of_ne {text : String} (h : text ≠ Template.insert)
    (params : List Param) : DurableChange text params := by
  intro change hchange
  obtain ⟨request, hrequest, hchange⟩ := bind_eq_ok.1 hchange
  cases request with
  -- Only an insertion could bring in a triple, and this text asks for none.
  | insert => exact absurd hrequest (Request.ofText_ne_insert h)
  | delete =>
    obtain ⟨gt, -, rfl⟩ := map_eq_ok.1 hchange
    trivial
  | clear =>
    obtain ⟨g, -, rfl⟩ := map_eq_ok.1 hchange
    trivial
  | count graph p =>
    cases hchange
    trivial
  | select graph p limit =>
    cases hchange
    trivial
  | erase graph p =>
    cases hchange
    trivial
  | other =>
    cases hchange
    trivial

/-- The statement of a write makes a durable change, for a triple that can be coded. -/
theorem LocalConnection.durableChange_template (kind : WriteKind) {t : Triple} {e : TripleCode}
    (he : t.encode = .ok e) (graph : String) :
    DurableChange kind.template (e.params graph) :=
  durableChange_of_eq (changeOf_template kind he graph) (kind.durable_change he graph)

/-- A text with a header is not the template. -/
theorem Statement.text_ne_insert (s : Statement) : s.text ≠ Template.insert := by
  intro h
  have hopening : "sparql ".toList <+: s.text.toList := by
    rw [h]
    exact Request.template_opening (by simp)
  simp only [text, String.toList_append, List.append_assoc] at hopening
  simp [header] at hopening

theorem Statement.countText_ne_insert (s : Statement) : s.countText ≠ Template.insert := by
  intro h
  have hopening : "sparql ".toList <+: s.countText.toList := by
    rw [h]
    exact Request.template_opening (by simp)
  simp only [countText, String.toList_append, List.append_assoc] at hopening
  simp [countOpening] at hopening

theorem Scope.erase_ne_insert (s : Scope) (p : Pattern) : s.erase p ≠ Template.insert := by
  rw [erase_eq]
  exact Statement.text_ne_insert _

/-! ### Connections -/

namespace LocalConnection

/-- Every triple that the connection holds comes back as it is. -/
structure Durable (c : LocalConnection) : Prop where
  serves : c.Serves
  committed : c.committed.Durable
  working : ∀ s, c.working = some s → s.Durable

variable {c : LocalConnection}

theorem Durable.visible (hc : c.Durable) : c.visible.Durable := by
  rw [LocalConnection.visible]
  cases hw : c.working with
  | none => exact hc.committed
  | some s => exact hc.working s hw

theorem Durable.record (hc : c.Durable) (entry : LogEntry) : (c.record entry).Durable :=
  ⟨hc.serves.record entry, hc.committed, hc.working⟩

/-- A durable store may take the place of the one that the connection sees. -/
theorem Durable.setVisible (hc : c.Durable) {s : QuadStore} (hs : s.Durable) :
    (c.setVisible s).Durable := by
  -- One of the two stores is replaced, the other is as it was.
  refine ⟨hc.serves.setVisible s, ?_, ?_⟩
  · unfold LocalConnection.setVisible
    split
    · exact hc.committed
    · exact hs
  · unfold LocalConnection.setVisible
    split
    · intro s' hs'
      cases hs'
      exact hs
    · exact hc.working

/-- What keeps the frame need only see to the triples that the connection sees. -/
theorem Durable.of_frame {c' : LocalConnection} (hc : c.Durable) (hframe : frame c' = frame c)
    (hvisible : c'.visible.Durable) : c'.Durable := by
  have hfaults : c'.faults = c.faults := congrArg Frame.faults hframe
  have hclosed : c'.isClosed = c.isClosed := congrArg Frame.isClosed hframe
  have hserves : c'.Serves := ⟨hfaults.trans hc.serves.faults, hclosed.trans hc.serves.isOpen⟩
  unfold LocalConnection.visible at hvisible
  -- Either there is no working copy and what is seen is committed, or there is one and what is
  -- committed is as it was.
  rcases working_of_frame hframe with ⟨-, hworking⟩ | ⟨-, w, -, hworking, hcommitted⟩
  · rw [hworking] at hvisible
    refine ⟨hserves, hvisible, ?_⟩
    intro s hs
    rw [hworking] at hs
    cases hs
  · rw [hworking] at hvisible
    refine ⟨hserves, hcommitted ▸ hc.committed, ?_⟩
    intro s hs
    rw [hworking] at hs
    cases hs
    exact hvisible

theorem Durable.alike {c' : LocalConnection} (hc : c.Durable) (ha : c.Alike c') : c'.Durable :=
  ⟨ha.serves hc.serves, ha.committed ▸ hc.committed, ha.working ▸ hc.working⟩

/-! ### Calls -/

open Attempt (Keeps)

theorem keeps_of {α : Type} {call : Call α} (h : ∀ c, c.Durable → (call c).2.Durable) :
    Keeps LocalConnection.Durable (.of call) fun _ => True := by
  intro c hc
  exact ⟨h c hc, fun _ _ => trivial⟩

/-- A call that is made only on an open connection: the durable one is open. -/
theorem keeps_whenOpen {α : Type} {call : Call α} (h : ∀ c, c.Durable → (call c).2.Durable) :
    Keeps LocalConnection.Durable (.of (whenOpen call)) fun _ => True := by
  refine keeps_of fun c hc => ?_
  rw [whenOpen_of_open hc.serves.isOpen]
  exact h c hc

/-- A statement carried out changes the store as its text and parameters say, or not at all. -/
theorem Durable.runUpdate (hc : c.Durable) {text : String} {params : List Param}
    (h : DurableChange text params) : (LocalConnection.runUpdate text params c).2.Durable := by
  unfold LocalConnection.runUpdate
  split
  · next change hchange => exact hc.setVisible (hc.visible.apply (h change hchange))
  · exact hc

theorem keeps_execute {text : String} (options : SendOptions) (h : DurableChange text []) :
    Keeps LocalConnection.Durable
      (Connection.execute text options : Attempt CallError LocalConnection Unit)
      fun _ => True := by
  refine keeps_of fun c hc => ?_
  rw [execute_of_accepts hc.serves.accepts]
  exact (hc.record _).runUpdate h

theorem keeps_executePrepared {st : Prepared} (h : DurableChange st.text st.params) :
    Keeps LocalConnection.Durable
      (Connection.executePrepared st : Attempt CallError LocalConnection Unit)
      fun _ => True := by
  refine keeps_of fun c hc => ?_
  rw [execute_of_accepts hc.serves.accepts]
  exact (hc.record _).runUpdate h

/-- To prepare a statement only makes it; an open connection never refuses. -/
theorem keeps_prepare (text : String) (options : SendOptions) :
    Keeps LocalConnection.Durable
      (Connection.prepare text options : Attempt CallError LocalConnection Prepared)
      fun st => st = { text, options } := by
  intro c hc
  have hprepare : (Connection.prepare text options).on c = (.ok { text, options }, c) :=
    whenOpen_of_open hc.serves.isOpen
  rw [hprepare]
  refine ⟨hc, ?_⟩
  intro st hst
  cases hst
  rfl

/-- The parameters are bound to the statement, and the connection is as it was. -/
theorem keeps_bindFrom (st : Prepared) (ps : List Param) (hlen : st.params.length ≤ ps.length) :
    Keeps LocalConnection.Durable
      (Handle.bindFrom 1 st ps : Attempt CallError LocalConnection Prepared)
      fun st' => st' = { st with params := ps } := by
  intro c hc
  rw [Connection.bindFrom_one_on c hlen]
  refine ⟨hc, ?_⟩
  intro st' hst
  cases hst
  rfl

/-- A query is also how a text that asks for a change may be sent, and then makes that change. -/
theorem Durable.runQuery (hc : c.Durable) {text : String} {params : List Param}
    (h : DurableChange text params) : (LocalConnection.runQuery text params c).2.Durable := by
  unfold LocalConnection.runQuery
  split
  · -- Queries are refused, before the text is looked at.
    exact hc
  · split
    · exact hc
    · next request hrequest =>
      split
      · exact hc
      · next change hchange =>
        have hdurable := h change ((changeOf_of_ofText hrequest).trans hchange)
        split
        · -- The store answers by itself, and the change of the text is made.
          exact hc.setVisible (hc.visible.apply hdurable)
        · split
          · exact hc
          · -- The text lists or counts, so that only the rows that are open are new.
            exact hc.alike ⟨rfl, rfl, rfl, rfl, rfl⟩

/-- A query that is answered also opens rows, which belong to no store. -/
theorem Durable.query (hc : c.Durable) {text : String} (options : SendOptions)
    {params : List Param} (h : DurableChange text params) :
    (LocalConnection.query text options params c).2.Durable := by
  have hrun := (hc.record ⟨text, options, params⟩).runQuery h
  unfold LocalConnection.query
  rw [whenOpen_of_open hc.serves.isOpen]
  split
  · next hr => rwa [hr] at hrun
  · next hr =>
    rw [hr] at hrun
    exact hrun.alike ⟨rfl, rfl, rfl, rfl, rfl⟩

/-- A text sent as a query makes the change it asks for and no other. -/
theorem keeps_query {text : String} (options : SendOptions) (h : DurableChange text []) :
    Keeps LocalConnection.Durable
      (Connection.query text options : Attempt CallError LocalConnection Rows) fun _ => True :=
  keeps_of fun _ hc => hc.query options h

theorem keeps_queryPrepared {st : Prepared} (h : DurableChange st.text st.params) :
    Keeps LocalConnection.Durable
      (Connection.queryPrepared st : Attempt CallError LocalConnection Rows) fun _ => True :=
  keeps_of fun _ hc => hc.query st.options h

/-- To turn autocommit on publishes the working copy; to turn it off takes a copy of what is
committed. -/
theorem keeps_setAutoCommit (on : Bool) :
    Keeps LocalConnection.Durable
      (Connection.setAutoCommit on : Attempt CallError LocalConnection Unit) fun _ => True := by
  refine keeps_whenOpen fun c hc => ?_
  split
  · exact hc
  · split
    · exact hc
    · split
      · -- Autocommit was off and is turned on: what was seen is committed.
        refine ⟨⟨hc.serves.faults, hc.serves.isOpen⟩, hc.visible, ?_⟩
        intro s hs
        cases hs
      · -- It was on and is turned off: the working copy starts as what is committed.
        refine ⟨⟨hc.serves.faults, hc.serves.isOpen⟩, hc.committed, ?_⟩
        intro s hs
        cases hs
        exact hc.committed

theorem keeps_commit :
    Keeps LocalConnection.Durable
      (Connection.commit : Attempt CallError LocalConnection Unit) fun _ => True := by
  refine keeps_whenOpen fun c hc => ?_
  split
  · exact hc
  · exact ⟨⟨hc.serves.faults, hc.serves.isOpen⟩, hc.visible, hc.working⟩

/-- To roll back makes the working copy, if there is one, what is committed. -/
theorem keeps_rollback :
    Keeps LocalConnection.Durable
      (Connection.rollback : Attempt CallError LocalConnection Unit) fun _ => True := by
  refine keeps_whenOpen fun c hc => ?_
  split
  · exact hc
  · refine ⟨⟨hc.serves.faults, hc.serves.isOpen⟩, hc.committed, ?_⟩
    intro s hs
    obtain ⟨-, -, rfl⟩ := Option.map_eq_some_iff.1 hs
    exact hc.committed

theorem keeps_autoCommit :
    Keeps LocalConnection.Durable
      (Connection.autoCommit : Attempt CallError LocalConnection Bool) fun _ => True :=
  keeps_whenOpen fun _ hc => hc

theorem keeps_supportsTransactions :
    Keeps LocalConnection.Durable
      (Connection.supportsTransactions : Attempt CallError LocalConnection Bool)
      fun _ => True :=
  keeps_whenOpen fun _ hc => hc

theorem keeps_isolation :
    Keeps LocalConnection.Durable
      (Connection.isolation : Attempt CallError LocalConnection Isolation) fun _ => True :=
  keeps_whenOpen fun _ hc => hc

theorem keeps_setIsolation (level : Isolation) :
    Keeps LocalConnection.Durable
      (Connection.setIsolation level : Attempt CallError LocalConnection Unit) fun _ => True :=
  keeps_whenOpen fun _ hc => hc.alike ⟨rfl, rfl, rfl, rfl, rfl⟩

end LocalConnection

end QuadClient
