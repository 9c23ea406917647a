import QuadClient.Proofs.Graph.Frame
import QuadClient.Proofs.Graph.OwnWrites
import QuadClient.Proofs.Graph.Profile

/-!
# A write of one triple, exactly

A single triple is coded into six parameters on one side and read from them on the other. The two
agree on every triple that can be coded: the write puts that triple, as the store keeps it, into
the graph of the handle or takes it out, and nothing else is different afterwards. A triple that
cannot be coded is refused before anything is sent.
-/

namespace QuadClient

open Framed (frame)

/-- What is in the store once a write made its change for a triple: beside the triple itself,
what was there before. -/
def WriteKind.Leaves (kind : WriteKind) (graph : String) (t : Triple) (s : QuadStore) (g : String)
    (u : Triple) : Prop :=
  match kind with
  | .add => (g = graph ∧ u = t) ∨ s.contains g u = true
  | .delete => s.contains g u = true ∧ ¬ (g = graph ∧ u = t)

/-- What a change leaves is read off the store that it is made to. -/
theorem WriteKind.contains_change {kind : WriteKind} {graph g : String} {t u : Triple}
    {s : QuadStore} :
    ((kind.change graph t).apply s).contains g u = true ↔ kind.Leaves graph t s g u := by
  cases kind with
  | add => exact QuadStore.contains_insert
  | delete => exact QuadStore.contains_remove

namespace Handle

variable {h h' : Handle LocalConnection} {kind : WriteKind} {t : Triple} {e : TripleCode}

/-- One handle is the other after exactly one write of a coded triple: the triple it gives back
was put into the graph or taken out, one statement was sent, and nothing else happened. -/
structure WritesOne (kind : WriteKind) (t : Triple) (e : TripleCode)
    (h h' : Handle LocalConnection) : Prop where
  contains : ∀ g u, h'.visible.contains g u = true ↔
    kind.Leaves h.graphName t.stored h.visible g u
  log : h'.connection.log =
    h.connection.log ++ [⟨kind.template, h.sendOptions, e.params h.graphName⟩]
  frame : frame h' = frame h
  profile : h'.profile = h.profile
  listeners : h'.listeners = h.listeners

/-- A write of a coded triple that is run is exactly one write. -/
theorem writesOne_written (ha : h.Accepts) (he : t.encode = .ok e) :
    WritesOne kind t e h (h.written kind t e) := by
  have hrun := sendOne_of_accepts ha kind he
  have hframe := (confined_sendOne kind t).frame_on h
  have hprofile := (has_sendOne (p := h.profile) kind t h rfl).1
  rw [hrun] at hframe hprofile
  refine ⟨?_, LocalConnection.log_setVisible _ _, hframe, hprofile, rfl⟩
  intro g u
  rw [visible_written]
  exact WriteKind.contains_change

/-- A write of one triple succeeds on an open connection without faults if the triple can be
coded, and makes its change in the graph of that name and nowhere else. If the triple cannot be
coded, which is so if it may not be stored, the write fails for the term that is in the wrong
place, whatever the handle, and nothing is sent. -/
theorem sendOne_exact (h : Handle LocalConnection) (kind : WriteKind) (t : Triple) :
    ((∃ e, t.encode = .ok e) ↔ t.isStorable = true) ∧
    (∀ e, t.encode = .ok e → h.Serves →
      ∃ h', (sendOne kind t).on h = (.ok (), h') ∧ WritesOne kind t e h h') ∧
    ∀ m, t.encode = .error m → (sendOne kind t).on h = (.error (.misplaced m), h) := by
  refine ⟨t.exists_encode_iff, ?_, ?_⟩
  · intro e he hs
    exact ⟨_, sendOne_of_accepts hs.accepts kind he, writesOne_written hs.accepts he⟩
  · intro m hm
    -- The triple is coded before anything is sent, so the failure leaves the handle as it was.
    unfold sendOne
    rw [hm]
    rfl

/-- The literal that no parameter tells from a plain one is added as the plain one, to this graph
alone; a literal is never the subject of a deletion. -/
theorem sendOne_exact_untagged :
    (∃ h', (sendOne .add (about (.typed "a" .langString (by decide)))).on unwritten = (.ok (), h') ∧
      ∀ g u, h'.visible.contains g u = true ↔ g = "urn:g" ∧ u = about (.plain "a")) ∧
    (sendOne .delete ⟨.literal (.plain "a"), .iri .langString, .iri .langString⟩).on unwritten =
      (.error (.misplaced ⟨.subject, .literal (.plain "a")⟩), unwritten) := by
  obtain ⟨-, hwrites, -⟩ :=
    sendOne_exact unwritten .add (about (.typed "a" .langString (by decide)))
  obtain ⟨-, -, hrefuses⟩ := sendOne_exact unwritten .delete
    ⟨.literal (.plain "a"), .iri .langString, .iri .langString⟩
  obtain ⟨h', hrun, hone⟩ := hwrites _ rfl unwritten_serves
  refine ⟨⟨h', hrun, ?_⟩, hrefuses _ rfl⟩
  intro g u
  have hempty : unwritten.visible.contains g u = false := QuadStore.contains_empty g u
  -- There is nothing in the store beside the triple.
  rw [hone.contains, WriteKind.Leaves, hempty]
  exact or_iff_left Bool.false_ne_true

end Handle

end QuadClient
