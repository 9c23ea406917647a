import Mathlib.Data.List.Forall2
import QuadClient.Proofs.Local.Changes
import QuadClient.Proofs.Local.Frame

/-!
# What a batch leaves

Entries are put by on a prepared statement, with any parameters, and are looked at only when the
batch runs. A batch that the store refuses changes nothing, and one whose entries can all be read
makes the change of each of them. One that holds an entry that cannot be read stops there, and
the changes of the entries in front of it stay made.
-/

namespace QuadClient

open Framed (frame)

/-! ### Entries of the templates -/

/-- The store once the changes for these triples of these graphs were made, one after the
other. -/
def QuadStore.writeEach (kind : WriteKind) (writes : List (String × Triple)) (s : QuadStore) :
    QuadStore :=
  writes.foldl (fun s (graph, t) => (kind.change graph t).apply s) s

/-- The entries are read as these graphs and triples. -/
def Reads (entries : List (List Param)) (writes : List (String × Triple)) : Prop :=
  List.Forall₂ (fun params write => Request.tripleParams params = .ok write) entries writes

/-- Either every entry can be read, or there is a first one that cannot. -/
theorem reads_or_unread (entries : List (List Param)) :
    (∃ writes, Reads entries writes) ∨
      ∃ front bad rest writes e, entries = front ++ bad :: rest ∧ Reads front writes ∧
        Request.tripleParams bad = .error e := by
  induction entries with
  | nil => exact Or.inl ⟨[], .nil⟩
  | cons params entries ih =>
    cases hread : Request.tripleParams params with
    -- This entry is the first that cannot be read, and none was read in front of it.
    | error e => exact Or.inr ⟨[], params, entries, [], e, rfl, .nil, hread⟩
    | ok write =>
      rcases ih with ⟨writes, hreads⟩ | ⟨front, bad, rest, writes, e, rfl, hreads, hbad⟩
      · exact Or.inl ⟨write :: writes, .cons hread hreads⟩
      · -- The first that cannot be read is one of the others, so this entry is read in front of
        -- it.
        exact Or.inr ⟨params :: front, bad, rest, write :: writes, e, rfl, .cons hread hreads, hbad⟩

namespace LocalConnection

variable {kind : WriteKind} {entries front rest : List (List Param)} {bad : List Param}
  {writes : List (String × Triple)} {e : CallError} {c c' : LocalConnection}

/-- A template makes the change of its kind for the graph and the triple in the parameters. -/
theorem changeOf_template_params (kind : WriteKind) (params : List Param) :
    changeOf kind.template params =
      (Request.tripleParams params).map fun (graph, t) => kind.change graph t := by
  cases kind with
  | add => exact changeOf_of_ofText (Request.ofText_insert params)
  | delete => exact changeOf_of_ofText (Request.ofText_delete params)

/-- Entries that can be read make their changes, and leave the rest to those that follow. -/
theorem changeAll_append (h : Reads front writes) (s : QuadStore) :
    changeAll kind.template (front ++ rest) s =
      changeAll kind.template rest (s.writeEach kind writes) := by
  unfold Reads at h
  induction h generalizing s with
  | nil => rfl
  | cons hread _ ih =>
    rw [List.cons_append, changeAll, changeOf_template_params, hread]
    exact ih _

/-- Entries that can all be read make their changes. -/
theorem changeAll_of_reads (h : Reads entries writes) (s : QuadStore) :
    changeAll kind.template entries s = (.ok (), s.writeEach kind writes) := by
  rw [← List.append_nil entries, changeAll_append h]
  rfl

/-- The first entry that cannot be read ends the work. -/
theorem changeAll_of_unread (h : Reads front writes) (hbad : Request.tripleParams bad = .error e)
    (s : QuadStore) :
    changeAll kind.template (front ++ bad :: rest) s = (.error e, s.writeEach kind writes) := by
  rw [changeAll_append h, changeAll, changeOf_template_params, hbad]
  rfl

/-! ### How a batch ends -/

/-- In one frame the published triples are those under the working copy, or the ones to be
seen. -/
theorem committed_of_frame (h : frame c' = frame c) :
    c'.committed = if c.working.isSome then c.committed else c'.visible := by
  rcases working_of_frame h with ⟨hnone, hnone'⟩ | ⟨w, w', hsome, -, hcommitted⟩
  · rw [hnone, visible, hnone']
    rfl
  · rw [hsome]
    exact hcommitted

/-- What a batch leaves: the triples to be seen, and the sizes it adds to those of the batches
that ran. Published is what is to be seen, unless there is a working copy. -/
structure LeavesBatch (c : LocalConnection) (s : QuadStore) (sizes : List Nat)
    (c' : LocalConnection) : Prop where
  visible : c'.visible = s
  committed : c'.committed = if c.working.isSome then c.committed else s
  batchesRun : c'.batchesRun = c.batchesRun ++ sizes
  frame : frame c' = frame c

/-- What a batch leaves to be seen tells what it leaves published, since it keeps the frame. -/
theorem leavesBatch_of_visible {s : QuadStore} {sizes : List Nat} (hvisible : c'.visible = s)
    (hrun : c'.batchesRun = c.batchesRun ++ sizes) (hframe : frame c' = frame c) :
    c.LeavesBatch s sizes c' :=
  ⟨hvisible, hvisible ▸ committed_of_frame hframe, hrun, hframe⟩

/-- The store has a batch run. -/
structure RunsBatch (c : LocalConnection) : Prop where
  isOpen : c.isClosed = false
  unrefused : ¬ c.RefusesBatch 1

theorem RunsBatch.no_fault (hc : c.RunsBatch) :
    ¬ c.faults.failingBatch = some (c.batchesAsked + 1) :=
  hc.unrefused

/-- How a batch of these entries for the template of a write ends on a connection: its outcome
and the connection it leaves. -/
inductive BatchEnds (kind : WriteKind) (entries : List (List Param)) (c : LocalConnection) :
    Except CallError Nat × LocalConnection → Prop
  /-- every entry is read and makes its change -/
  | whole {writes : List (String × Triple)} {c' : LocalConnection} (runs : c.RunsBatch)
      (reads : Reads entries writes)
      (leaves : c.LeavesBatch (c.visible.writeEach kind writes) [entries.length] c') :
      BatchEnds kind entries c (.ok entries.length, c')
  /-- the connection is closed -/
  | closed (closed : c.isClosed = true) : BatchEnds kind entries c (.error .closed, c)
  /-- the store refuses the batch, and counts that it was asked for -/
  | refused (isOpen : c.isClosed = false) (refused : c.RefusesBatch 1) :
      BatchEnds kind entries c (.error (batchRefusal (c.batchesAsked + 1)), c.asked)
  /-- an entry is the first that cannot be read; those in front of it make their changes -/
  | unread {front rest : List (List Param)} {bad : List Param} {writes : List (String × Triple)}
      {e : CallError} {c' : LocalConnection} (runs : c.RunsBatch)
      (split : entries = front ++ bad :: rest) (reads : Reads front writes)
      (unread : Request.tripleParams bad = .error e)
      (leaves : c.LeavesBatch (c.visible.writeEach kind writes) [] c') :
      BatchEnds kind entries c (.error e, c')

section Batch

variable {st : Prepared}

/-- A batch whose entries can all be read makes their changes and is counted. -/
theorem runBatch_of_reads (hc : c.RunsBatch) (htext : st.text = kind.template)
    (h : Reads st.batch.toList writes) :
    ∃ c', runBatch st c = (.ok st.batch.toList.length, c') ∧
      c.LeavesBatch (c.visible.writeEach kind writes) [st.batch.toList.length] c' := by
  have hall : changeAll st.text st.batch.toList c.visible =
      (.ok (), c.visible.writeEach kind writes) := by
    rw [htext]
    exact changeAll_of_reads h c.visible
  have hrun := runBatch_of_changeAll hc.isOpen hall
  rw [if_neg hc.no_fault] at hrun
  have hframe := (confined_runBatch st).frame_on c
  rw [Attempt.on_of, hrun] at hframe
  refine ⟨_, hrun, leavesBatch_of_visible (visible_setVisible _ _) ?_ hframe⟩
  show (c.asked.setVisible _).batchesRun ++ _ = _
  rw [batchesRun_setVisible]
  rfl

/-- A batch with an entry that cannot be read fails, and the changes in front of that entry
stay. -/
theorem runBatch_of_unread (hc : c.RunsBatch) (htext : st.text = kind.template)
    (hsplit : st.batch.toList = front ++ bad :: rest) (h : Reads front writes)
    (hbad : Request.tripleParams bad = .error e) :
    ∃ c', runBatch st c = (.error e, c') ∧
      c.LeavesBatch (c.visible.writeEach kind writes) [] c' := by
  have hrun := runBatch_of_open st hc.isOpen
  -- The store has the batch run, so it is the entry that ends it.
  rw [if_neg hc.no_fault, htext, hsplit, changeAll_of_unread h hbad] at hrun
  have hframe := (confined_runBatch st).frame_on c
  rw [Attempt.on_of, hrun] at hframe
  refine ⟨_, hrun, leavesBatch_of_visible (visible_setVisible _ _) ?_ hframe⟩
  rw [batchesRun_setVisible, List.append_nil]
  rfl

/-- A batch that is refused leaves that it was asked for. -/
theorem runBatch_of_refuses (hopen : c.isClosed = false) (hrefuses : c.RefusesBatch 1) :
    runBatch st c = (.error (batchRefusal (c.batchesAsked + 1)), c.asked) := by
  have hfault : c.faults.failingBatch = some (c.batchesAsked + 1) := hrefuses
  rw [runBatch_of_open st hopen, if_pos hfault]
  rfl

/-- A batch for the template of a write ends in one of these ways. -/
theorem batchEnds_runBatch (htext : st.text = kind.template) (c : LocalConnection) :
    BatchEnds kind st.batch.toList c (runBatch st c) := by
  cases hopen : c.isClosed with
  | true =>
    rw [runBatch, whenOpen_of_closed hopen]
    exact .closed hopen
  | false =>
    -- The store refuses the batch before any entry is read.
    by_cases hrefuses : c.RefusesBatch 1
    · rw [runBatch_of_refuses hopen hrefuses]
      exact .refused hopen hrefuses
    · have hc : c.RunsBatch := ⟨hopen, hrefuses⟩
      rcases reads_or_unread st.batch.toList with
        ⟨writes, hreads⟩ | ⟨front, bad, rest, writes, e, hsplit, hreads, hbad⟩
      · obtain ⟨c', hrun, hleaves⟩ := runBatch_of_reads hc htext hreads
        rw [hrun]
        exact .whole hc hreads hleaves
      · obtain ⟨c', hrun, hleaves⟩ := runBatch_of_unread hc htext hsplit hreads hbad
        rw [hrun]
        exact .unread hc hsplit hreads hbad hleaves

end Batch

end LocalConnection

/-! ### Batches put together by calls -/

/-- A call that puts a batch together on a prepared statement. -/
inductive BatchCall where
  /-- binds a parameter, counted from one -/
  | bind (number : Nat) (value : Param)
  /-- puts the bound parameters by as one entry -/
  | putBy
  /-- forgets the entries -/
  | newBatch

namespace BatchCall

/-- The call on a connection. -/
def act {κ : Type} [Connection κ] (st : Prepared) : BatchCall → Attempt CallError κ Prepared
  | bind number value => Connection.bind st number value
  | putBy => Connection.putBy st
  | newBatch => pure st.newBatch

/-- The statement and the connection after a call. A call that fails leaves the statement as it
is. -/
def after {κ : Type} [Connection κ] (s : Prepared × κ) (call : BatchCall) : Prepared × κ :=
  match (call.act s.1).on s.2 with
  | (.ok st, c) => (st, c)
  | (.error _, c) => (s.1, c)

/-- The statement and the connection after some calls. -/
def run {κ : Type} [Connection κ] (calls : List BatchCall) (s : Prepared × κ) : Prepared × κ :=
  calls.foldl after s

/-- What a call makes of a statement. No parameter has the number zero. -/
def result (st : Prepared) : BatchCall → Prepared
  | bind 0 _ => st
  | bind (i + 1) value => st.bindAt i value
  | putBy => st.putBy
  | newBatch => st.newBatch

/-- No call makes another text of the statement. -/
theorem text_result (st : Prepared) (call : BatchCall) : (result st call).text = st.text := by
  cases call with
  | bind number value =>
    cases number with
    | zero => rfl
    | succ i => rfl
  | putBy => rfl
  | newBatch => rfl

theorem text_foldl_result (calls : List BatchCall) (st : Prepared) :
    (calls.foldl result st).text = st.text := by
  induction calls generalizing st with
  | nil => rfl
  | cons call calls ih => exact (ih _).trans (text_result st call)

/-- A call asks nothing of the store. -/
theorem after_on (st : Prepared) (c : LocalConnection) (call : BatchCall) :
    after (st, c) call = (result st call, c) := by
  cases call with
  | bind number value =>
    cases number with
    | zero => rfl
    | succ i => rfl
  | putBy => rfl
  | newBatch => rfl

/-- Calls put a batch together without the connection. -/
theorem run_on (calls : List BatchCall) (st : Prepared) (c : LocalConnection) :
    run calls (st, c) = (calls.foldl result st, c) := by
  induction calls generalizing st with
  | nil => rfl
  | cons call calls ih =>
    rw [run, List.foldl_cons, after_on]
    exact ih _

end BatchCall

namespace LocalConnection

/-- However a batch for the template of a write was put together, the connection is not touched
before it runs. Then every entry is read and makes its change, and they are counted; or the
batch fails and its size is not recorded. If it fails because the connection is closed or the
store refuses it, all triples are as they were. If an entry cannot be read, the changes of the
entries in front of it stay made, and are published unless there is a working copy. -/
theorem runBatch_ends (kind : WriteKind) (options : SendOptions) (calls : List BatchCall)
    (c : LocalConnection) :
    let st := calls.foldl BatchCall.result { text := kind.template, options }
    BatchCall.run calls ({ text := kind.template, options }, c) = (st, c) ∧
      BatchEnds kind st.batch.toList c ((Connection.runBatch st).on c) :=
  ⟨BatchCall.run_on calls _ c, batchEnds_runBatch (BatchCall.text_foldl_result calls _) c⟩

/-- The calls for a batch of two entries: the parameters of a triple, and the same again without
the name of a graph. -/
def halfRead : List BatchCall :=
  [.bind 1 (.text "urn:g"), .bind 2 (.text "urn:s"), .bind 3 (.text "urn:p"), .bind 4 (.int 3),
    .bind 5 (.text "x"), .bind 6 .null, .putBy, .bind 1 .null, .putBy]

/-- The batch fails, and the triple of its first entry is published. -/
theorem not_runBatch_whole_unread :
    let t : Triple := ⟨.iri ⟨"urn:s", rfl⟩, .iri ⟨"urn:p", rfl⟩, .literal (.plain "x")⟩
    let start : Prepared × LocalConnection :=
      ({ text := WriteKind.add.template, options := {} }, {})
    ∃ st e c', BatchCall.run halfRead start = (st, start.2) ∧
      (Connection.runBatch st).on start.2 = (.error e, c') ∧
      start.2.committed.contains "urn:g" t = false ∧ c'.committed.contains "urn:g" t = true := by
  intro t start
  have hread : Request.tripleParams [.text "urn:g", .text "urn:s", .text "urn:p", .int 3,
      .text "x", .null] = .ok ("urn:g", t) :=
    Request.tripleParams_params (t := t) (e := ⟨"urn:s", "urn:p", ⟨.plain, "x", none⟩⟩) rfl "urn:g"
  have hunread : Request.tripleParams [.null, .text "urn:s", .text "urn:p", .int 3, .text "x",
      .null] = .error (.bind "parameter 1 is not bound to a string") := rfl
  have hruns : start.2.RunsBatch := ⟨rfl, nofun⟩
  -- The calls bind the same parameters again, but for the name of the graph.
  have hcalls := BatchCall.run_on halfRead start.1 start.2
  have htext : (halfRead.foldl BatchCall.result start.1).text = WriteKind.add.template :=
    BatchCall.text_foldl_result halfRead start.1
  have hbatch : (halfRead.foldl BatchCall.result start.1).batch.toList =
      [[.text "urn:g", .text "urn:s", .text "urn:p", .int 3, .text "x", .null],
        [.null, .text "urn:s", .text "urn:p", .int 3, .text "x", .null]] := by decide +kernel
  -- What the statement is made of is not to be looked at any more.
  generalize halfRead.foldl BatchCall.result start.1 = st at hcalls htext hbatch
  obtain ⟨c', hrun, hleaves⟩ := runBatch_of_unread hruns htext hbatch (.cons hread .nil) hunread
  refine ⟨st, _, c', hcalls, hrun, QuadStore.contains_empty _ _, ?_⟩
  rw [hleaves.committed]
  exact QuadStore.contains_insert.2 (Or.inl ⟨rfl, rfl⟩)

end LocalConnection

end QuadClient
