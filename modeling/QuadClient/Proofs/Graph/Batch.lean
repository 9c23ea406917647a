import QuadClient.Proofs.Graph.Write
import QuadClient.Proofs.Local.Batches

/-!
# Batched writes

A batched write puts triples by and sends them in batches. At every point of it, a first part of
the triples it put by is in the store and the rest waits in the batch. A failure stops the write
there; a write that gets to its end has sent every triple.
-/

namespace QuadClient

/-! ### Many changes -/

/-- The store once a write made its change for each of the triples, one after the other. -/
def QuadStore.write (kind : WriteKind) (graph : String) (ts : List Triple) (s : QuadStore) :
    QuadStore :=
  ts.foldl (fun s t => (kind.change graph t.stored).apply s) s

namespace QuadStore

variable {kind : WriteKind} {graph g : String} {ts us : List Triple} {s : QuadStore} {u : Triple}

@[simp] theorem write_nil : s.write kind graph [] = s := rfl

theorem write_cons (t : Triple) :
    s.write kind graph (t :: ts) = ((kind.change graph t.stored).apply s).write kind graph ts := rfl

theorem write_append :
    s.write kind graph (ts ++ us) = (s.write kind graph ts).write kind graph us :=
  List.foldl_append

/-- Triples that are added are in the graph afterwards, beside what was there. -/
theorem contains_write_add :
    (s.write .add graph ts).contains g u = true ↔
      (g = graph ∧ ∃ t ∈ ts, u = t.stored) ∨ s.contains g u = true := by
  induction ts generalizing s with
  | nil => simp
  | cons t ts ih =>
    rw [write_cons, ih]
    show _ ∨ (s.insert graph t.stored).2.contains g u = true ↔ _
    simp only [contains_insert, List.mem_cons, exists_eq_or_imp, and_or_left, or_assoc,
      or_left_comm]

/-- Triples that are deleted are not in the graph afterwards; all else stays. -/
theorem contains_write_delete :
    (s.write .delete graph ts).contains g u = true ↔
      s.contains g u = true ∧ ¬ (g = graph ∧ ∃ t ∈ ts, u = t.stored) := by
  induction ts generalizing s with
  | nil => simp
  | cons t ts ih =>
    rw [write_cons, ih]
    show (s.remove graph t.stored).2.contains g u = true ∧ _ ↔ _
    simp only [contains_remove, List.mem_cons, exists_eq_or_imp, and_or_left, not_or, and_assoc]

end QuadStore

/-- The entries of a batch are the parameters of these triples, all of which could be coded. -/
def Codes (graph : String) (ts : List Triple) (entries : List (List Param)) : Prop :=
  List.Forall₂ (fun t params => ∃ e, Triple.encode t = .ok e ∧ params = e.params graph) ts entries

theorem Codes.push {graph : String} {ts : List Triple} {entries : List (List Param)} {t : Triple}
    {e : TripleCode} (h : Codes graph ts entries) (he : t.encode = .ok e) :
    Codes graph (ts ++ [t]) (entries ++ [e.params graph]) :=
  List.rel_append h (.cons ⟨e, he, rfl⟩ .nil)

/-- The triples of entries could all be coded. -/
theorem Codes.coded {graph : String} {ts : List Triple} {entries : List (List Param)}
    (h : Codes graph ts entries) : ∀ t ∈ ts, ∃ e, t.encode = .ok e := by
  unfold Codes at h
  induction h with
  | nil => exact List.forall_mem_nil _
  | cons hcode _ ih =>
    obtain ⟨e, he, -⟩ := hcode
    exact List.forall_mem_cons.2 ⟨⟨e, he⟩, ih⟩

theorem Codes.reads {graph : String} {ts : List Triple} {entries : List (List Param)}
    (h : Codes graph ts entries) : Reads entries (ts.map fun t => (graph, t.stored)) := by
  unfold Codes at h
  induction h with
  | nil => exact .nil
  | cons hcode _ ih =>
    obtain ⟨e, he, rfl⟩ := hcode
    exact .cons (Request.tripleParams_params he graph) ih

theorem QuadStore.writeEach_map (kind : WriteKind) (graph : String) (ts : List Triple)
    (s : QuadStore) :
    s.writeEach kind (ts.map fun t => (graph, t.stored)) = s.write kind graph ts :=
  List.foldl_map

/-- The entries of coded triples make the changes of the triples. -/
theorem LocalConnection.changeAll_of_codes (kind : WriteKind) {graph : String} {ts : List Triple}
    {entries : List (List Param)} (h : Codes graph ts entries) (s : QuadStore) :
    changeAll kind.template entries s = (.ok (), s.write kind graph ts) := by
  rw [changeAll_of_reads h.reads, QuadStore.writeEach_map]

/-! ### The steps of a write -/

namespace BatchWrite

section Steps

variable {κ : Type} [Connection κ] {kind : WriteKind} {graph : String} {t : Triple}
  {b : BatchWrite κ}

/-- The write once a coded triple was put by. -/
def queue (graph : String) (t : Triple) (e : TripleCode) (b : BatchWrite κ) : BatchWrite κ :=
  { b with
    statement := { b.statement with params := e.params graph }.putBy
    pending := b.pending + 1
    progress := ⟨b.progress.queued.push t, b.progress.consumed + 1⟩ }

/-- A triple that cannot be coded is taken from the sequence and goes no further. -/
theorem put_of_error {m : Misplaced} (he : t.encode = .error m) :
    (put kind graph t).on b =
      (.error (.misplaced m), { b with progress.consumed := b.progress.consumed + 1 }) := by
  unfold put
  rw [he]
  rfl

/-- A triple that can be coded is put by, and fills the batch or not. -/
theorem put_of_ok [Connection.PreparesApart κ] (hparams : b.statement.params.length ≤ 6)
    {e : TripleCode} (he : t.encode = .ok e) :
    (put kind graph t).on b =
      if b.pending + 1 = batchLimit then (flush kind).on (b.queue graph t e)
      else (.ok (), b.queue graph t e) := by
  -- No more than six parameters are bound at any time, so the binding replaces them all.
  have hbind : (Handle.bindFrom 1 b.statement (e.params graph)).on b.connection =
      (.ok { b.statement with params := e.params graph }, b.connection) :=
    Connection.bindFrom_one_on b.connection hparams
  simp only [put, he, Attempt.on_bind, Attempt.on_get, Attempt.on_modify, call, Attempt.on_zoom,
    Attempt.on_mapError, hbind, Connection.putBy_on, Except.mapError]
  show (if b.pending + 1 = batchLimit then flush kind else pure ()).on (b.queue graph t e) = _
  split
  · rfl
  · rfl

/-- The write once its batch ran and left the connection like this. -/
def flushed (c : κ) (b : BatchWrite κ) : BatchWrite κ :=
  { b with
    connection := c
    statement := b.statement.newBatch
    sent := b.sent + b.pending
    pending := 0 }

theorem flush_of_ok {size : Nat} {c : κ}
    (h : (Connection.runBatch b.statement).on b.connection = (.ok size, c)) :
    (flush kind).on b = (.ok (), b.flushed c) := by
  rw [flush, Attempt.on_bind, Attempt.on_get]
  simp only [Attempt.on_bind, call, Attempt.on_zoom, Attempt.on_mapError, h]
  rfl

theorem flush_of_error {e : CallError} {c : κ}
    (h : (Connection.runBatch b.statement).on b.connection = (.error e, c)) :
    (flush kind).on b = (.error (.ofMutation kind e), { b with connection := c }) := by
  rw [flush, Attempt.on_bind, Attempt.on_get]
  simp only [Attempt.on_bind, call, Attempt.on_zoom, Attempt.on_mapError, h]
  rfl

end Steps

/-! ### A write on its way -/

/-- The write, which found this store, has got so far: the triples it sent are in the store, and
those that wait are the entries of its batch. -/
structure Midway (kind : WriteKind) (graph : String) (s : QuadStore) (sent waiting : List Triple)
    (b : BatchWrite LocalConnection) : Prop where
  text : b.statement.text = kind.template
  params : b.statement.params.length ≤ 6
  batch : Codes graph waiting b.statement.batch.toList
  count : b.sent = sent.length
  pending : b.pending = waiting.length
  queued : b.progress.queued.toList = sent ++ waiting
  coded : ∀ t ∈ sent, ∃ e, t.encode = .ok e
  visible : b.connection.visible = s.write kind graph sent

variable {kind : WriteKind} {graph : String} {s : QuadStore} {sent waiting : List Triple}
  {b : BatchWrite LocalConnection}

/-- The entries of the batch make the changes of the triples that wait. -/
theorem Midway.changeAll (hb : b.Midway kind graph s sent waiting) :
    LocalConnection.changeAll b.statement.text b.statement.batch.toList b.connection.visible =
      (.ok (), s.write kind graph (sent ++ waiting)) := by
  rw [hb.text, hb.visible, LocalConnection.changeAll_of_codes kind hb.batch,
    QuadStore.write_append]

/-- What waited is sent once the batch made its changes. -/
theorem Midway.flushed (hb : b.Midway kind graph s sent waiting) {c : LocalConnection}
    (hc : c.visible = s.write kind graph (sent ++ waiting)) :
    (b.flushed c).Midway kind graph s (sent ++ waiting) [] := by
  refine ⟨hb.text, hb.params, .nil, ?_, rfl, ?_, ?_, hc⟩
  · show b.sent + b.pending = _
    rw [hb.count, hb.pending, List.length_append]
  · rw [List.append_nil]
    exact hb.queued
  · exact List.forall_mem_append.2 ⟨hb.coded, hb.batch.coded⟩

/-- A batch that is sent goes through as a whole, or nothing of it does. -/
theorem flush_cases (hb : b.Midway kind graph s sent waiting) :
    (∃ e b', (flush kind).on b = (.error e, b') ∧ b'.Midway kind graph s sent waiting) ∨
      ∃ b', (flush kind).on b = (.ok (), b') ∧ b'.Midway kind graph s (sent ++ waiting) [] := by
  rcases LocalConnection.runBatch_cases hb.changeAll with ⟨e, c, hrun, hc⟩ | ⟨n, c, hrun, hc⟩
  · refine Or.inl ⟨_, _, flush_of_error hrun, ?_⟩
    exact ⟨hb.text, hb.params, hb.batch, hb.count, hb.pending, hb.queued, hb.coded,
      hc.trans hb.visible⟩
  · exact Or.inr ⟨_, flush_of_ok hrun, hb.flushed hc⟩

/-- A triple that is put by waits behind the others, with its code in the batch. -/
theorem Midway.queue (hb : b.Midway kind graph s sent waiting) {t : Triple} {e : TripleCode}
    (he : t.encode = .ok e) : (b.queue graph t e).Midway kind graph s sent (waiting ++ [t]) := by
  refine ⟨hb.text, Nat.le_refl 6, ?_, hb.count, ?_, ?_, hb.coded, hb.visible⟩
  · show Codes graph (waiting ++ [t]) (b.statement.batch.push (e.params graph)).toList
    rw [Array.toList_push]
    exact hb.batch.push he
  · show b.pending + 1 = _
    rw [hb.pending, List.length_append]
    rfl
  · show (b.progress.queued.push t).toList = _
    rw [Array.toList_push, hb.queued, List.append_assoc]

/-! ### Taking triples -/

/-- The write has put these triples by: some were sent, the others wait. -/
def Took (kind : WriteKind) (graph : String) (s : QuadStore) (ts : List Triple)
    (b : BatchWrite LocalConnection) : Prop :=
  ∃ sent waiting, ts = sent ++ waiting ∧ b.Midway kind graph s sent waiting

/-- The step puts these triples by. If it fails it stops after some of them. -/
def Takes (kind : WriteKind) (graph : String) (s : QuadStore) (us : List Triple)
    (a : Attempt Error (BatchWrite LocalConnection) PUnit) : Prop :=
  ∀ ts b, Took kind graph s ts b → ∃ r b' vs, a.on b = (r, b') ∧ vs <+: us ∧
    Took kind graph s (ts ++ vs) b' ∧ (r = .ok () → vs = us)

/-- One triple is put by, and the batch that it fills may be sent. -/
theorem takes_put (t : Triple) : Takes kind graph s [t] (put kind graph t) := by
  rintro _ b ⟨sent, waiting, rfl, hb⟩
  cases he : t.encode with
  | error m =>
    -- Nothing is put by.
    refine ⟨_, _, [], put_of_error he, List.nil_prefix, ⟨sent, waiting, ?_, ?_⟩, nofun⟩
    · rw [List.append_nil]
    · exact ⟨hb.text, hb.params, hb.batch, hb.count, hb.pending, hb.queued, hb.coded, hb.visible⟩
  | ok e =>
    have hqueue := hb.queue he
    have hsplit : sent ++ waiting ++ [t] = sent ++ (waiting ++ [t]) := List.append_assoc ..
    rw [put_of_ok hb.params he]
    -- A full batch that is refused goes on waiting with the triple in it.
    split
    · rcases flush_cases hqueue with ⟨error, b', hflush, hb'⟩ | ⟨b', hflush, hb'⟩
      · exact ⟨_, b', [t], hflush, List.prefix_rfl, ⟨sent, _, hsplit, hb'⟩, nofun⟩
      · refine ⟨_, b', [t], hflush, List.prefix_rfl, ⟨_, [], ?_, hb'⟩, fun _ => rfl⟩
        rw [List.append_nil, hsplit]
    · exact ⟨_, _, [t], rfl, List.prefix_rfl, ⟨sent, _, hsplit, hqueue⟩, fun _ => rfl⟩

/-- The pass over a list puts a first part of it by, and all of it if it succeeds. -/
theorem Takes.forM (ts : List Triple) : Takes kind graph s ts (ts.forM (put kind graph)) := by
  induction ts with
  | nil =>
    intro us b hb
    exact ⟨_, b, [], rfl, List.prefix_rfl, by rwa [List.append_nil], fun _ => rfl⟩
  | cons t ts ih =>
    intro us b hb
    -- The first triple by the step lemma; where it fails the others are not reached.
    obtain ⟨r, b₁, vs, hput, hprefix, hb₁, hok⟩ := takes_put t us b hb
    rw [Attempt.on_forM_cons, hput]
    cases r with
    | error e => exact ⟨_, b₁, vs, rfl, hprefix.trans (List.prefix_append [t] ts), hb₁, nofun⟩
    | ok =>
      obtain rfl := hok rfl
      obtain ⟨r, b₂, ws, heach, hprefix, hb₂, hok⟩ := ih _ b₁ hb₁
      rw [List.append_assoc] at hb₂
      refine ⟨r, b₂, t :: ws, heach, ?_, hb₂, fun hr => ?_⟩
      · exact (List.prefix_cons_inj t).2 hprefix
      · rw [hok hr]

/-- A write that takes every triple sends them all; one that fails has sent some of them. -/
theorem putAll_cases (ts : List Triple) (hb : b.Midway kind graph s [] []) :
    ∃ r b' sent, (putAll kind graph ts).on b = (r, b') ∧ sent <+: ts ∧
      (∀ t ∈ sent, ∃ e, t.encode = .ok e) ∧
      b'.connection.visible = s.write kind graph sent ∧
      ∀ n, r = .ok n → n = ts.length ∧ sent = ts := by
  obtain ⟨r, b₁, us, heach, hus, ⟨sent, waiting, rfl, hb₁⟩, hall⟩ :=
    Takes.forM ts [] b ⟨[], [], rfl, hb⟩
  -- What was sent stays sent, whether or not the rest follows in a last batch.
  have hprefix : sent <+: ts := (List.prefix_append sent waiting).trans hus
  rw [putAll, Attempt.on_bind, heach]
  cases r with
  | error e => exact ⟨_, b₁, sent, rfl, hprefix, hb₁.coded, hb₁.visible, nofun⟩
  | ok =>
    have hts : sent ++ waiting = ts := hall rfl
    simp only [Attempt.on_bind, Attempt.on_get, hb₁.pending]
    split
    · -- What waits is sent in a last batch.
      rw [Attempt.on_bind]
      rcases flush_cases hb₁ with ⟨e, b₂, hflush, hb₂⟩ | ⟨b₂, hflush, hb₂⟩
      · rw [hflush]
        exact ⟨_, b₂, sent, rfl, hprefix, hb₂.coded, hb₂.visible, nofun⟩
      · rw [hts] at hb₂
        rw [hflush]
        refine ⟨_, b₂, ts, rfl, List.prefix_rfl, hb₂.coded, hb₂.visible, ?_⟩
        intro n hn
        cases hn
        exact ⟨hb₂.count, rfl⟩
    · next hempty =>
      -- Nothing waits, so all was sent.
      have hwaiting : waiting = [] := List.length_eq_zero_iff.1 (by omega)
      rw [hwaiting, List.append_nil] at hts
      refine ⟨_, b₁, sent, rfl, hprefix, hb₁.coded, hb₁.visible, ?_⟩
      intro n hn
      cases hn
      rw [← hts]
      exact ⟨hb₁.count, rfl⟩

end BatchWrite

namespace Handle

/-- The batched write that has not taken a triple yet. -/
def freshWrite (kind : WriteKind) (h : Handle LocalConnection) : BatchWrite LocalConnection :=
  ⟨h.connection, { text := kind.template, options := h.sendOptions }, 0, 0, {}⟩

theorem midway_freshWrite (kind : WriteKind) (h : Handle LocalConnection) :
    (h.freshWrite kind).Midway kind h.graphName h.visible [] [] :=
  ⟨rfl, Nat.zero_le _, .nil, rfl, rfl, rfl, List.forall_mem_nil _, rfl⟩

/-- A batched write begins with an empty batch once its statement is prepared. -/
theorem sendAll_of_prepared {κ : Type} [Connection κ] {h : Handle κ} (hopen : h.isClosed = false)
    {kind : WriteKind} {st : Prepared} {c : κ}
    (hprepare : (Connection.prepare kind.template h.sendOptions).on h.connection = (.ok st, c))
    (ts : List Triple) :
    sendAll kind ts h =
      let r := (BatchWrite.putAll kind h.graphName ts).on ⟨c, st, 0, 0, {}⟩
      ((r.1, r.2.progress), { h with connection := r.2.connection }) := by
  rw [sendAll, if_neg (Bool.eq_false_iff.1 hopen), hprepare]

/-- A batched write on an open handle and an open connection begins with an empty batch. -/
theorem sendAll_of_open {h : Handle LocalConnection} (hopen : h.isClosed = false)
    (hconnection : h.connection.isClosed = false) (kind : WriteKind) (ts : List Triple) :
    sendAll kind ts h =
      let r := (BatchWrite.putAll kind h.graphName ts).on (h.freshWrite kind)
      ((r.1, r.2.progress), { h with connection := r.2.connection }) :=
  sendAll_of_prepared hopen (LocalConnection.whenOpen_of_open hconnection) ts

/-- A batched write does nothing on a closed handle or a closed connection. -/
theorem sendAll_of_refuses {h : Handle LocalConnection} (hr : h.Refuses) (kind : WriteKind)
    (ts : List Triple) :
    sendAll kind ts h =
      ((.error (if h.isClosed then .closed else .ofMutation kind .closed), {}), h) := by
  by_cases hclosed : h.isClosed = true
  · rw [sendAll, if_pos hclosed, if_pos hclosed]
  · have hprepare : (Connection.prepare kind.template h.sendOptions).on h.connection =
        (.error .closed, h.connection) :=
      LocalConnection.whenOpen_of_closed (hr.resolve_left hclosed)
    rw [sendAll, if_neg hclosed, if_neg hclosed, hprepare]

/-- A batched write changes nothing of a handle but its connection. -/
theorem sendAll_connection (kind : WriteKind) (ts : List Triple) (h : Handle LocalConnection) :
    (sendAll kind ts h).2 = { h with connection := (sendAll kind ts h).2.connection } := by
  rcases h.open_or_refuses with ⟨hopen, hconnection⟩ | hr
  · rw [sendAll_of_open hopen hconnection]
  · rw [sendAll_of_refuses hr]

/-- The store after a batched write, whatever its outcome is: the changes of the triples that
were sent are made, all of them could be coded, and a write that succeeds sent the whole list. -/
theorem sendAll_cases (kind : WriteKind) (ts : List Triple) (h : Handle LocalConnection) :
    ∃ r p h' sent, sendAll kind ts h = ((r, p), h') ∧ sent <+: ts ∧
      (∀ t ∈ sent, ∃ e, t.encode = .ok e) ∧
      h'.visible = h.visible.write kind h.graphName sent ∧
      ∀ n, r = .ok n → n = ts.length ∧ sent = ts := by
  rcases h.open_or_refuses with ⟨hopen, hconnection⟩ | hr
  · -- The write has begun, with nothing sent and nothing waiting.
    obtain ⟨r, b, sent, hput, hprefix, hcoded, hvisible, hall⟩ :=
      BatchWrite.putAll_cases ts (h.midway_freshWrite kind)
    rw [sendAll_of_open hopen hconnection, hput]
    exact ⟨r, _, _, sent, rfl, hprefix, hcoded, hvisible, hall⟩
  · rw [sendAll_of_refuses hr]
    exact ⟨_, _, h, [], rfl, List.nil_prefix, List.forall_mem_nil _, rfl, nofun⟩

end Handle

/-! ### What a batched write keeps -/

namespace Handle

open Attempt (Keeps)

variable {κ α : Type} [Connection κ] {I : Handle κ → Prop} {kind : WriteKind}

/-- A write is left as its work is published or discarded. -/
theorem keeps_leaveWrite_of (hpublish : Keeps I (publishWrite kind) fun _ => True)
    (hdiscard : Keeps I (discardWrite : GraphAction κ Unit) fun _ => True) (owned : Bool)
    (outcome : Except Error α) :
    Keeps I (leaveWrite kind owned outcome : GraphAction κ α) fun _ => True := by
  have hdone {r : Except Error α} :
      Keeps I (Attempt.done r : GraphAction κ α) fun _ => True :=
    Attempt.keeps_done fun _ _ => trivial
  unfold leaveWrite
  split
  · -- The write holds the transaction: it is published, and discarded where that fails.
    have hfinish : Keeps I (do
        let value ← Attempt.done outcome
        publishWrite kind
        return value : GraphAction κ α) fun _ => True :=
      Keeps.bind hdone fun value _ => Keeps.bind hpublish fun _ _ => Attempt.keeps_pure trivial
    refine Keeps.bind hfinish.outcome fun result _ => ?_
    split
    · exact Keeps.bind hdiscard.outcome fun _ _ => hdone
    · exact hdone
  · exact hdone

/-- A batched write keeps what each part of it keeps. -/
theorem keeps_writeMany_of (henter : Keeps I (enterWrite kind) fun _ => True)
    (hsend : ∀ ts h, I h → I (sendAll kind ts h).2)
    (hleave : ∀ owned (outcome : Except Error Nat), Keeps I (leaveWrite kind owned outcome)
      fun _ => True)
    (hnotify : ∀ e h, I h → I (h.notify e)) (ts : List Triple) (notify : Bool) :
    Keeps I (writeMany kind ts notify : GraphAction κ Nat) fun _ => True := by
  intro h hI
  refine ⟨?_, fun _ _ => trivial⟩
  show I (writeAll kind ts notify h).2
  have h₁ := (henter h hI).1
  unfold writeAll
  split
  · next hentered => rwa [hentered] at h₁
  · next owned h' hentered =>
    rw [hentered] at h₁
    have h₂ := hsend ts h' h₁
    have h₃ := (hleave owned (sendAll kind ts h').1.1 _ h₂).1
    dsimp only
    split
    · exact h₃
    · split
      · exact hnotify _ _ h₃
      · exact h₃

end Handle

end QuadClient
