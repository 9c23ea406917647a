import QuadClient.Proofs.Connection.Recorded
import QuadClient.Proofs.Graph.WholeWrite

/-!
# Batches go unseen

A batched write cuts a list of triples into batches and keeps one statement for all of them. If
every triple can be coded and no call fails, the triples come in full batches and one smaller
batch for the rest, each triple with its own parameters. What the store has afterwards is what
writing the triples one by one leaves, so neither their order nor their repetition matters.
-/

namespace QuadClient

/-! ### Lists of codes -/

theorem Codes.length_eq {graph : String} {ts : List Triple} {entries : List (List Param)}
    (h : Codes graph ts entries) : entries.length = ts.length :=
  (List.Forall₂.length_eq h).symm

/-- The entries are the parameters of the codes, in order. -/
theorem Codes.eq_map {graph : String} {ts : List Triple} {entries : List (List Param)}
    {codes : List TripleCode} (h : Codes graph ts entries)
    (hcodes : ts.mapM Triple.encode = .ok codes) : entries = codes.map (·.params graph) := by
  unfold Codes at h
  induction h generalizing codes with
  | nil =>
    cases hcodes
    rfl
  | cons hcode _ ih =>
    obtain ⟨e, he, rfl⟩ := hcode
    rw [List.mapM_cons] at hcodes
    obtain ⟨e', he', hcodes⟩ := bind_eq_ok.1 hcodes
    -- The triple at this place has one code, so the entry is that of the list.
    cases he.symm.trans he'
    obtain ⟨rest, hrest, hcons⟩ := bind_eq_ok.1 hcodes
    cases hcons
    rw [ih hrest, List.map_cons]

/-- Triples that can be coded together can be coded one by one. -/
theorem encode_of_mapM {ts : List Triple} {codes : List TripleCode}
    (hcodes : ts.mapM Triple.encode = .ok codes) : ∀ t ∈ ts, ∃ e, t.encode = .ok e := by
  induction ts generalizing codes with
  | nil => exact List.forall_mem_nil _
  | cons t ts ih =>
    rw [List.mapM_cons] at hcodes
    obtain ⟨e, he, hcodes⟩ := bind_eq_ok.1 hcodes
    obtain ⟨rest, hrest, -⟩ := bind_eq_ok.1 hcodes
    exact List.forall_mem_cons.2 ⟨⟨e, he⟩, ih hrest⟩

/-! ### A write that meets no failure -/

namespace BatchWrite

/-- The write began on this connection and met no failure. What it sent is in the batches that
ran, entry by entry, and the rest waits. -/
structure Unfailing (kind : WriteKind) (graph : String) (c : LocalConnection)
    (sent waiting : List Triple) (b : BatchWrite (Recorded LocalConnection)) : Prop where
  midway : b.bare.Midway kind graph c.visible sent waiting
  serves : b.connection.inner.Serves
  codes : Codes graph sent b.connection.batches.flatten
  ran : b.connection.inner.batchesRun =
    c.batchesRun ++ b.connection.batches.map List.length
  consumed : b.progress.consumed = (sent ++ waiting).length

/-- So far every batch was full, and the one that waits is not. -/
structure Even (kind : WriteKind) (graph : String) (c : LocalConnection)
    (sent waiting : List Triple) (b : BatchWrite (Recorded LocalConnection)) : Prop
    extends b.Unfailing kind graph c sent waiting where
  full : ∀ batch ∈ b.connection.batches, batch.length = batchLimit
  short : waiting.length < batchLimit

variable {kind : WriteKind} {graph : String} {c : LocalConnection}
  {sent waiting ts : List Triple} {b : BatchWrite (Recorded LocalConnection)}

theorem Unfailing.batch_length (hb : b.Unfailing kind graph c sent waiting) :
    b.statement.batch.toList.length = waiting.length :=
  hb.midway.batch.length_eq

/-- The batch that waits goes through and is the last one that ran. -/
theorem Unfailing.flush (hb : b.Unfailing kind graph c sent waiting) :
    ∃ b', (flush kind).on b = (.ok (), b') ∧ b'.Unfailing kind graph c (sent ++ waiting) [] ∧
      b'.connection.batches = b.connection.batches ++ [b.statement.batch.toList] := by
  obtain ⟨d, hrun, hserves, hvisible, hran⟩ :=
    LocalConnection.runBatch_of_serves hb.serves hb.midway.changeAll
  have hcall : (Connection.runBatch b.statement).on b.connection =
      (.ok b.statement.batch.size, ⟨d, b.connection.batches ++ [b.statement.batch.toList]⟩) :=
    Recorded.runBatch_of_ok hrun
  -- The batch is empty again, and what waited counts as sent.
  refine ⟨_, flush_of_ok hcall, ⟨hb.midway.flushed hvisible, hserves, ?_, ?_, ?_⟩, rfl⟩
  · show Codes graph _ (b.connection.batches ++ [b.statement.batch.toList]).flatten
    rw [List.flatten_append, List.flatten_singleton]
    exact List.rel_append hb.codes hb.midway.batch
  · show d.batchesRun = _ ++ (b.connection.batches ++ [b.statement.batch.toList]).map List.length
    rw [List.map_append, ← List.append_assoc, ← hb.ran]
    exact hran
  · rw [List.append_nil]
    exact hb.consumed

/-- A coded triple that is put by waits behind the others, and is one more that was taken. -/
theorem Unfailing.queue (hb : b.Unfailing kind graph c sent waiting) {t : Triple} {e : TripleCode}
    (he : t.encode = .ok e) :
    (b.queue graph t e).Unfailing kind graph c sent (waiting ++ [t]) := by
  refine ⟨hb.midway.queue he, hb.serves, hb.codes, hb.ran, ?_⟩
  show b.progress.consumed + 1 = _
  rw [hb.consumed]
  simp only [List.length_append, List.length_singleton, Nat.add_assoc]

/-- The write took these triples, and so far every batch was full. -/
def EvenFor (kind : WriteKind) (graph : String) (c : LocalConnection) (ts : List Triple)
    (b : BatchWrite (Recorded LocalConnection)) : Prop :=
  ∃ sent waiting, ts = sent ++ waiting ∧ b.Even kind graph c sent waiting

/-- Taking a triple that can be coded keeps the batches full. -/
theorem EvenFor.put (hb : b.EvenFor kind graph c ts) {t : Triple} {e : TripleCode}
    (he : t.encode = .ok e) :
    ∃ b', (put kind graph t).on b = (.ok (), b') ∧ b'.EvenFor kind graph c (ts ++ [t]) := by
  obtain ⟨sent, waiting, rfl, hb⟩ := hb
  have hqueue := hb.toUnfailing.queue he
  have hsplit : sent ++ waiting ++ [t] = sent ++ (waiting ++ [t]) := List.append_assoc ..
  have hpending : b.pending = waiting.length := hb.midway.pending
  have hparams : b.statement.params.length ≤ 6 := hb.midway.params
  have hlength : (waiting ++ [t]).length = waiting.length + 1 := List.length_append
  rw [put_of_ok hparams he]
  split
  · next hfull =>
    -- The triple fills the batch, which is sent as the next full one.
    obtain ⟨b', hflush, hb', hbatches⟩ := hqueue.flush
    refine ⟨b', hflush, _, [], by rw [List.append_nil, hsplit], hb', ?_, by decide⟩
    rw [hbatches]
    refine List.forall_mem_append.2 ⟨hb.full, List.forall_mem_singleton.2 ?_⟩
    -- What the batch holds is what waited and this triple.
    rw [hqueue.batch_length, hlength, ← hpending, hfull]
  · next hshort =>
    -- The batch has room left.
    refine ⟨_, rfl, sent, _, hsplit, hqueue, hb.full, ?_⟩
    have := hb.short
    omega

/-- Taking triples that can all be coded meets no failure and keeps the batches full. -/
theorem EvenFor.forM (hb : b.EvenFor kind graph c ts) {us : List Triple}
    (hcoded : ∀ t ∈ us, ∃ e, t.encode = .ok e) :
    ∃ b', (us.forM (BatchWrite.put kind graph)).on b = (.ok (), b') ∧
      b'.EvenFor kind graph c (ts ++ us) := by
  induction us generalizing ts b with
  | nil => exact ⟨b, rfl, by rwa [List.append_nil]⟩
  | cons u us ih =>
    obtain ⟨⟨e, he⟩, hcoded⟩ := List.forall_mem_cons.1 hcoded
    -- The step lemma for the first triple; the others start from where it leaves the write.
    obtain ⟨b₁, hput, hb₁⟩ := hb.put he
    obtain ⟨b₂, heach, hb₂⟩ := ih hb₁ hcoded
    refine ⟨b₂, ?_, ?_⟩
    · rw [Attempt.on_forM_cons, hput]
      exact heach
    · rwa [List.append_cons]

/-- The full batches and what is left of the triples, by their numbers. -/
theorem Even.sizes (hb : b.Even kind graph c sent waiting) :
    b.connection.batches.map List.length =
        List.replicate ((sent ++ waiting).length / batchLimit) batchLimit ∧
      (sent ++ waiting).length % batchLimit = waiting.length := by
  -- All batches are full, so what was sent is a multiple of the limit and the rest is the
  -- remainder.
  have hreplicate : b.connection.batches.map List.length =
      List.replicate b.connection.batches.length batchLimit :=
    List.eq_replicate_iff.2 ⟨List.length_map .., List.forall_mem_map.2 hb.full⟩
  have hsent : sent.length = b.connection.batches.length * batchLimit := by
    rw [← hb.codes.length_eq, List.length_flatten, hreplicate, List.sum_replicate_nat]
  have hshort := hb.short
  have hlength : (sent ++ waiting).length =
      waiting.length + b.connection.batches.length * batchLimit := by
    rw [List.length_append, hsent, Nat.add_comm]
  rw [hreplicate, hlength]
  refine ⟨?_, ?_⟩
  · rw [Nat.add_mul_div_right _ _ (by decide), Nat.div_eq_of_lt hshort, Nat.zero_add]
  · rw [Nat.add_mul_mod_self_right, Nat.mod_eq_of_lt hshort]

/-- A write of triples that can all be coded sends them in full batches and one for the rest. -/
theorem EvenFor.putAll (hb : b.EvenFor kind graph c [])
    (hcoded : ∀ t ∈ ts, ∃ e, t.encode = .ok e) :
    ∃ b', (putAll kind graph ts).on b = (.ok ts.length, b') ∧ b'.Unfailing kind graph c ts [] ∧
      b'.connection.batches.map List.length =
        List.replicate (ts.length / batchLimit) batchLimit ++
          if ts.length % batchLimit = 0 then [] else [ts.length % batchLimit] := by
  obtain ⟨b₁, heach, sent, waiting, hts, hb₁⟩ := hb.forM hcoded
  rw [List.nil_append] at hts
  obtain ⟨hfull, hrest⟩ := hb₁.sizes
  rw [← hts] at hfull hrest
  have hpending : b₁.pending = waiting.length := hb₁.midway.pending
  rw [BatchWrite.putAll, Attempt.on_bind, heach, hrest]
  simp only [Attempt.on_bind, Attempt.on_get, hpending]
  split
  · next hsome =>
    -- The rest goes in one last batch.
    obtain ⟨b₂, hflush, hb₂, hbatches⟩ := hb₁.toUnfailing.flush
    rw [← hts] at hb₂
    refine ⟨b₂, ?_, hb₂, ?_⟩
    · rw [Attempt.on_bind, hflush]
      exact congrArg (fun n => (Except.ok n, b₂)) hb₂.midway.count
    · rw [hbatches, List.map_append, hfull, if_neg (by omega), List.map_singleton,
        hb₁.batch_length]
  · next hnone =>
    -- Nothing is left, so no empty batch is sent.
    have hwaiting : waiting = [] := List.length_eq_zero_iff.1 (by omega)
    rw [hwaiting, List.append_nil] at hts
    subst hts hwaiting
    refine ⟨b₁, ?_, hb₁.toUnfailing, ?_⟩
    · exact congrArg (fun n => (Except.ok n, b₁)) hb₁.midway.count
    · rw [hfull, if_pos List.length_nil, List.append_nil]

/-- The batches that were sent hold the triples up to the last full batch. -/
theorem Even.sent_eq (hb : b.Even kind graph c sent waiting) :
    sent = (sent ++ waiting).take
      ((sent ++ waiting).length - (sent ++ waiting).length % batchLimit) := by
  -- What waits is the remainder, so what was sent is the rest of the whole.
  obtain ⟨-, hrest⟩ := hb.sizes
  have hlength : (sent ++ waiting).length = sent.length + waiting.length := List.length_append
  have hsent : (sent ++ waiting).length - (sent ++ waiting).length % batchLimit = sent.length := by
    omega
  rw [hsent, List.take_left]

/-- A write stops at a triple that cannot be coded; the full batches in front of it were sent. -/
theorem EvenFor.putAll_stops (hb : b.EvenFor kind graph c [])
    (hcoded : ∀ t ∈ ts, ∃ e, t.encode = .ok e) {bad : Triple} {m : Misplaced}
    (hbad : bad.encode = .error m) (rest : List Triple) :
    ∃ b', (BatchWrite.putAll kind graph (ts ++ bad :: rest)).on b = (.error (.misplaced m), b') ∧
      b'.connection.inner.visible =
        c.visible.write kind graph (ts.take (ts.length - ts.length % batchLimit)) := by
  obtain ⟨b₁, heach, sent, waiting, hts, hb₁⟩ := hb.forM hcoded
  rw [List.nil_append] at hts
  have hvisible : b₁.connection.inner.visible = c.visible.write kind graph sent :=
    hb₁.midway.visible
  -- The triples in front go through, and the misplaced one ends the loop before its batch is sent.
  have hstop : ((ts ++ bad :: rest).forM (BatchWrite.put kind graph)).on b =
      (.error (.misplaced m), { b₁ with progress.consumed := b₁.progress.consumed + 1 }) := by
    rw [Attempt.on_forM_append heach, Attempt.on_forM_cons, put_of_error hbad]
  refine ⟨{ b₁ with progress.consumed := b₁.progress.consumed + 1 }, ?_, ?_⟩
  · rw [BatchWrite.putAll, Attempt.on_bind, hstop]
  · rw [hts, ← hb₁.sent_eq]
    exact hvisible

end BatchWrite

/-! ### Whole writes -/

namespace Handle

variable {h : Handle LocalConnection} {kind : WriteKind} {ts : List Triple}

/-- The batched write that has not taken a triple yet, its batches written down. -/
def freshRecorded (kind : WriteKind) (h : Handle LocalConnection) :
    BatchWrite (Recorded LocalConnection) :=
  ⟨h.recorded.connection, { text := kind.template, options := h.sendOptions }, 0, 0, {}⟩

/-- The recorded write begins with no triple sent and none waiting. -/
theorem evenFor_freshRecorded (hs : h.Serves) (kind : WriteKind) :
    (h.freshRecorded kind).EvenFor kind h.graphName h.connection [] := by
  refine ⟨[], [], rfl, ⟨?_, hs.connection, .nil, (List.append_nil _).symm, rfl⟩, ?_, by decide⟩
  · exact h.midway_freshWrite kind
  · exact List.forall_mem_nil _

/-- A recorded write prepares its statement and then takes the triples from an empty batch. -/
theorem sendAll_freshRecorded (hs : h.Serves) (kind : WriteKind) (ts : List Triple) :
    sendAll kind ts h.recorded =
      let r := (BatchWrite.putAll kind h.graphName ts).on (h.freshRecorded kind)
      ((r.1, r.2.progress), { h.recorded with connection := r.2.connection }) := by
  have hprepare : (Connection.prepare kind.template h.recorded.sendOptions).on
      h.recorded.connection =
        (.ok { text := kind.template, options := h.sendOptions }, h.recorded.connection) :=
    congrArg (fun r : Except CallError Prepared × LocalConnection =>
      (r.1, (⟨r.2, []⟩ : Recorded LocalConnection))) (prepare_of_accepts hs.accepts kind.template)
  have hopen : h.recorded.isClosed = false := hs.isOpen
  exact sendAll_of_prepared hopen hprepare ts

/-- A batched write on a connection without faults, its batches written down. -/
theorem sendAll_recorded_of_serves (hs : h.Serves) (kind : WriteKind)
    (hcoded : ∀ t ∈ ts, ∃ e, t.encode = .ok e) :
    ∃ b : BatchWrite (Recorded LocalConnection),
      sendAll kind ts h.recorded =
          ((.ok ts.length, b.progress), { h.recorded with connection := b.connection }) ∧
        b.Unfailing kind h.graphName h.connection ts [] ∧
        b.connection.batches.map List.length =
          List.replicate (ts.length / batchLimit) batchLimit ++
            if ts.length % batchLimit = 0 then [] else [ts.length % batchLimit] := by
  obtain ⟨b, hput, hb, hsizes⟩ := (evenFor_freshRecorded hs kind).putAll hcoded
  refine ⟨b, ?_, hb, hsizes⟩
  rw [sendAll_freshRecorded hs, hput]

/-- Written one by one, triples that can all be coded make their changes in turn. -/
theorem forM_sendOne_of_serves (hs : h.Serves) (kind : WriteKind)
    (hcoded : ∀ t ∈ ts, ∃ e, t.encode = .ok e) :
    ∃ h', (ts.forM (sendOne kind)).on h = (.ok (), h') ∧
      h'.visible = h.visible.write kind h.graphName ts := by
  induction ts generalizing h with
  | nil => exact ⟨h, rfl, rfl⟩
  | cons t ts ih =>
    obtain ⟨⟨e, he⟩, hcoded⟩ := List.forall_mem_cons.1 hcoded
    -- The first statement leaves a handle that meets no failure either.
    obtain ⟨h', heach, hvisible⟩ := ih (hs.written kind t e) hcoded
    refine ⟨h', ?_, ?_⟩
    · rw [Attempt.on_forM_cons, sendOne_of_accepts hs.accepts kind he]
      exact heach
    · rw [hvisible, visible_written]
      rfl

/-- Which triples are there after a write depends on which triples were written, not on their
order or repetition. -/
theorem contains_write_congr {us : List Triple} (hsame : ∀ t, t ∈ us ↔ t ∈ ts) (kind : WriteKind)
    (graph : String) (s : QuadStore) (g : String) (t : Triple) :
    (s.write kind graph us).contains g t = (s.write kind graph ts).contains g t := by
  rw [Bool.eq_iff_iff]
  cases kind with
  | add => simp only [QuadStore.contains_write_add, hsame]
  | delete => simp only [QuadStore.contains_write_delete, hsame]

/-- What a batched write is that meets no failure: nothing shows that it is done in batches. -/
structure Batched (kind : WriteKind) (ts : List Triple) (codes : List TripleCode)
    (h : Handle LocalConnection) : Prop where
  /-- the outcome is the number of the triples -/
  sent : (sendAll kind ts h).1.1 = .ok ts.length
  /-- the triples are listed in order, as they are -/
  queued : (sendAll kind ts h).1.2.queued.toList = ts
  /-- every triple was taken from the sequence -/
  consumed : (sendAll kind ts h).1.2.consumed = ts.length
  /-- the batches are full but for the last one, and none is empty -/
  sizes : (h.batchesOf kind ts).map List.length =
    List.replicate (ts.length / batchLimit) batchLimit ++
      if ts.length % batchLimit = 0 then [] else [ts.length % batchLimit]
  /-- their entries are the parameters of the triples, each by its own and in order -/
  entries : (h.batchesOf kind ts).flatten = codes.map (·.params h.graphName)
  /-- the connection ran these batches and no other -/
  ran : (sendAll kind ts h).2.connection.batchesRun =
    h.connection.batchesRun ++ (h.batchesOf kind ts).map List.length
  /-- to write the batches down changes nothing -/
  bare : sendAll kind ts h = ((sendAll kind ts h.recorded).1, (sendAll kind ts h.recorded).2.bare)
  /-- the store is the one that the triples leave when each is written on its own -/
  oneByOne : ∃ h', (ts.forM (sendOne kind)).on h = (.ok (), h') ∧
    (sendAll kind ts h).2.visible = h'.visible
  /-- the same triples in another order, or some of them repeated, leave the same store -/
  sameTriples : ∀ us, (∀ t, t ∈ us ↔ t ∈ ts) → ∀ g t,
    (sendAll kind us h).2.visible.contains g t = (sendAll kind ts h).2.visible.contains g t

/-- Without faults a batched write of triples that can be coded changes the store by all of
them. -/
theorem visible_sendAll_of_serves (hs : h.Serves) (kind : WriteKind)
    (hcoded : ∀ t ∈ ts, ∃ e, t.encode = .ok e) :
    (sendAll kind ts h).2.visible = h.visible.write kind h.graphName ts := by
  obtain ⟨b, hsend, hb, -⟩ := sendAll_recorded_of_serves hs kind hcoded
  rw [sendAll_recorded, hsend]
  exact hb.midway.visible

/-- What a batched write has sent when it comes to a triple that cannot be coded: the full batches
in front of it. -/
def sentBefore (ts : List Triple) : List Triple :=
  let front := ts.takeWhile fun t => t.encode.isOk
  front.take (front.length - front.length % batchLimit)

/-- A batched write on a connection without faults sends the whole list, or it stops at a triple
that cannot be coded. -/
theorem sendAll_of_serves (hs : h.Serves) (kind : WriteKind) (ts : List Triple) :
    (∀ t ∈ ts, ∃ e, t.encode = .ok e) ∧ (∃ p h', sendAll kind ts h = ((.ok ts.length, p), h') ∧
        h'.visible = h.visible.write kind h.graphName ts) ∨
      ∃ e p h', sendAll kind ts h = ((.error e, p), h') ∧
        h'.visible = h.visible.write kind h.graphName (sentBefore ts) := by
  -- The triples in front of the first that cannot be coded can be coded.
  have hfront : ∀ t ∈ ts.takeWhile (fun t => t.encode.isOk), ∃ e, t.encode = .ok e := by
    intro t ht
    have hok : t.encode.isOk = true :=
      List.mem_takeWhile_imp (p := fun t : Triple => t.encode.isOk) ht
    cases he : t.encode with
    | ok e => exact ⟨e, rfl⟩
    | error m => simp [he, Except.isOk, Except.toBool] at hok
  have hsplit := List.takeWhile_append_dropWhile (p := fun t => t.encode.isOk) (l := ts)
  cases hrest : ts.dropWhile (fun t => t.encode.isOk) with
  -- There is no such triple.
  | nil =>
    rw [hrest, List.append_nil] at hsplit
    rw [hsplit] at hfront
    obtain ⟨b, hsend, hb, -⟩ := sendAll_recorded_of_serves hs kind hfront
    rw [sendAll_recorded, hsend]
    exact Or.inl ⟨hfront, _, _, rfl, hb.midway.visible⟩
  | cons bad rest =>
    have hbad : bad.encode.isOk = false := by
      have hhead := List.head?_dropWhile_not (fun t : Triple => t.encode.isOk) ts
      rw [hrest] at hhead
      exact hhead
    obtain ⟨m, hm⟩ : ∃ m, bad.encode = .error m := by
      cases he : bad.encode with
      | ok e => simp [he, Except.isOk, Except.toBool] at hbad
      | error m => exact ⟨m, rfl⟩
    rw [hrest] at hsplit
    -- The pass stops at `bad`, and the batches in front of it are full.
    obtain ⟨b, hput, hvisible⟩ := (evenFor_freshRecorded hs kind).putAll_stops hfront hm rest
    rw [hsplit] at hput
    rw [sendAll_recorded, sendAll_freshRecorded hs, hput]
    exact Or.inr ⟨_, _, _, rfl, hvisible⟩

/-- Batches go unseen: triples that can all be coded are all sent, in full batches and one for the
rest, each with its own parameters, and the store is as if each was written on its own. -/
theorem sendAll_batched (hs : h.Serves) {codes : List TripleCode}
    (hcodes : ts.mapM Triple.encode = .ok codes) (kind : WriteKind) : h.Batched kind ts codes := by
  have hcoded := encode_of_mapM hcodes
  have hvisible := visible_sendAll_of_serves hs kind hcoded
  obtain ⟨b, hsend, hb, hsizes⟩ := sendAll_recorded_of_serves hs kind hcoded
  -- What is written down tells what was sent; without it the write is the same.
  have hbare := sendAll_recorded kind ts h
  have hbatches : h.batchesOf kind ts = b.connection.batches := by rw [batchesOf, hsend]
  refine ⟨?_, ?_, ?_, ?_, ?_, ?_, hbare, ?_, ?_⟩
  · rw [hbare, hsend]
  · rw [hbare, hsend]
    exact hb.midway.queued.trans (List.append_nil ts)
  · rw [hbare, hsend]
    exact hb.consumed.trans (congrArg List.length (List.append_nil ts))
  · rw [hbatches]
    exact hsizes
  · rw [hbatches]
    exact hb.codes.eq_map hcodes
  · rw [hbatches, hbare, hsend]
    exact hb.ran
  · obtain ⟨h', heach, hvisible'⟩ := forM_sendOne_of_serves hs kind hcoded
    exact ⟨h', heach, hvisible.trans hvisible'.symm⟩
  · -- Both lists are written whole, and a store takes no notice of order or repetition.
    intro us hsame g t
    have hcoded' : ∀ u ∈ us, ∃ e, u.encode = .ok e := fun u hu => hcoded u ((hsame u).1 hu)
    rw [hvisible, visible_sendAll_of_serves hs kind hcoded']
    exact contains_write_congr hsame kind h.graphName h.visible g t

/-- The code of a triple, repeated as often as the triple. -/
theorem mapM_encode_replicate {t : Triple} {e : TripleCode} (he : t.encode = .ok e) (n : Nat) :
    (List.replicate n t).mapM Triple.encode = .ok (List.replicate n e) := by
  induction n with
  | zero => rfl
  | succ n ih =>
    rw [List.replicate_succ, List.mapM_cons, he, ih]
    rfl

/-- The code of the triple to write. -/
def sampleCode : TripleCode := ⟨"urn:s", "urn:p", ⟨.plain, "x", none⟩⟩

theorem sendAll_batched_three :
    (ofFaults {}).Serves ∧
      (List.replicate 12001 sample).mapM Triple.encode = .ok (List.replicate 12001 sampleCode) ∧
      ((ofFaults {}).batchesOf .add (List.replicate 12001 sample)).map List.length =
        [5000, 5000, 2001] := by
  have hs : (ofFaults {}).Serves := ⟨rfl, rfl, rfl⟩
  have hcodes := mapM_encode_replicate (t := sample) (e := sampleCode) rfl 12001
  refine ⟨hs, hcodes, ?_⟩
  rw [(sendAll_batched hs hcodes .add).sizes, List.length_replicate]
  rfl

end Handle

end QuadClient
