import QuadClient.Proofs.Graph.Staged

/-!
# How far a write came

A batched write stops at a triple that cannot be coded, and at a batch that the store refuses.
Wherever that happens, what it has sent is a whole number of full batches from the front of the
list. Inside of a transaction that the caller holds, this is what it leaves staged.
-/

namespace QuadClient

open Framed (frame)
open LocalConnection (Staged)

/-- The sizes of the batches that so many triples are sent in. -/
def batchSizes (n : Nat) : List Nat :=
  List.replicate (n / batchLimit) batchLimit ++
    if n % batchLimit = 0 then [] else [n % batchLimit]

/-- A whole number of full batches leaves nothing for a last one. -/
theorem batchSizes_mul (full : Nat) :
    batchSizes (batchLimit * full) = List.replicate full batchLimit := by
  rw [batchSizes, Nat.mul_mod_right, Nat.mul_div_cancel_left full (by decide), if_pos rfl,
    List.append_nil]

/-- What is left over goes in a last batch, which may be full itself. -/
theorem batchSizes_mul_add (full : Nat) {rest : Nat} (hpos : 0 < rest)
    (hle : rest ≤ batchLimit) :
    batchSizes (batchLimit * full + rest) = List.replicate full batchLimit ++ [rest] := by
  rcases Nat.lt_or_eq_of_le hle with hlt | rfl
  · have hmod : (batchLimit * full + rest) % batchLimit = rest := by
      rw [Nat.mul_add_mod, Nat.mod_eq_of_lt hlt]
    have hdiv : (batchLimit * full + rest) / batchLimit = full := by
      rw [Nat.mul_add_div (by decide), Nat.div_eq_of_lt hlt, Nat.add_zero]
    rw [batchSizes, hmod, hdiv, if_neg (Nat.ne_of_gt hpos)]
  · -- The last batch is full too, and counts among the others.
    rw [← Nat.mul_succ, batchSizes_mul, List.replicate_succ']

/-! ### How a write ends -/

/-- How a batched write on this connection ends: its outcome, the number of triples it has sent
and the number of triples it has put by. -/
inductive WriteEnds (kind : WriteKind) (ts : List Triple) (c : LocalConnection) :
    Except Error Nat → Nat → Nat → Prop
  /-- every triple can be coded, and none of the batches that hold them is refused -/
  | whole (coded : ∀ t ∈ ts, ∃ e, t.encode = .ok e)
      (run : ∀ full, batchLimit * full < ts.length → ¬ c.RefusesBatch (full + 1)) :
      WriteEnds kind ts c (.ok ts.length) ts.length ts.length
  /-- the triple at a position is the first that cannot be coded, and none of the batches that
  are full before it is refused -/
  | misplaced {position : Nat} {bad : Triple} {m : Misplaced}
      (there : ts[position]? = some bad) (uncoded : bad.encode = .error m)
      (coded : ∀ t ∈ ts.take position, ∃ e, t.encode = .ok e)
      (run : ∀ full < position / batchLimit, ¬ c.RefusesBatch (full + 1)) :
      WriteEnds kind ts c (.error (.misplaced m))
        (batchLimit * (position / batchLimit)) position
  /-- the batch after this number of full ones is refused, and its triples can all be coded -/
  | refused {full : Nat} (refused : c.RefusesBatch (full + 1))
      (reached : batchLimit * full < ts.length)
      (coded : ∀ t ∈ ts.take (batchLimit * (full + 1)), ∃ e, t.encode = .ok e) :
      WriteEnds kind ts c
        (.error (.ofMutation kind (LocalConnection.batchRefusal (c.batchesAsked + (full + 1)))))
        (batchLimit * full) (min (batchLimit * (full + 1)) ts.length)

/-- What a batched write leaves once it has sent and put by so many triples. -/
structure WriteLeaves (kind : WriteKind) (graph : String) (ts : List Triple) (sent queued : Nat)
    (c : LocalConnection) (p : Progress) (c' : LocalConnection) : Prop where
  /-- the triples that were put by are listed, in order -/
  queued : p.queued.toList = ts.take queued
  /-- the changes of the triples that were sent are made, and no others -/
  visible : c'.visible = c.visible.write kind graph (ts.take sent)
  /-- the batches that ran hold the triples that were sent, and no others -/
  ran : c'.batchesRun = c.batchesRun ++ batchSizes sent
  /-- all that a statement leaves alone is as before -/
  frame : frame c' = frame c

namespace BatchWrite

/-- The write began on this connection. It has sent so many batches, all of them full, and the
rest waits. -/
structure InBatches (kind : WriteKind) (graph : String) (c : LocalConnection) (full : Nat)
    (sent waiting : List Triple) (b : BatchWrite LocalConnection) : Prop
    extends b.Midway kind graph c.visible sent waiting where
  length : sent.length = batchLimit * full
  ran : b.connection.batchesRun = c.batchesRun ++ List.replicate full batchLimit
  kept : frame b.connection = frame c

/-- No batch was refused so far, and the one that waits is not full. -/
structure OnCourse (kind : WriteKind) (graph : String) (c : LocalConnection) (full : Nat)
    (sent waiting : List Triple) (b : BatchWrite LocalConnection) : Prop
    extends b.InBatches kind graph c full sent waiting where
  asked : b.connection.batchesAsked = c.batchesAsked + full
  run : ∀ k < full, ¬ c.RefusesBatch (k + 1)
  short : waiting.length < batchLimit

/-- The batch that waited was refused. -/
structure Refused (kind : WriteKind) (graph : String) (c : LocalConnection) (full : Nat)
    (sent waiting : List Triple) (b : BatchWrite LocalConnection) : Prop
    extends b.InBatches kind graph c full sent waiting where
  refused : c.RefusesBatch (full + 1)
  some : 0 < waiting.length
  fits : waiting.length ≤ batchLimit

variable {kind : WriteKind} {graph : String} {c : LocalConnection} {full : Nat}
  {sent waiting ts : List Triple} {b : BatchWrite LocalConnection}

theorem Midway.all_coded {s : QuadStore} (hb : b.Midway kind graph s sent waiting) :
    ∀ t ∈ sent ++ waiting, ∃ e, t.encode = .ok e :=
  List.forall_mem_append.2 ⟨hb.coded, hb.batch.coded⟩

/-- The batch that waits is refused and goes on waiting, or it goes through. -/
theorem InBatches.flush (hopen : c.isClosed = false)
    (hb : b.InBatches kind graph c full sent waiting)
    (hasked : b.connection.batchesAsked = c.batchesAsked + full) :
    (c.RefusesBatch (full + 1) ∧ ∃ b', (flush kind).on b =
        (.error (.ofMutation kind (LocalConnection.batchRefusal (c.batchesAsked + (full + 1)))),
          b') ∧ b'.InBatches kind graph c full sent waiting) ∨
      ¬ c.RefusesBatch (full + 1) ∧ ∃ b', (flush kind).on b = (.ok (), b') ∧
        b'.Midway kind graph c.visible (sent ++ waiting) [] ∧
        b'.connection.batchesAsked = c.batchesAsked + (full + 1) ∧
        b'.connection.batchesRun =
          c.batchesRun ++ (List.replicate full batchLimit ++ [waiting.length]) ∧
        frame b'.connection = frame c := by
  -- The frame was kept so far, so the faults and the closing are still those of the beginning.
  have hopen' : b.connection.isClosed = false :=
    (congrArg Frame.isClosed hb.kept).trans hopen
  have hfaults : b.connection.faults = c.faults := congrArg Frame.faults hb.kept
  have hkept := ((confined_flush kind).frame_on b).trans hb.kept
  have hrun := LocalConnection.runBatch_of_changeAll hopen' hb.changeAll
  rw [hfaults, hasked, Nat.add_assoc] at hrun
  split at hrun
  · next hrefused =>
    -- The batch that is counted next is the one to fail.
    have hflush : (BatchWrite.flush kind).on b =
        (.error (.ofMutation kind (LocalConnection.batchRefusal (c.batchesAsked + (full + 1)))),
          { b with connection := b.connection.asked }) := flush_of_error hrun
    rw [hflush] at hkept
    refine Or.inl ⟨hrefused, _, hflush, ⟨?_, hb.length, hb.ran, hkept⟩⟩
    exact ⟨hb.text, hb.params, hb.batch, hb.count, hb.pending, hb.queued, hb.coded, hb.visible⟩
  · next hrefused =>
    -- It goes through, as the one that ran last.
    have hflush : (BatchWrite.flush kind).on b = (.ok (), b.flushed _) := flush_of_ok hrun
    rw [hflush] at hkept
    refine Or.inr ⟨hrefused, _, hflush, ?_, ?_, ?_, hkept⟩
    · exact hb.flushed (LocalConnection.visible_setVisible _ b.connection.asked)
    · show (b.connection.asked.setVisible _).batchesAsked = _
      rw [LocalConnection.batchesAsked_setVisible, ← Nat.add_assoc, ← hasked]
      rfl
    · show (b.connection.asked.setVisible _).batchesRun ++ [b.statement.batch.size] = _
      rw [LocalConnection.batchesRun_setVisible, ← List.append_assoc, ← hb.ran,
        ← Array.length_toList, ← List.Forall₂.length_eq hb.batch]
      rfl

/-- A full batch that went through leaves the write on its course, with nothing waiting. -/
theorem OnCourse.advance (hb : b.OnCourse kind graph c full sent waiting)
    {us : List Triple} (hfilled : us.length = batchLimit) (hran : ¬ c.RefusesBatch (full + 1))
    {b' : BatchWrite LocalConnection} (hb' : b'.Midway kind graph c.visible (sent ++ us) [])
    (hasked : b'.connection.batchesAsked = c.batchesAsked + (full + 1))
    (hbatches : b'.connection.batchesRun =
      c.batchesRun ++ (List.replicate full batchLimit ++ [us.length]))
    (hkept : frame b'.connection = frame c) :
    b'.OnCourse kind graph c (full + 1) (sent ++ us) [] := by
  refine ⟨⟨hb', ?_, ?_, hkept⟩, hasked, ?_, by decide⟩
  · rw [List.length_append, hb.length, hfilled, Nat.mul_succ]
  · rw [hbatches, hfilled, ← List.replicate_succ']
  · -- No batch up to this one was refused.
    intro k hk
    rcases Nat.lt_succ_iff_lt_or_eq.1 hk with hk | rfl
    · exact hb.run k hk
    · exact hran

/-- Taking a triple keeps the write on its course, unless the triple cannot be coded or the batch
that it fills is refused. -/
theorem OnCourse.put (hopen : c.isClosed = false)
    (hb : b.OnCourse kind graph c full sent waiting) (t : Triple) :
    (∃ m b', t.encode = .error m ∧ (put kind graph t).on b = (.error (.misplaced m), b') ∧
        b'.OnCourse kind graph c full sent waiting) ∨
      (∃ b', (put kind graph t).on b =
          (.error (.ofMutation kind (LocalConnection.batchRefusal (c.batchesAsked + (full + 1)))),
            b') ∧ b'.Refused kind graph c full sent (waiting ++ [t]) ∧
          (waiting ++ [t]).length = batchLimit) ∨
      ∃ full' sent' waiting' b', (put kind graph t).on b = (.ok (), b') ∧
        sent' ++ waiting' = sent ++ waiting ++ [t] ∧
        b'.OnCourse kind graph c full' sent' waiting' := by
  cases he : t.encode with
  -- It is taken and not put by, so only the count of what was taken goes up.
  | error m =>
    refine Or.inl ⟨m, _, rfl, put_of_error he, ⟨⟨?_, hb.length, hb.ran, hb.kept⟩, hb.asked, hb.run,
      hb.short⟩⟩
    exact ⟨hb.text, hb.params, hb.batch, hb.count, hb.pending, hb.queued, hb.coded, hb.visible⟩
  | ok e =>
    have hqueue : (b.queue graph t e).InBatches kind graph c full sent (waiting ++ [t]) :=
      ⟨hb.toMidway.queue he, hb.length, hb.ran, hb.kept⟩
    have hlength : (waiting ++ [t]).length = b.pending + 1 := by
      rw [List.length_append, ← hb.pending]
      rfl
    have hsplit : sent ++ (waiting ++ [t]) = sent ++ waiting ++ [t] :=
      (List.append_assoc ..).symm
    refine Or.inr ?_
    rw [put_of_ok hb.params he]
    split
    · next hfull =>
      -- The batch is full now and is sent; the two ways that goes are two of the three outcomes.
      rw [hfull] at hlength
      rcases hqueue.flush hopen hb.asked with
        ⟨hrefused, b', hflush, hb'⟩ | ⟨hran, b', hflush, hb', hasked, hbatches, hkept⟩
      · exact Or.inl ⟨b', hflush, ⟨hb', hrefused, by rw [hlength]; decide, Nat.le_of_eq hlength⟩,
          hlength⟩
      · exact Or.inr ⟨full + 1, _, [], b', hflush, by rw [List.append_nil, hsplit],
          hb.advance hlength hran hb' hasked hbatches hkept⟩
    · next hshort =>
      -- There is room for more, so nothing is sent.
      refine Or.inr ⟨full, sent, _, _, rfl, hsplit, ⟨hqueue, hb.asked, hb.run, ?_⟩⟩
      have := hb.short
      have := hb.pending
      omega

/-- How the taking of the triples of a list comes out: every triple is taken, one cannot be coded,
or a batch that they fill is refused. -/
inductive Taking (kind : WriteKind) (graph : String) (c : LocalConnection) (ts : List Triple) :
    Except Error PUnit → BatchWrite LocalConnection → Prop
  | all {full : Nat} {sent waiting : List Triple} {b : BatchWrite LocalConnection}
      (hb : b.OnCourse kind graph c full sent waiting) (split : ts = sent ++ waiting) :
      Taking kind graph c ts (.ok ()) b
  | misplaced {full : Nat} {sent waiting rest : List Triple} {bad : Triple} {m : Misplaced}
      {b : BatchWrite LocalConnection} (hb : b.OnCourse kind graph c full sent waiting)
      (split : ts = sent ++ waiting ++ bad :: rest) (uncoded : bad.encode = .error m) :
      Taking kind graph c ts (.error (.misplaced m)) b
  | refused {full : Nat} {sent waiting rest : List Triple} {b : BatchWrite LocalConnection}
      (hb : b.Refused kind graph c full sent waiting) (split : ts = sent ++ waiting ++ rest)
      (filled : waiting.length = batchLimit) :
      Taking kind graph c ts
        (.error (.ofMutation kind (LocalConnection.batchRefusal (c.batchesAsked + (full + 1))))) b

/-- A write on its course takes the triples of a list until it comes to one of the three ends. -/
theorem OnCourse.forM (hopen : c.isClosed = false)
    (hb : b.OnCourse kind graph c full sent waiting) {us : List Triple}
    (hts : ts = sent ++ waiting ++ us) :
    ∃ r b', (us.forM (BatchWrite.put kind graph)).on b = (r, b') ∧ Taking kind graph c ts r b' := by
  induction us generalizing full sent waiting b with
  | nil => exact ⟨_, b, rfl, .all hb (by rwa [List.append_nil] at hts)⟩
  | cons u us ih =>
    rw [Attempt.on_forM_cons]
    rcases hb.put hopen u with ⟨m, b', he, hput, hb'⟩ | ⟨b', hput, hb', hfilled⟩ |
      ⟨full', sent', waiting', b', hput, hsplit, hb'⟩
    · -- It stops at this triple, with the rest not looked at.
      rw [hput]
      exact ⟨_, b', rfl, .misplaced hb' hts he⟩
    · -- It stops behind this triple, which filled the batch.
      rw [hput]
      have hsplit : ts = sent ++ (waiting ++ [u]) ++ us := by
        rw [hts, List.append_cons, List.append_assoc sent]
      exact ⟨_, b', rfl, .refused hb' hsplit hfilled⟩
    · -- It goes on, and what it took is one triple more.
      rw [hput]
      refine ih hb' ?_
      rw [hts, List.append_cons, hsplit]

/-! ### What the outcomes leave -/

/-- A write leaves what it has sent and put by, whether it goes on or not. -/
theorem InBatches.leaves (hb : b.InBatches kind graph c full sent waiting) {rest : List Triple}
    (hts : ts = sent ++ waiting ++ rest) :
    WriteLeaves kind graph ts (batchLimit * full) (sent ++ waiting).length c b.progress
      b.connection := by
  -- the list, the store, the batches and the frame
  refine ⟨?_, ?_, ?_, hb.kept⟩
  · rw [hb.queued, hts, List.take_left]
  · rw [hb.visible, hts, List.append_assoc, ← hb.length, List.take_left]
  · rw [hb.ran, batchSizes_mul]

/-- The number of full batches is that of the triples so far, divided by the limit. -/
theorem OnCourse.div_eq (hb : b.OnCourse kind graph c full sent waiting) :
    (sent ++ waiting).length / batchLimit = full := by
  rw [List.length_append, hb.length, Nat.mul_add_div (by decide), Nat.div_eq_of_lt hb.short,
    Nat.add_zero]

/-- None of the batches that hold the triples so far is refused, if the one that waits is not. -/
theorem OnCourse.run_all (hb : b.OnCourse kind graph c full sent waiting)
    (hran : ¬ c.RefusesBatch (full + 1)) {k : Nat}
    (hk : batchLimit * k < (sent ++ waiting).length) : ¬ c.RefusesBatch (k + 1) := by
  -- A batch that holds one of the triples is full or it is the one that waits.
  have hle : k ≤ full := by
    rw [← hb.div_eq]
    exact (Nat.le_div_iff_mul_le (by decide)).2 (Nat.mul_comm .. ▸ Nat.le_of_lt hk)
  rcases Nat.lt_or_eq_of_le hle with hlt | rfl
  · exact hb.run k hlt
  · exact hran

/-- A write that comes to a triple that cannot be coded ends there. -/
theorem OnCourse.misplaced (hb : b.OnCourse kind graph c full sent waiting) {rest : List Triple}
    {bad : Triple} {m : Misplaced} (hts : ts = sent ++ waiting ++ bad :: rest)
    (hbad : bad.encode = .error m) :
    ∃ sent queued, WriteEnds kind ts c (.error (.misplaced m)) sent queued ∧
      WriteLeaves kind graph ts sent queued c b.progress b.connection := by
  have hleaves := hb.leaves hts
  -- The position of the triple is the number of triples in front of it.
  have hthere : ts[(sent ++ waiting).length]? = some bad := by
    rw [hts, List.getElem?_append_right (Nat.le_refl _), Nat.sub_self]
    rfl
  have hcoded : ∀ t ∈ ts.take (sent ++ waiting).length, ∃ e, t.encode = .ok e := by
    rw [hts, List.take_left]
    exact hb.all_coded
  have hrun : ∀ k < (sent ++ waiting).length / batchLimit, ¬ c.RefusesBatch (k + 1) := by
    rw [hb.div_eq]
    exact hb.run
  rw [← hb.div_eq] at hleaves
  exact ⟨_, _, .misplaced hthere hbad hcoded hrun, hleaves⟩

/-- A write whose batch is refused ends there, whether the batch was full or the last one. -/
theorem Refused.ends (hb : b.Refused kind graph c full sent waiting) {rest : List Triple}
    (hts : ts = sent ++ waiting ++ rest) (hfilled : waiting.length = batchLimit ∨ rest = []) :
    ∃ sent queued, WriteEnds kind ts c
        (.error (.ofMutation kind (LocalConnection.batchRefusal (c.batchesAsked + (full + 1)))))
        sent queued ∧
      WriteLeaves kind graph ts sent queued c b.progress b.connection := by
  have hleaves := hb.leaves hts
  have htaken : (sent ++ waiting).length = batchLimit * full + waiting.length := by
    rw [List.length_append, hb.length]
  have hlength : ts.length = (sent ++ waiting).length + rest.length := by
    rw [hts, List.length_append]
  have hnext : batchLimit * (full + 1) = batchLimit * full + batchLimit := Nat.mul_succ ..
  have hsome := hb.some
  have hfits := hb.fits
  -- A full batch ends inside of the list, the last batch at the end of it.
  have hqueued : min (batchLimit * (full + 1)) ts.length = (sent ++ waiting).length := by
    rcases hfilled with hfilled | rfl
    · omega
    · rw [List.length_nil] at hlength
      omega
  -- What was put by are the triples of the batches up to this one.
  refine ⟨_, _, .refused hb.refused (by omega) ?_, by rwa [hqueued]⟩
  have htake : ts.take (batchLimit * (full + 1)) = sent ++ waiting := by
    rw [List.take_eq_take_min, hqueued, hts, List.take_left]
  rw [htake]
  exact hb.all_coded

/-- A write that has taken every triple sends what is left, and ends. -/
theorem OnCourse.last (hopen : c.isClosed = false)
    (hb : b.OnCourse kind graph c full sent waiting) (hts : ts = sent ++ waiting) :
    ∃ r b' n queued,
      (do
        if 0 < (← get).pending then BatchWrite.flush kind
        return (← get).sent : Attempt Error (BatchWrite LocalConnection) Nat).on b = (r, b') ∧
      WriteEnds kind ts c r n queued ∧
      WriteLeaves kind graph ts n queued c b'.progress b'.connection := by
  have hlength : ts.length = batchLimit * full + waiting.length := by
    rw [hts, List.length_append, hb.length]
  have hcoded : ∀ t ∈ ts, ∃ e, t.encode = .ok e := by
    rw [hts]
    exact hb.all_coded
  simp only [Attempt.on_bind, Attempt.on_get, hb.pending]
  split
  · next hsome =>
    -- A last batch is sent, which may be refused as any other.
    rw [Attempt.on_bind]
    rcases hb.flush hopen hb.asked with
      ⟨hrefused, b', hflush, hb'⟩ | ⟨hran, b', hflush, hb', -, hbatches, hkept⟩
    · have hlast : ts = sent ++ waiting ++ [] := by rw [List.append_nil, hts]
      obtain ⟨n, queued, hends, hleaves⟩ :=
        Refused.ends ⟨hb', hrefused, hsome, Nat.le_of_lt hb.short⟩ hlast (Or.inr rfl)
      rw [hflush]
      exact ⟨_, b', n, queued, rfl, hends, hleaves⟩
    · rw [hflush]
      -- With the last batch every batch of the list has gone through.
      have hrun : ∀ k, batchLimit * k < ts.length → ¬ c.RefusesBatch (k + 1) := by
        rw [hts]
        exact fun k hk => hb.run_all hran hk
      refine ⟨_, b', ts.length, ts.length, ?_, .whole hcoded hrun, ?_, ?_, ?_, hkept⟩
      · rw [hts, ← hb'.count]
        rfl
      · rw [hb'.queued, List.take_length, List.append_nil, hts]
      · rw [hb'.visible, List.take_length, hts]
      · rw [hbatches, hlength, batchSizes_mul_add full hsome (Nat.le_of_lt hb.short)]
  · next hnone =>
    -- Nothing waits: the triples filled their batches, and the last of these was sent already.
    have hwaiting : waiting.length = 0 := Nat.eq_zero_of_not_pos hnone
    have hnil : waiting = [] := List.length_eq_zero_iff.1 hwaiting
    rw [hwaiting, Nat.add_zero] at hlength
    refine ⟨_, b, ts.length, ts.length, ?_, .whole hcoded ?_, ?_, ?_, ?_, hb.kept⟩
    · rw [hlength, ← hb.length, ← hb.count]
      rfl
    · intro k hk
      rw [hlength] at hk
      exact hb.run k (Nat.lt_of_mul_lt_mul_left hk)
    · rw [hb.queued, List.take_length, hts]
    · rw [hb.visible, List.take_length, hts, hnil, List.append_nil]
    · rw [hb.ran, hlength, batchSizes_mul]

end BatchWrite

/-! ### Whole writes -/

namespace Handle

variable {h : Handle LocalConnection} {kind : WriteKind} {ts : List Triple}

end Handle

end QuadClient
