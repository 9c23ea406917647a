import QuadClient.Graph.Write
import QuadClient.Local.Basic

/-!
# Calls on a connection without faults

What the in-process store answers while it is open and told to show no fault: parameters are
bound in order, and a statement makes its change to the triples that the connection sees. A
statement that is refused leaves them as they are.
-/

namespace QuadClient

namespace Prepared

/-- A parameter that is bound takes the place of the one at its number, or is put on the end. -/
theorem params_bindAt {st : Prepared} {n : Nat} (hn : n ≤ st.params.length) (p : Param) :
    (st.bindAt n p).params = st.params.take n ++ p :: st.params.drop (n + 1) := by
  unfold bindAt
  rcases Nat.lt_or_eq_of_le hn with h | rfl
  · -- Inside of the list nothing is filled up.
    have hpad : n + 1 - st.params.length = 0 := by omega
    simp only [hpad, List.replicate_zero, List.append_nil]
    rw [List.set_eq_take_append_cons_drop, if_pos h]
  · have hpad : st.params.length + 1 - st.params.length = 1 := by omega
    simp only [hpad, List.replicate_one]
    rw [List.set_append_right _ _ (Nat.le_refl _), Nat.sub_self, List.take_length,
      List.drop_eq_nil_of_le (Nat.le_succ _)]
    rfl

end Prepared

namespace Connection

/-- Parameters are bound and put by without asking the store. -/
class PreparesApart (κ : Type) [Connection κ] : Prop where
  bind_on (st : Prepared) (i : Nat) (p : Param) (c : κ) :
    (bind st (i + 1) p).on c = (.ok (st.bindAt i p), c)
  putBy_on (st : Prepared) (c : κ) : (putBy st).on c = (.ok st.putBy, c)

export PreparesApart (bind_on putBy_on)

variable {κ : Type} [Connection κ] [PreparesApart κ]

/-- Parameters are bound over those that were bound before, from some number on. -/
theorem bindFrom_on (c : κ) (st : Prepared) (ps : List Param) {n : Nat}
    (hn : n ≤ st.params.length) :
    (Handle.bindFrom (n + 1) st ps).on c =
      (.ok { st with params := st.params.take n ++ ps ++ st.params.drop (n + ps.length) }, c) := by
  induction ps generalizing st n with
  | nil => simp [Handle.bindFrom]
  | cons p ps ih =>
    -- The first parameter is in its place, and the others go on from the number behind it.
    have hparams := Prepared.params_bindAt hn p
    have hlen : n + 1 ≤ (st.bindAt n p).params.length := by
      rw [hparams]
      simp only [List.length_append, List.length_take, List.length_cons, List.length_drop]
      omega
    have htake : (st.bindAt n p).params.take (n + 1) = st.params.take n ++ [p] := by
      rw [hparams, List.append_cons]
      exact List.take_left' (by simp; omega)
    have hdrop : (st.bindAt n p).params.drop (n + 1 + ps.length) =
        st.params.drop (n + (ps.length + 1)) := by
      rw [hparams, List.append_cons, ← List.drop_drop, List.drop_left' (by simp; omega),
        List.drop_drop]
      congr 1
      omega
    rw [Handle.bindFrom, Attempt.on_bind, bind_on]
    simp only [ih _ hlen, htake, hdrop, List.length_cons, List.append_assoc, List.cons_append,
      List.nil_append]
    rfl

/-- Parameters that are not fewer than those bound before take the place of all of them. -/
theorem bindFrom_one_on (c : κ) {st : Prepared} {ps : List Param}
    (hlen : st.params.length ≤ ps.length) :
    (Handle.bindFrom 1 st ps).on c = (.ok { st with params := ps }, c) := by
  have hdrop : st.params.drop (0 + ps.length) = [] :=
    List.drop_eq_nil_of_le (by rwa [Nat.zero_add])
  rw [bindFrom_on c st ps (Nat.zero_le _), List.take_zero, List.nil_append, hdrop,
    List.append_nil]

end Connection

namespace LocalConnection

/-- The connection is open and told to show no fault. -/
structure Serves (c : LocalConnection) : Prop where
  faults : c.faults = {}
  isOpen : c.isClosed = false

/-- The connection is open and runs the statements of writes; other calls may be told to fail. -/
structure Accepts (c : LocalConnection) : Prop where
  isOpen : c.isClosed = false
  updates : c.faults.updates = false

theorem Serves.accepts {c : LocalConnection} (hc : c.Serves) : c.Accepts :=
  ⟨hc.isOpen, by rw [hc.faults]⟩

/-- The connection runs no statement of a write. -/
def Rejects (c : LocalConnection) : Prop :=
  c.isClosed = true ∨ c.faults.updates = true

instance : Connection.PreparesApart LocalConnection := ⟨fun _ _ _ _ => rfl, fun _ _ => rfl⟩

variable {c : LocalConnection}

@[simp] theorem setVisible_visible (c : LocalConnection) : c.setVisible c.visible = c := by
  obtain ⟨committed, working⟩ := c
  cases working <;> rfl

@[simp] theorem log_setVisible (s : QuadStore) (c : LocalConnection) :
    (c.setVisible s).log = c.log := by
  obtain ⟨committed, working⟩ := c
  cases working <;> rfl

@[simp] theorem visible_record (entry : LogEntry) (c : LocalConnection) :
    (c.record entry).visible = c.visible := rfl

theorem Serves.record (hc : c.Serves) (entry : LogEntry) : (c.record entry).Serves :=
  ⟨hc.faults, hc.isOpen⟩

theorem Serves.setVisible (hc : c.Serves) (s : QuadStore) : (c.setVisible s).Serves := by
  obtain ⟨committed, working⟩ := c
  cases working <;> exact ⟨hc.faults, hc.isOpen⟩

theorem whenOpen_of_open {α : Type} {call : Call α} (h : c.isClosed = false) :
    whenOpen call c = call c := by
  rw [whenOpen, h]
  rfl

theorem whenOpen_of_closed {α : Type} {call : Call α} (h : c.isClosed = true) :
    whenOpen call c = (.error .closed, c) := by
  rw [whenOpen, h]
  rfl

theorem execute_of_accepts (hc : c.Accepts) (text : String) (options : SendOptions)
    (params : List Param) :
    execute text options params c = runUpdate text params (c.record ⟨text, options, params⟩) := by
  rw [execute, whenOpen_of_open hc.isOpen, hc.updates]
  rfl

/-- A statement that is rejected leaves no trace. -/
theorem execute_of_rejects (hc : c.Rejects) (text : String) (options : SendOptions)
    (params : List Param) : ∃ e, execute text options params c = (.error e, c) := by
  cases hopen : c.isClosed with
  | true => exact ⟨.closed, whenOpen_of_closed hopen⟩
  | false =>
    -- The connection is open, so it is the fault that the statement is rejected for.
    have hupdates : c.faults.updates = true := by
      rcases hc with hclosed | hupdates
      · rw [hopen] at hclosed
        cases hclosed
      · exact hupdates
    rw [execute, whenOpen_of_open hopen, hupdates]
    exact ⟨_, rfl⟩

/-- A statement that asks for a change makes it to what the connection sees. -/
theorem runUpdate_of_change {text : String} {params : List Param} {change : Change}
    (h : changeOf text params = .ok change) (c : LocalConnection) :
    runUpdate text params c = (.ok (), c.setVisible (change.apply c.visible)) := by
  rw [runUpdate, h]

/-- A statement that was prepared just now is bound to exactly the parameters. -/
theorem bindFrom_fresh (c : LocalConnection) (text : String) (options : SendOptions)
    (ps : List Param) :
    (Handle.bindFrom 1 { text, options } ps).on c = (.ok { text, options, params := ps }, c) :=
  Connection.bindFrom_one_on c (Nat.zero_le _)

/-! ### Batches -/

/-- A batch was asked for. -/
def asked (c : LocalConnection) : LocalConnection :=
  { c with batchesAsked := c.batchesAsked + 1 }

/-- A batch was run. -/
def ran (statement : Prepared) (c : LocalConnection) : LocalConnection :=
  let c := c.record ⟨statement.text, statement.options, statement.batch.back?.getD []⟩
  { c with batchesRun := c.batchesRun ++ [statement.batch.size] }

/-- A batch is refused by its number before its entries are looked at. -/
theorem runBatch_of_open (statement : Prepared) (h : c.isClosed = false) :
    runBatch statement c =
      if c.faults.failingBatch = some (c.batchesAsked + 1) then
        (.error (.statement ("batch " ++ Text.integer (c.asked.batchesAsked) ++
          " rejected by store")), c.asked)
      else
        let all := changeAll statement.text statement.batch.toList c.visible
        match all.1 with
        | .error e => (.error e, c.asked.setVisible all.2)
        | .ok () => (.ok statement.batch.size, ran statement (c.asked.setVisible all.2)) := by
  rw [runBatch, whenOpen_of_open h]
  rfl

@[simp] theorem batchesRun_setVisible (s : QuadStore) (c : LocalConnection) :
    (c.setVisible s).batchesRun = c.batchesRun := by
  obtain ⟨committed, working⟩ := c
  cases working <;> rfl

@[simp] theorem batchesAsked_setVisible (s : QuadStore) (c : LocalConnection) :
    (c.setVisible s).batchesAsked = c.batchesAsked := by
  obtain ⟨committed, working⟩ := c
  cases working with
  | none => rfl
  | some w => rfl

/-- The refusal of the batch of this number. -/
def batchRefusal (number : Nat) : CallError :=
  .statement ("batch " ++ Text.integer number ++ " rejected by store")

/-- The batch of this number is the one to be refused, counted from the next batch on. -/
def RefusesBatch (c : LocalConnection) (number : Nat) : Prop :=
  c.faults.failingBatch = some (c.batchesAsked + number)

/-- A batch whose entries all make their changes runs unless it is to be refused. -/
theorem runBatch_of_changeAll (hopen : c.isClosed = false)
    {statement : Prepared} {s : QuadStore}
    (h : changeAll statement.text statement.batch.toList c.visible = (.ok (), s)) :
    runBatch statement c =
      if c.faults.failingBatch = some (c.batchesAsked + 1) then
        (.error (batchRefusal (c.batchesAsked + 1)), c.asked)
      else (.ok statement.batch.size, ran statement (c.asked.setVisible s)) := by
  rw [runBatch_of_open statement hopen, h]
  rfl

/-- A connection without faults runs a batch whose entries all make their changes. -/
theorem runBatch_of_serves (hc : c.Serves) {statement : Prepared} {s : QuadStore}
    (h : changeAll statement.text statement.batch.toList c.visible = (.ok (), s)) :
    ∃ d, runBatch statement c = (.ok statement.batch.size, d) ∧ d.Serves ∧ d.visible = s ∧
      d.batchesRun = c.batchesRun ++ [statement.batch.size] := by
  have hunrefused : c.faults.failingBatch ≠ some (c.batchesAsked + 1) := by
    rw [hc.faults]
    nofun
  have hasked : (c.asked.setVisible s).Serves :=
    Serves.setVisible (c := c.asked) ⟨hc.faults, hc.isOpen⟩ s
  rw [runBatch_of_open statement hc.isOpen, if_neg hunrefused, h]
  refine ⟨_, rfl, ⟨hasked.faults, hasked.isOpen⟩, visible_setVisible s c.asked, ?_⟩
  show (c.asked.setVisible s).batchesRun ++ _ = _
  rw [batchesRun_setVisible]
  rfl

/-- A batch whose entries all make their changes is refused as a whole or makes them all. -/
theorem runBatch_cases {statement : Prepared} {s : QuadStore}
    (h : changeAll statement.text statement.batch.toList c.visible = (.ok (), s)) :
    (∃ e d, runBatch statement c = (.error e, d) ∧ d.visible = c.visible) ∨
      ∃ n d, runBatch statement c = (.ok n, d) ∧ d.visible = s := by
  cases hopen : c.isClosed with
  | true => exact Or.inl ⟨.closed, c, whenOpen_of_closed hopen, rfl⟩
  | false =>
    rw [runBatch_of_open statement hopen]
    split
    · -- It is refused before it is run, and all it leaves is that it was asked for.
      exact Or.inl ⟨_, c.asked, rfl, rfl⟩
    · rw [h]
      exact Or.inr ⟨_, _, rfl, visible_setVisible s c.asked⟩

end LocalConnection

end QuadClient
