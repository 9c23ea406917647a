import QuadClient.Proofs.Connection.Noted
import QuadClient.Proofs.Graph.TransactionSteps

/-!
# Failures of transactions

The control of transactions makes up to three calls on the connection that may be refused, one
after the other: a call of the step, the rollback after it, and all that a second time when the
work inside a transaction failed and is aborted. Whatever is refused, the failure that is
reported has the wording of each refusal in its own wording, and that of the failure of the work
unless the work was aborted as it should be; then it is the failure of the work itself.
-/

namespace QuadClient

/-! ### Wordings -/

namespace Error

/-- The wording of the failure has this text in it. -/
def Mentions (e : Error) (text : String) : Prop :=
  text.toList <:+: e.message.toList

/-- The wording of the failure has that of a refusal in it. -/
def Tells (e : Error) (refusal : CallError) : Prop :=
  e.Mentions refusal.message

theorem infix_append_left (front rest : String) : front.toList <:+: (front ++ rest).toList := by
  rw [String.toList_append]
  exact (List.prefix_append _ _).isInfix

theorem infix_append_right (front rest : String) : rest.toList <:+: (front ++ rest).toList := by
  rw [String.toList_append]
  exact (List.suffix_append _ _).isInfix

theorem infix_append_between (front text rest : String) :
    text.toList <:+: (front ++ text ++ rest).toList :=
  (infix_append_right front text).trans (infix_append_left (front ++ text) rest)

/-- The wording of a failed step ends with the wording of its cause. -/
theorem infix_phaseMessage (phase : Phase) (cause : String) :
    cause.toList <:+: (phaseMessage phase cause).toList :=
  infix_append_right _ cause

theorem tells_transaction (phase : Phase) (cause : CallError) :
    (transaction phase cause).Tells cause :=
  infix_phaseMessage phase cause.message

/-- The wording of a refused rollback and of the failure that called for it. -/
def rollbackWording (refused : CallError) (phase : Phase) (cause : CallError) : String :=
  refused.message ++ " (after " ++ phase.name ++ " failed: " ++ cause.message ++ ")"

theorem message_rollback (refused : CallError) (phase : Phase) (cause : CallError) :
    (rollback refused phase cause).message =
      phaseMessage .rollback (rollbackWording refused phase cause) :=
  rfl

/-- A failure whose rollback was refused too has the wording of that refusal. -/
theorem tells_rollback_refused (refused : CallError) (phase : Phase) (cause : CallError) :
    (rollback refused phase cause).Tells refused := by
  -- The refusal is the front of the wording once its parts are bracketed from the right.
  have hwording : refused.message.toList <:+: (rollbackWording refused phase cause).toList := by
    simp only [rollbackWording, String.append_assoc]
    exact infix_append_left _ _
  unfold Tells Mentions
  rw [message_rollback]
  exact hwording.trans (infix_phaseMessage .rollback _)

/-- It has the wording of the first refusal as well, the one that called for the rollback. -/
theorem tells_rollback_cause (refused : CallError) (phase : Phase) (cause : CallError) :
    (rollback refused phase cause).Tells cause := by
  have hwording : cause.message.toList <:+: (rollbackWording refused phase cause).toList :=
    infix_append_between _ _ _
  unfold Tells Mentions
  rw [message_rollback]
  exact hwording.trans (infix_phaseMessage .rollback _)

/-- The wording of the abort that failed, which names its step in any case. -/
def abortWording (a : Error) : String :=
  if a.isTransaction then a.message else phaseMessage .abort a.message

theorem message_abort (a work : Error) :
    (abort a work).message =
      abortWording a ++ " (while aborting after: " ++ work.message ++ ")" :=
  rfl

/-- The failure of an abort keeps the wording of the abort's own failure. -/
theorem mentions_abort (a work : Error) : (abort a work).Mentions a.message := by
  -- A failure of a step is worded as it is; any other is led by the name of the abort.
  have hwording : a.message.toList <:+: (abortWording a).toList := by
    unfold abortWording
    split
    · exact List.infix_rfl
    · exact infix_phaseMessage .abort a.message
  have hfront := infix_append_left (abortWording a)
    (" (while aborting after: " ++ (work.message ++ ")"))
  rw [← String.append_assoc, ← String.append_assoc, ← message_abort] at hfront
  exact hwording.trans hfront

/-- The failure of an abort has the wording of the failure that was the reason for it. -/
theorem mentions_abort_work (a work : Error) : (abort a work).Mentions work.message := by
  have hbetween := infix_append_between (abortWording a ++ " (while aborting after: ")
    work.message ")"
  rwa [← message_abort] at hbetween

/-- What the abort has to tell of a refusal is told with it by the failure of the whole. -/
theorem Tells.abort {a : Error} {refusal : CallError} (h : a.Tells refusal) (work : Error) :
    (abort a work).Tells refusal :=
  h.trans (mentions_abort a work)

end Error

/-! ### What is told of refusals -/

namespace Attempt

variable {ε ε' σ τ α β : Type}

/-- What an outcome tells of the calls that were refused on the way: a success that there were
none, a failure each of them. -/
def Reported (tells : ε → CallError → Prop) (refusals : List CallError) : Except ε α → Prop
  | .ok _ => refusals = []
  | .error e => ∀ r ∈ refusals, tells e r

/-- The attempt tells of all refusals that it adds to those that are written down. -/
def Reports (refusals : σ → List CallError) (tells : ε → CallError → Prop) (a : Attempt ε σ α) :
    Prop :=
  ∀ s, ∃ added, refusals (a.on s).2 = refusals s ++ added ∧ Reported tells added (a.on s).1

variable {refusals : σ → List CallError} {tells : ε → CallError → Prop}

/-- An attempt that leaves what is written down tells all there is to tell. -/
theorem reports_of_same {a : Attempt ε σ α} (h : ∀ s, refusals (a.on s).2 = refusals s) :
    a.Reports refusals tells := by
  intro s
  refine ⟨[], by rw [h s, List.append_nil], ?_⟩
  cases (a.on s).1 with
  | ok x => exact rfl
  | error e => simp [Reported]

namespace Reports

/-- One attempt after the other tells of all refusals if each of the two does. -/
theorem bind {a : Attempt ε σ α} {f : α → Attempt ε σ β} (ha : a.Reports refusals tells)
    (hf : ∀ x, (f x).Reports refusals tells) : (a >>= f).Reports refusals tells := by
  intro s
  obtain ⟨added, hadded, htold⟩ := ha s
  rw [on_bind]
  rcases hon : a.on s with ⟨e | x, t⟩
  · rw [hon] at hadded htold
    exact ⟨added, hadded, htold⟩
  · rw [hon] at hadded htold
    -- A success has met no refusal, so what is told is what the rest has to tell.
    obtain rfl : added = [] := htold
    obtain ⟨rest, hrest, hlast⟩ := hf x t
    refine ⟨rest, ?_, hlast⟩
    rw [hrest, hadded, List.append_nil]

/-- Another form of the failure tells of the refusals that the first form told of. -/
theorem mapError {tells' : ε' → CallError → Prop} {a : Attempt ε σ α} {f : ε → ε'}
    (ha : a.Reports refusals tells) (hf : ∀ e r, tells e r → tells' (f e) r) :
    (a.mapError f).Reports refusals tells' := by
  intro s
  obtain ⟨added, hadded, htold⟩ := ha s
  refine ⟨added, hadded, ?_⟩
  rw [on_mapError]
  cases hout : (a.on s).1 with
  | ok x =>
    rw [hout] at htold
    exact htold
  | error e =>
    rw [hout] at htold
    exact fun r hr => hf e r (htold r hr)

end Reports

end Attempt

/-- A call that is written down tells of its own refusal: it is the failure. -/
theorem Noted.reports_note {κ α : Type} (call : Attempt CallError κ α) :
    (note call).Reports refusals fun e r => e = r := by
  intro n
  rw [note, Attempt.on_of]
  rcases call.on n.inner with ⟨e | x, c⟩
  · exact ⟨[e], rfl, fun r hr => (List.mem_singleton.1 hr).symm⟩
  · exact ⟨[], (List.append_nil _).symm, rfl⟩

/-! ### Steps on a noted connection -/

variable {κ α : Type}

/-- The refusals that the connection of a handle has written down. -/
def Handle.refusals (h : Handle (Noted κ)) : List CallError :=
  h.connection.refusals

/-- A closed handle makes no call, so it has no refusal to tell of. -/
theorem Handle.reports_onConnection {a : Attempt Error (Noted κ) α}
    (ha : a.Reports Noted.refusals Error.Tells) :
    (onConnection a).Reports Handle.refusals Error.Tells := by
  intro h
  by_cases hclosed : h.isClosed = true
  · rw [onConnection_of_closed hclosed]
    exact ⟨[], (List.append_nil _).symm, by simp [Attempt.Reported]⟩
  · rw [onConnection_of_open (Bool.eq_false_iff.2 hclosed)]
    exact ha h.connection

namespace Transaction

open Attempt (Reports Reported)

/-- The refusals that the connection of the handle has written down. -/
def refusals (t : Transaction (Noted κ)) : List CallError :=
  t.handle.refusals

theorem reports_onHandle {a : GraphAction (Noted κ) α}
    (ha : a.Reports Handle.refusals Error.Tells) : (onHandle a).Reports refusals Error.Tells :=
  fun t => ha t.handle

theorem reports_onConnection {a : Attempt Error (Noted κ) α}
    (ha : a.Reports Noted.refusals Error.Tells) : (onConnection a).Reports refusals Error.Tells :=
  reports_onHandle (Handle.reports_onConnection ha)

/-- A call on its own tells of its refusal in the failure of the step. -/
theorem reports_transaction (phase : Phase) (call : Attempt CallError κ α) :
    (Attempt.mapError (Error.transaction phase) (Noted.note call)).Reports Noted.refusals
      Error.Tells := by
  apply (Noted.reports_note call).mapError
  rintro e r rfl
  exact Error.tells_transaction phase e

variable [Connection κ]

/-- A store that refuses to say whether it offers transactions is told of. -/
theorem reports_supportsTransactions :
    (supportsTransactions : TransactionAction (Noted κ) Bool).Reports refusals Error.Tells := by
  apply (Attempt.reports_of_same fun _ => rfl).bind
  intro t
  -- The answer is known, or the store is asked and its answer is remembered.
  cases t.supported with
  | some b => exact Attempt.reports_of_same fun _ => rfl
  | none =>
    apply (reports_onConnection (reports_transaction .begin Connection.supportsTransactions)).bind
    intro b
    exact Attempt.reports_of_same fun _ => rfl

theorem reports_require (step : String) :
    (require step : TransactionAction (Noted κ) Unit).Reports refusals Error.Tells := by
  apply reports_supportsTransactions.bind
  intro b
  cases b with
  | true => exact Attempt.reports_of_same fun _ => rfl
  | false => exact Attempt.reports_of_same fun _ => rfl

/-- A step that failed reports the cause, and the refusal of the rollback if that is refused. -/
theorem failWith_reports {t : Transaction (Noted κ)} (hopen : t.handle.isClosed = false)
    (phase : Phase) (cause : CallError) :
    ∃ e t' added, (failWith phase cause : TransactionAction (Noted κ) α).on t = (.error e, t') ∧
      t'.refusals = t.refusals ++ added ∧ e.Tells cause ∧ ∀ r ∈ added, e.Tells r := by
  obtain ⟨added, hadded, htold⟩ :=
    Noted.reports_note (Connection.rollback : Attempt CallError κ Unit) t.handle.connection
  have hrollback : (Connection.rollback : Attempt CallError (Noted κ) Unit) =
      Noted.note Connection.rollback := rfl
  rw [failWith, Attempt.on_bind, onConnection_on_of_open hopen, Attempt.on_outcome, hrollback]
  rcases hon : (Noted.note Connection.rollback).on t.handle.connection with ⟨refused | x, n⟩
  · -- The rollback is refused as well: one failure has the wording of both.
    rw [hon] at hadded htold
    refine ⟨_, _, added, rfl, hadded, Error.tells_rollback_cause refused phase cause, ?_⟩
    intro r hr
    obtain rfl : refused = r := htold r hr
    exact Error.tells_rollback_refused refused phase cause
  · -- The rollback is done, so the cause is all there is to tell.
    rw [hon] at hadded htold
    obtain rfl : added = [] := htold
    exact ⟨_, _, [], rfl, hadded, Error.tells_transaction phase cause, by simp⟩

/-- The calls of a step tell of their refusals, and of that of the rollback after them. -/
theorem reports_guarded (phase : Phase) {calls : Attempt CallError (Noted κ) Unit}
    (hcalls : calls.Reports Noted.refusals fun e r => e = r) :
    (guarded phase calls).Reports refusals Error.Tells := by
  intro t
  by_cases hclosed : t.handle.isClosed = true
  · rw [guarded, Attempt.on_bind, onConnection_of_closed hclosed]
    exact ⟨[], (List.append_nil _).symm, by simp [Reported]⟩
  · have hopen : t.handle.isClosed = false := Bool.eq_false_iff.2 hclosed
    obtain ⟨made, hmade, htold⟩ := hcalls t.handle.connection
    rw [guarded, Attempt.on_bind, onConnection_on_of_open hopen, Attempt.on_outcome]
    rcases hon : calls.on t.handle.connection with ⟨cause | x, n⟩
    · -- The calls were refused, so the rollback comes next, and its failure tells of the refusals
      -- of both.
      rw [hon] at hmade htold
      obtain ⟨e, t', added, hfail, hadded, hcause, hrest⟩ :=
        failWith_reports (α := Unit) (t := ⟨{ t.handle with connection := n }, t.supported⟩) hopen
          phase cause
      dsimp only
      rw [hfail]
      refine ⟨made ++ added, ?_, ?_⟩
      · rw [hadded, ← List.append_assoc]
        exact congrArg (· ++ added) hmade
      · intro r hr
        rcases List.mem_append.1 hr with hr | hr
        · obtain rfl : cause = r := htold r hr
          exact hcause
        · exact hrest r hr
    · rw [hon] at hmade htold
      exact ⟨made, hmade, htold⟩

/-- The call that ends autocommit, if the connection is in it. -/
def switchOff : Attempt CallError κ Unit := do
  if ← Connection.autoCommit then Connection.setAutoCommit false

/-- The two calls that end autocommit tell of a refusal. -/
theorem reports_switchOff : (switchOff : Attempt CallError (Noted κ) Unit).Reports Noted.refusals
    fun e r => e = r := by
  apply (Noted.reports_note _).bind
  intro auto
  cases auto with
  | true => exact Noted.reports_note _
  | false => exact Attempt.reports_of_same fun _ => rfl

/-- The beginning of a transaction tells of a refusal at any of its calls. -/
theorem reports_begin :
    (begin : TransactionAction (Noted κ) Unit).Reports refusals Error.Tells := by
  apply (reports_require _).bind
  intro _
  apply reports_guarded
  apply (Noted.reports_note _).bind
  intro level
  -- The isolation level is set only if it is another one; either way the calls are one guarded
  -- step.
  by_cases hlevel : level ≠ .readCommitted
  · rw [if_pos hlevel]
    exact (Noted.reports_note _).bind fun _ => reports_switchOff
  · rw [if_neg hlevel]
    exact reports_switchOff

theorem reports_commit :
    (commit : TransactionAction (Noted κ) Unit).Reports refusals Error.Tells := by
  apply (reports_require _).bind
  intro _
  apply reports_guarded
  exact (Noted.reports_note _).bind fun _ => Noted.reports_note _

/-- The rollback of an abort stands outside of the guard and tells of its own refusal. -/
theorem reports_abort :
    (abort : TransactionAction (Noted κ) Unit).Reports refusals Error.Tells := by
  apply (reports_require _).bind
  intro _
  apply (reports_onConnection (reports_transaction .rollback Connection.rollback)).bind
  intro _
  apply reports_guarded
  exact (Noted.reports_note _).bind fun _ => Noted.reports_note _

/-- The end of a transaction whose work failed. -/
def giveUp (work : Error) : TransactionAction κ α := do
  match ← Attempt.outcome (abort : TransactionAction κ Unit) with
  | .ok () => throw work
  | .error a => throw (.abort a work)

/-- If the abort is done, the failure of the work is the failure of the whole. -/
theorem giveUp_of_ok {t t' : Transaction κ} (habort : abort.on t = (.ok (), t')) (work : Error) :
    (giveUp work : TransactionAction κ α).on t = (.error work, t') := by
  rw [giveUp, Attempt.on_bind, Attempt.on_outcome, habort]
  rfl

/-- If the abort fails too, one failure has the wording of both. -/
theorem giveUp_of_error {t t' : Transaction κ} {a : Error} (habort : abort.on t = (.error a, t'))
    (work : Error) : (giveUp work : TransactionAction κ α).on t = (.error (.abort a work), t') := by
  rw [giveUp, Attempt.on_bind, Attempt.on_outcome, habort]
  rfl

/-- When work is given up, the failure tells of what was refused on the way out. -/
theorem reports_giveUp (work : Error) :
    (giveUp work : TransactionAction (Noted κ) α).Reports refusals Error.Tells := by
  intro t
  obtain ⟨added, hadded, htold⟩ := reports_abort t
  rcases habort : abort.on t with ⟨a | x, t'⟩
  · rw [habort] at hadded htold
    rw [giveUp_of_error habort]
    exact ⟨added, hadded, fun r hr => (htold r hr).abort work⟩
  · rw [habort] at hadded htold
    obtain rfl : added = [] := htold
    rw [giveUp_of_ok habort]
    exact ⟨[], hadded, by simp [Reported]⟩

/-- Work inside a transaction, none of the calls of the work written down. -/
theorem reports_execute (work : GraphAction κ α) :
    (execute (Noted.unnoted work)).Reports refusals Error.Tells := by
  apply reports_begin.bind
  intro _
  apply (Attempt.reports_of_same fun _ => rfl).bind
  intro outcome
  cases outcome with
  -- The work was done, and a commit that is refused is told of by its own step.
  | ok value => exact reports_commit.bind fun _ => Attempt.reports_of_same fun _ => rfl
  | error w => exact reports_giveUp w

/-! ### Without the notes -/

open Attempt (LooksLike)

omit [Connection κ] in
/-- The same transaction on the connection that does the work. -/
def bare (t : Transaction (Noted κ)) : Transaction κ :=
  ⟨t.handle.seen Noted.inner, t.supported⟩

omit [Connection κ] in
theorem looksLike_onHandle {a : GraphAction (Noted κ) α} {b : GraphAction κ α}
    (hab : a.LooksLike (Handle.seen Noted.inner) b) : (onHandle a).LooksLike bare (onHandle b) :=
  hab.zoom (fun _ => rfl) fun _ _ => rfl

omit [Connection κ] in
theorem looksLike_onConnection {a : Attempt Error (Noted κ) α} {b : Attempt Error κ α}
    (hab : a.LooksLike Noted.inner b) : (onConnection a).LooksLike bare (onConnection b) :=
  looksLike_onHandle (Handle.looksLike_onConnection hab)

theorem looksLike_supportsTransactions :
    (supportsTransactions : TransactionAction (Noted κ) Bool).LooksLike bare
      supportsTransactions := by
  apply Attempt.looksLike_get_bind
  rintro ⟨handle, supported⟩
  cases supported with
  | some b => exact Attempt.looksLike_pure b
  | none =>
    apply (looksLike_onConnection ((Noted.note_looksLike _).mapError _)).bind
    intro b
    have hremember : (modify fun t => { t with supported := some b } :
        TransactionAction (Noted κ) Unit).LooksLike bare
        (modify fun t => { t with supported := some b }) :=
      Attempt.looksLike_modify fun _ => rfl
    exact hremember.bind fun _ => Attempt.looksLike_pure b

theorem looksLike_require (step : String) :
    (require step : TransactionAction (Noted κ) Unit).LooksLike bare (require step) := by
  apply looksLike_supportsTransactions.bind
  intro b
  cases b with
  | true => exact Attempt.looksLike_pure ()
  | false => exact Attempt.looksLike_throw _

/-- A guarded step does the same whether its calls are written down or not. -/
theorem looksLike_guarded (phase : Phase) {calls : Attempt CallError (Noted κ) Unit}
    {calls' : Attempt CallError κ Unit} (hcalls : calls.LooksLike Noted.inner calls') :
    (guarded phase calls).LooksLike bare (guarded phase calls') := by
  apply (looksLike_onConnection hcalls.outcome).bind
  intro r
  cases r with
  | ok x => exact Attempt.looksLike_pure ()
  | error cause =>
    apply (looksLike_onConnection (Noted.note_looksLike _).outcome).bind
    intro r
    cases r with
    | ok x => exact Attempt.looksLike_throw _
    | error refused => exact Attempt.looksLike_throw _

theorem looksLike_switchOff :
    (switchOff : Attempt CallError (Noted κ) Unit).LooksLike Noted.inner switchOff := by
  apply (Noted.note_looksLike _).bind
  intro auto
  cases auto with
  | true => exact Noted.note_looksLike _
  | false => exact Attempt.looksLike_pure ()

theorem looksLike_begin :
    (begin : TransactionAction (Noted κ) Unit).LooksLike bare begin := by
  apply (looksLike_require _).bind
  intro _
  apply looksLike_guarded
  apply (Noted.note_looksLike _).bind
  intro level
  by_cases hlevel : level ≠ .readCommitted
  · rw [if_pos hlevel, if_pos hlevel]
    exact (Noted.note_looksLike _).bind fun _ => looksLike_switchOff
  · rw [if_neg hlevel, if_neg hlevel]
    exact looksLike_switchOff

theorem looksLike_commit :
    (commit : TransactionAction (Noted κ) Unit).LooksLike bare commit := by
  apply (looksLike_require _).bind
  intro _
  apply looksLike_guarded
  exact (Noted.note_looksLike _).bind fun _ => Noted.note_looksLike _

theorem looksLike_abort :
    (abort : TransactionAction (Noted κ) Unit).LooksLike bare abort := by
  apply (looksLike_require _).bind
  intro _
  apply (looksLike_onConnection ((Noted.note_looksLike _).mapError _)).bind
  intro _
  apply looksLike_guarded
  exact (Noted.note_looksLike _).bind fun _ => Noted.note_looksLike _

/-- Work inside a transaction does the same with the notes and without them. -/
theorem looksLike_execute (work : GraphAction κ α) :
    (execute (Noted.unnoted work)).LooksLike bare (execute work) := by
  apply looksLike_begin.bind
  intro _
  apply (looksLike_onHandle (Noted.unnoted_looksLike work).outcome).bind
  intro outcome
  cases outcome with
  | ok value => exact looksLike_commit.bind fun _ => Attempt.looksLike_pure value
  | error w =>
    apply looksLike_abort.outcome.bind
    intro r
    cases r with
    | ok x => exact Attempt.looksLike_throw _
    | error a => exact Attempt.looksLike_throw _

/-! ### What a failure says -/

omit [Connection κ] in
/-- The same transaction with nothing written down yet. -/
def noted (t : Transaction κ) : Transaction (Noted κ) :=
  ⟨⟨⟨t.handle.connection, []⟩, t.handle.graphName, t.handle.isClosed, t.handle.options,
    t.handle.resources, t.handle.listeners⟩, t.supported⟩

/-- The step tells of all refusals it meets: with its refusals written down it is the same step
still, it succeeds only if there is none, and its failure has the wording of each in its own. -/
structure ReportsAll (t : Transaction κ) (step : TransactionAction κ α)
    (notedStep : TransactionAction (Noted κ) α) : Prop where
  same : step.on t = ((notedStep.on t.noted).1, (notedStep.on t.noted).2.bare)
  told : Reported Error.Tells (notedStep.on t.noted).2.refusals (notedStep.on t.noted).1

omit [Connection κ] in
/-- A step that is the same without the notes and tells of what it adds to them tells of all
refusals, since nothing was written down before it. -/
theorem reportsAll_of {step : TransactionAction κ α} {notedStep : TransactionAction (Noted κ) α}
    (hsame : notedStep.LooksLike bare step) (hreports : notedStep.Reports refusals Error.Tells)
    (t : Transaction κ) : t.ReportsAll step notedStep := by
  obtain ⟨added, hadded, htold⟩ := hreports t.noted
  have hall : (notedStep.on t.noted).2.refusals = added := hadded
  exact ⟨hsame t.noted, hall ▸ htold⟩

/-- When work failed inside a transaction, its failure is the one reported if the abort is done,
and its wording is kept if the abort fails as well. -/
def KeepsReason (t : Transaction κ) (work : GraphAction κ α) : Prop :=
  ∀ t₁ h w, begin.on t = (.ok (), t₁) → work.on t₁.handle = (.error w, h) →
    match abort.on ⟨h, t₁.supported⟩ with
    | (.ok (), t₂) => (execute work).on t = (.error w, t₂)
    | (.error a, t₂) => ∃ e : Error, (execute work).on t = (.error e, t₂) ∧
        e.Mentions w.message ∧ e.Mentions a.message

/-- The failure of the work is reported on its own, or by the failure of the abort that
followed. -/
theorem keepsReason (t : Transaction κ) (work : GraphAction κ α) : t.KeepsReason work := by
  intro t₁ h w hbegin hwork
  have hexecute : (execute work).on t =
      (giveUp w : TransactionAction κ α).on ⟨h, t₁.supported⟩ := by
    rw [execute, Attempt.on_bind, hbegin]
    dsimp only
    rw [Attempt.on_bind, onHandle, Attempt.on_zoom, Attempt.on_outcome, hwork]
    rfl
  rw [hexecute]
  rcases habort : abort.on (⟨h, t₁.supported⟩ : Transaction κ) with ⟨a | x, t₂⟩
  · exact ⟨_, giveUp_of_error habort w, Error.mentions_abort_work a w, Error.mentions_abort a w⟩
  · exact giveUp_of_ok habort w

/-- No failure of a transaction is lost: each step tells of all refusals it meets, and the
failure of the work inside a transaction is kept. -/
theorem reports_all_failures (t : Transaction κ) (work : GraphAction κ α) :
    t.ReportsAll begin begin ∧ t.ReportsAll commit commit ∧ t.ReportsAll abort abort ∧
      t.ReportsAll (execute work) (execute (Noted.unnoted work)) ∧ t.KeepsReason work :=
  ⟨reportsAll_of looksLike_begin reports_begin t, reportsAll_of looksLike_commit reports_commit t,
    reportsAll_of looksLike_abort reports_abort t,
    reportsAll_of (looksLike_execute work) (reports_execute work) t, keepsReason t work⟩

example :
    let t : Transaction LocalConnection :=
      ⟨{ connection := { faults := { commit := true, rollback := true } } }, none⟩
    (commit.on t.noted).2.refusals =
        [.transaction "commit refused by store", .transaction "rollback refused by store"] ∧
      (commit.on t).1.mapError Error.message =
        .error ("Transaction rollback failed: Transaction error: rollback refused by store " ++
          "(after commit failed: Transaction error: commit refused by store)") := by
  decide +kernel

end Transaction

end QuadClient
