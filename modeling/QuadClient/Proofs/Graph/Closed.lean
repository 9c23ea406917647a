import QuadClient.Graph.Update
import QuadClient.Proofs.Graph.TransactionSteps
import QuadClient.Proofs.Graph.Run

/-!
# Closed handles

A closed handle asks its connection for nothing any more. Whatever is called on it, one call
after the other, fails and leaves the handle, its connection and its listeners as they are. The
failure says that the handle is closed, unless the call has a reason to fail of its own that it
finds before it asks for the connection: a term in the wrong place, the address of a document
with a quote in it, or transactions that the store is known not to offer.
-/

namespace QuadClient

/-! ### Reasons of their own -/

/-- Why a triple cannot be sent, if it cannot. -/
def Triple.misplaced? (t : Triple) : Option Error :=
  match t.encode with
  | .error m => some (.misplaced m)
  | .ok _ => none

/-- Why a pattern cannot be deleted, if it cannot: a pattern without open slots is sent as a
triple. -/
def Pattern.misplaced? (p : Pattern) : Option Error :=
  if p.isAny then none else p.triple?.bind Triple.misplaced?

/-- Why a document cannot be loaded, if the reason is in its address. -/
def badSource? (url : String) : Option Error :=
  if '"' ∈ url.toList then some (.mutation .add (.badSource url)) else none

/-- Why a step of a transaction cannot be taken, if the store is known not to offer it. -/
def unoffered? (step : String) (known : Option Bool) : Option Error :=
  if known = some false then some (.unsupported step) else none

/-- The reason to fail that an operation finds before it asks for the connection. -/
def Operation.ownReason : Operation → Option Error
  | write _ t => t.misplaced?
  | remove p => p.misplaced?
  | _ => none

namespace Handle

/-! ### Calls -/

/-- What can be called on a handle, or on the control of its transactions. -/
inductive Call (κ : Type) where
  /-- an operation of the graph -/
  | operation (o : Operation)
  /-- removes every triple that matches, without telling anyone -/
  | erase (p : Pattern)
  /-- has the store fetch a document -/
  | load (url : String)
  /-- opens the triples that match, and uses them -/
  | findWith {α : Type} (p : Pattern)
      (use : Matches (LiveRows κ) → Except Error α × Matches (LiveRows κ))
  /-- opens the solutions of a query, and uses them -/
  | selectWith {α : Type} (query : String) (lookup : String → Option Term)
      (use : Cursor (LiveRows κ) → Except Error α × Cursor (LiveRows κ))
  /-- asks a query for a truth value -/
  | ask (query : String) (lookup : String → Option Term)
  /-- asks a query for triples -/
  | construct (query : String) (lookup : String → Option Term)
  /-- runs an update request -/
  | update (u : UpdateSequence)
  /-- does some work as a batched write does -/
  | during {α : Type} (kind : WriteKind) (work : GraphAction κ α)
  /-- begins a transaction -/
  | begin
  /-- commits it -/
  | commit
  /-- aborts it -/
  | abort
  /-- does some work inside a transaction -/
  | execute {α : Type} (work : GraphAction κ α)
  /-- closes the handle -/
  | close

namespace Call

variable {κ : Type} [Connection κ]

/-- The call, its value forgotten. -/
def act : Call κ → TransactionAction κ Unit
  | operation o => Transaction.onHandle do let _ ← o.act
  | erase p => Transaction.onHandle (eraseMatching p)
  | load url => Transaction.onHandle (Handle.load url)
  | findWith p use => Transaction.onHandle do let _ ← Handle.findWith p use
  | selectWith query lookup use =>
    Transaction.onHandle do let _ ← Handle.selectWith query lookup use
  | ask query lookup => Transaction.onHandle do let _ ← Handle.ask query lookup
  | construct query lookup => Transaction.onHandle do let _ ← Handle.construct query lookup
  | update u => Transaction.onHandle u.run
  | during kind work => Transaction.onHandle do let _ ← duringWrite kind work
  | begin => Transaction.begin
  | commit => Transaction.commit
  | abort => Transaction.abort
  | execute work => do let _ ← Transaction.execute work
  | close => modify fun t => { t with handle := t.handle.close }

/-- Makes one call after the other, whatever becomes of each. With each call comes what the
control of transactions that it goes through knows of the store; a new control knows nothing. -/
def run : List (Option Bool × Call κ) → Handle κ → List (Except Error Unit) × Handle κ
  | [], h => ([], h)
  | (known, call) :: calls, h =>
    let (r, t) := call.act.on ⟨h, known⟩
    let (rs, h) := run calls t.handle
    (r :: rs, h)

omit [Connection κ] in
/-- The reason to fail that a call finds before it asks for the connection. The control of the
transactions may know whether the store offers any. -/
def ownReason (known : Option Bool) : Call κ → Option Error
  | operation o => o.ownReason
  | erase p => p.misplaced?
  | load url => badSource? url
  | begin | execute _ => unoffered? "begin transaction" known
  | commit => unoffered? "commit transaction" known
  | abort => unoffered? "abort transaction" known
  | _ => none

omit [Connection κ] in
/-- The reply of a closed handle. -/
def refusal (known : Option Bool) : Call κ → Except Error Unit
  | close => .ok ()
  | call => .error ((call.ownReason known).getD .closed)

end Call

/-! ### Operations of the graph -/

section Operations

variable {κ α : Type} [Connection κ] {h : Handle κ} (hclosed : h.isClosed = true)

include hclosed

theorem close_of_closed : h.close = h :=
  if_pos hclosed

/-- A statement is refused before it is sent. -/
theorem sendWith_of_closed (kind : WriteKind) (text : String) (params : List Param) :
    (sendWith kind text params).on h = (.error .closed, h) := by
  rw [sendWith, Attempt.on_bind, Attempt.on_get]
  exact onConnection_of_closed hclosed _

/-- A triple that cannot be encoded fails for that reason, since it is encoded before the
connection is asked for. -/
theorem sendOne_of_closed (kind : WriteKind) (t : Triple) :
    (sendOne kind t).on h = (.error (t.misplaced?.getD .closed), h) := by
  unfold sendOne Triple.misplaced?
  cases t.encode with
  | error m => rfl
  | ok e =>
    rw [Attempt.on_bind, Attempt.on_get]
    exact sendWith_of_closed hclosed kind kind.template (e.params h.graphName)

/-- A deletion that is sent as one triple finds its own reason first; the others need the
connection at once. -/
theorem eraseMatching_of_closed (p : Pattern) :
    (eraseMatching p).on h = (.error (p.misplaced?.getD .closed), h) := by
  rw [eraseMatching, Pattern.misplaced?, Attempt.on_bind, Attempt.on_get]
  dsimp only
  -- A pattern that asks for nothing clears the graph, and has no term that could be misplaced.
  by_cases hany : p.isAny = true
  · rw [if_pos hany, if_pos hany]
    exact sendWith_of_closed hclosed .delete Template.clear [.text h.graphName]
  · rw [if_neg hany, if_neg hany]
    cases p.triple? with
    | none => exact onConnection_of_closed hclosed _
    | some t => exact sendOne_of_closed hclosed .delete t

theorem wipe_of_closed : wipe.on h = (.error .closed, h) := by
  rw [wipe, Attempt.on_bind, Attempt.on_get]
  exact sendWith_of_closed hclosed .delete Template.clear [.text h.graphName]

/-- The address of a document is read before the connection is asked for. -/
theorem load_of_closed (url : String) :
    (load url).on h = (.error ((badSource? url).getD .closed), h) := by
  unfold load badSource?
  by_cases hquote : '"' ∈ url.toList
  · simp [hquote]
  · simp [hquote, Attempt.on_bind, onConnection_of_closed hclosed]

/-- A batched write fails when it enters, before it looks at a triple. -/
theorem writeMany_of_closed (kind : WriteKind) (ts : List Triple) (notify : Bool) :
    (writeMany kind ts notify).on h = (.error .closed, h) := by
  have henter : (enterWrite kind).on h = (.error .closed, h) := onConnection_of_closed hclosed _
  unfold writeMany writeAll
  rw [Attempt.on_of, henter]

theorem duringWrite_of_closed (kind : WriteKind) (work : GraphAction κ α) :
    (duringWrite kind work).on h = (.error .closed, h) := by
  have henter : (enterWrite kind).on h = (.error .closed, h) := onConnection_of_closed hclosed _
  rw [duringWrite, Attempt.on_bind, henter]

omit [Connection κ] in
theorem withRows_of_closed (opening : Attempt CallError κ Rows)
    (use : LiveRows κ → Except Error α × LiveRows κ) :
    (withRows opening use).on h = (.error .closed, h) :=
  onConnection_of_closed hclosed _

/-- No cursor is opened, so the use that was planned for it does not take place. -/
theorem withCursor_of_closed (text : String)
    (use : Cursor (LiveRows κ) → Except Error α × Cursor (LiveRows κ)) :
    (withCursor text use).on h = (.error .closed, h) := by
  rw [withCursor, Attempt.on_bind, Attempt.on_get]
  exact withRows_of_closed hclosed _ _

theorem findWith_of_closed (p : Pattern)
    (use : Matches (LiveRows κ) → Except Error α × Matches (LiveRows κ)) :
    (findWith p use).on h = (.error .closed, h) := by
  rw [findWith, Attempt.on_bind, Attempt.on_get]
  exact withCursor_of_closed hclosed _ _

theorem contains_of_closed (p : Pattern) : (contains p).on h = (.error .closed, h) := by
  rw [contains, Attempt.on_bind, Attempt.on_get]
  dsimp only
  rw [Attempt.on_bind, withRows_of_closed hclosed]

theorem size_of_closed : size.on h = (.error .closed, h) := by
  rw [size, Attempt.on_bind, Attempt.on_get]
  dsimp only
  rw [Attempt.on_bind, withRows_of_closed hclosed]

theorem queryRows_of_closed (query : String) (lookup : String → Option Term) :
    (queryRows query lookup).on h = (.error .closed, h) := by
  rw [queryRows, Attempt.on_bind, Attempt.on_get]
  exact withRows_of_closed hclosed _ _

theorem ask_of_closed (query : String) (lookup : String → Option Term) :
    (ask query lookup).on h = (.error .closed, h) := by
  rw [ask, Attempt.on_bind, queryRows_of_closed hclosed]

theorem construct_of_closed (query : String) (lookup : String → Option Term) :
    (construct query lookup).on h = (.error .closed, h) := by
  rw [construct, Attempt.on_bind, queryRows_of_closed hclosed]

theorem selectWith_of_closed (query : String) (lookup : String → Option Term)
    (use : Cursor (LiveRows κ) → Except Error α × Cursor (LiveRows κ)) :
    (selectWith query lookup use).on h = (.error .closed, h) := by
  rw [selectWith, Attempt.on_bind, Attempt.on_get]
  exact withCursor_of_closed hclosed _ _

/-- An update request asks for the connection before its first statement. -/
theorem run_update_of_closed (u : UpdateSequence) : u.run.on h = (.error .closed, h) := by
  rw [UpdateSequence.run, Attempt.on_bind, Attempt.on_get]
  exact onConnection_of_closed hclosed _

end Operations

end Handle

/-- An operation on a closed handle fails and changes nothing. -/
theorem Operation.act_of_closed {κ : Type} [Connection κ] {h : Handle κ}
    (hclosed : h.isClosed = true) (o : Operation) :
    (o.act : GraphAction κ Answer).on h = (.error (o.ownReason.getD .closed), h) := by
  -- The work comes first in each operation, so its failure ends the operation.
  cases o with
  | write kind t =>
    have hsend := Handle.sendOne_of_closed hclosed kind t
    cases kind with
    | add => simp only [act, Handle.add, Attempt.on_bind, hsend, ownReason]
    | delete => simp only [act, Handle.delete, Attempt.on_bind, hsend, ownReason]
  | writeMany kind ts notify =>
    have hwrite := Handle.writeMany_of_closed hclosed kind ts notify
    simp only [act, Attempt.on_bind, hwrite, ownReason, Option.getD_none]
  | remove p =>
    have herase := Handle.eraseMatching_of_closed hclosed p
    simp only [act, Handle.remove, Attempt.on_bind, herase, ownReason]
  | wipe =>
    have hwipe := Handle.wipe_of_closed hclosed
    simp only [act, Attempt.on_bind, hwipe, ownReason, Option.getD_none]
  | clear =>
    have hwipe := Handle.wipe_of_closed hclosed
    simp only [act, Handle.clear, Attempt.on_bind, hwipe, ownReason, Option.getD_none]
  | find p =>
    have hfind := Handle.findWith_of_closed hclosed p Matches.drain
    simp only [act, Handle.find, Attempt.on_bind, hfind, ownReason, Option.getD_none]
  | contains p =>
    have hcontains := Handle.contains_of_closed hclosed p
    simp only [act, Attempt.on_bind, hcontains, ownReason, Option.getD_none]
  | size =>
    have hsize := Handle.size_of_closed hclosed
    simp only [act, Attempt.on_bind, hsize, ownReason, Option.getD_none]

/-! ### Steps of a transaction -/

namespace Transaction

variable {κ α : Type} [Connection κ] {t : Transaction κ} (hclosed : t.handle.isClosed = true)

include hclosed

/-- What follows the question whether the store offers transactions is refused. -/
theorem require_bind_of_closed (step : String) {f : Unit → TransactionAction κ α}
    (hf : (f ()).on t = (.error .closed, t)) :
    (require step >>= f).on t = (.error ((unoffered? step t.supported).getD .closed), t) := by
  unfold require supportsTransactions unoffered?
  cases hknown : t.supported with
  -- Nobody knows whether the store offers transactions, and to ask it takes the connection.
  | none => simp [Attempt.on_bind, hknown, onConnection_of_closed hclosed]
  | some offered =>
    cases offered with
    -- The store is known to offer none, and that is said without asking it.
    | false => simp [Attempt.on_bind, hknown]
    | true => simp [Attempt.on_bind, hknown, hf]

/-- The calls of a step are not made. -/
theorem guarded_of_closed (phase : Phase) (calls : Attempt CallError κ Unit) :
    (guarded phase calls).on t = (.error .closed, t) := by
  rw [guarded, Attempt.on_bind, onConnection_of_closed hclosed]

theorem begin_of_closed :
    begin.on t = (.error ((unoffered? "begin transaction" t.supported).getD .closed), t) :=
  require_bind_of_closed hclosed _ (guarded_of_closed hclosed _ _)

theorem commit_of_closed :
    commit.on t = (.error ((unoffered? "commit transaction" t.supported).getD .closed), t) :=
  require_bind_of_closed hclosed _ (guarded_of_closed hclosed _ _)

theorem abort_of_closed :
    abort.on t = (.error ((unoffered? "abort transaction" t.supported).getD .closed), t) := by
  apply require_bind_of_closed hclosed
  rw [Attempt.on_bind, onConnection_of_closed hclosed]

/-- Work that was to run in a transaction fails as its beginning does, and is not started. -/
theorem execute_of_closed (work : GraphAction κ α) :
    (execute work).on t =
      (.error ((unoffered? "begin transaction" t.supported).getD .closed), t) := by
  rw [execute, Attempt.on_bind, begin_of_closed hclosed]

end Transaction

/-! ### Runs of calls -/

namespace Handle.Call

section Steps

variable {κ : Type} [Connection κ] {t : Transaction κ} (hclosed : t.handle.isClosed = true)

omit [Connection κ] in
theorem onHandle_of_error {α : Type} {a : GraphAction κ α} {e : Error}
    (h : a.on t.handle = (.error e, t.handle)) :
    (Transaction.onHandle a).on t = (.error e, t) := by
  rw [Transaction.onHandle, Attempt.on_zoom, h]

omit [Connection κ] in
/-- A failure comes before the value that would be forgotten. -/
theorem forget_of_error {α : Type} {a : GraphAction κ α} {e : Error}
    (h : a.on t.handle = (.error e, t.handle)) :
    (Transaction.onHandle do let _ ← a).on t = (.error e, t) := by
  apply onHandle_of_error
  rw [Attempt.on_bind, h]

include hclosed

/-- A call on a closed handle is refused, and nothing changes. -/
theorem act_of_closed (call : Call κ) :
    call.act.on t = (call.refusal t.supported, t) := by
  cases call with
  | operation o => exact forget_of_error (Operation.act_of_closed hclosed o)
  | erase p => exact onHandle_of_error (eraseMatching_of_closed hclosed p)
  | load url => exact onHandle_of_error (load_of_closed hclosed url)
  | findWith p use => exact forget_of_error (findWith_of_closed hclosed p use)
  | selectWith query lookup use =>
    exact forget_of_error (selectWith_of_closed hclosed query lookup use)
  | ask query lookup => exact forget_of_error (ask_of_closed hclosed query lookup)
  | construct query lookup => exact forget_of_error (construct_of_closed hclosed query lookup)
  | update u => exact onHandle_of_error (run_update_of_closed hclosed u)
  | during kind work => exact forget_of_error (duringWrite_of_closed hclosed kind work)
  | begin => exact Transaction.begin_of_closed hclosed
  | commit => exact Transaction.commit_of_closed hclosed
  | abort => exact Transaction.abort_of_closed hclosed
  | execute work =>
    rw [act, Attempt.on_bind, Transaction.execute_of_closed hclosed]
    rfl
  | close =>
    have hsame : t.handle.close = t.handle := close_of_closed hclosed
    rw [act, Attempt.on_modify, hsame]
    rfl

end Steps

/-- Calls on a closed handle are refused one by one, and nothing changes. -/
theorem run_of_closed {κ : Type} [Connection κ] {h : Handle κ} (hclosed : h.isClosed = true)
    (calls : List (Option Bool × Call κ)) :
    run calls h = (calls.map fun c => c.2.refusal c.1, h) := by
  induction calls with
  | nil => rfl
  | cons c calls ih =>
    obtain ⟨known, call⟩ := c
    have hcall : call.act.on (⟨h, known⟩ : Transaction κ) = (call.refusal known, ⟨h, known⟩) :=
      act_of_closed hclosed call
    rw [run, hcall]
    dsimp only
    rw [ih]
    rfl

end Handle.Call

/-! ### After a close -/

namespace Handle

theorem isClosed_close {κ : Type} [Connection κ] (h : Handle κ) : h.close.isClosed = true := by
  unfold close
  split
  · next hclosed => exact hclosed
  · rfl

theorem listeners_close {κ : Type} [Connection κ] (h : Handle κ) :
    h.close.listeners = h.listeners := by
  unfold close
  split <;> rfl

/-- A close publishes nothing, and the work that was open is gone. -/
theorem connection_close (h : Handle LocalConnection) :
    h.close.connection =
      if h.isClosed then h.connection
      else { h.connection with working := none, isClosed := true } := by
  unfold close
  split <;> rfl

/-- What remains of a handle that was closed, when these calls are made on it. -/
structure Final (h : Handle LocalConnection)
    (calls : List (Option Bool × Call LocalConnection)) : Prop where
  /-- each call is refused -/
  replies : (Call.run calls h.close).1 = calls.map fun c => c.2.refusal c.1
  /-- the handle, its connection and its listeners are as the close left them -/
  unchanged : (Call.run calls h.close).2 = h.close
  /-- the close told no listener anything -/
  silent : h.close.listeners = h.listeners
  /-- what is published is what was published before the close -/
  committed : h.close.connection.committed = h.connection.committed
  /-- an open handle leaves a connection that is closed and has no work open; its log and its
  counters are as they were -/
  connection : h.isClosed = true ∨
    h.close.connection = { h.connection with working := none, isClosed := true }

/-- A closed handle refuses whatever is called on it and changes nothing. -/
theorem final_of_close (h : Handle LocalConnection)
    (calls : List (Option Bool × Call LocalConnection)) : h.Final calls := by
  have hrun := Call.run_of_closed h.isClosed_close calls
  have hconnection := h.connection_close
  constructor
  · rw [hrun]
  · rw [hrun]
  · exact h.listeners_close
  · rw [hconnection]
    split <;> rfl
  · by_cases hclosed : h.isClosed = true
    · exact .inl hclosed
    · exact .inr (hconnection.trans (if_neg hclosed))

/-- Calls that find a reason of their own do not say that the handle is closed. -/
theorem not_refusal_closed :
    let h : Handle LocalConnection := { connection := {}, graphName := "urn:g" }
    let t : Triple := ⟨.literal (.plain "x"), .iri ⟨"urn:p", rfl⟩, .iri ⟨"urn:o", rfl⟩⟩
    let calls : List (Option Bool × Call LocalConnection) :=
      [(none, .operation (.write .add t)), (none, .load "\""),
        (none, .operation (.remove (.ofTriple t)))]
    h.close.isClosed = true ∧
      ∀ r ∈ (Call.run calls h.close).1, ∃ e, r = .error e ∧ e ≠ .closed := by
  intro h t calls
  have hclosed : h.close.isClosed = true := h.isClosed_close
  obtain ⟨m, hm⟩ : ∃ m, t.misplaced? = some (.misplaced m) := ⟨_, rfl⟩
  have hload : badSource? "\"" = some (.mutation .add (.badSource "\"")) := by decide
  -- A triple as a pattern has no open slot, so it is sent as a triple and fails as one.
  have hremove : (Pattern.ofTriple t).misplaced? = t.misplaced? := by
    rw [Pattern.misplaced?, Pattern.triple?_ofTriple]
    rfl
  have hreplies : (Call.run calls h.close).1 =
      [.error (.misplaced m), .error (.mutation .add (.badSource "\"")),
        .error (.misplaced m)] := by
    rw [Call.run_of_closed hclosed]
    simp [calls, Call.refusal, Call.ownReason, Operation.ownReason, hm, hload, hremove]
  rw [hreplies]
  exact ⟨hclosed, by simp⟩

end Handle

end QuadClient
