import QuadClient.Proofs.Cursor.View

/-!
# An account of a cursor's life

A reader calls a cursor as it likes and drops it in the end. What it is told does not depend on
how the cursor looks ahead: the replies are those of a reader who has the rows of the stream in
front of it. And the stream, which writes down the calls on it, is not called any more once the
reading has ended, and is released once.
-/

namespace QuadClient

/-! ### Streams -/

namespace RowSource

variable {σ : Type} [RowSource σ]

/-- The rows that a stream hands out when it is asked again and again, and the failure behind
them; none if the stream just ends. -/
def course (s : σ) : List (List Cell) × Option CallError :=
  match _h : fetchRow.on s with
  | (.error e, _) => ([], some e)
  | (.ok none, _) => ([], none)
  | (.ok (some row), t) =>
    let (rows, fault) := course t
    (row :: rows, fault)
termination_by left s
decreasing_by exact left_lt _ _ _ _h

theorem course_of_error {s t : σ} {e : CallError} (h : fetchRow.on s = (.error e, t)) :
    course s = ([], some e) := by
  rw [course]
  split
  · next hs => rw [h] at hs; cases hs; rfl
  · next hs => rw [h] at hs; cases hs
  · next hs => rw [h] at hs; cases hs

/-- Behind its last row a stream without a failure has nothing left. -/
theorem course_of_end {s t : σ} (h : fetchRow.on s = (.ok none, t)) : course s = ([], none) := by
  rw [course]
  split
  · next hs => rw [h] at hs; cases hs
  · rfl
  · next hs => rw [h] at hs; cases hs

/-- A row that is handed out stands in front of what is left behind it. -/
theorem course_of_row {s t : σ} {row : List Cell} (h : fetchRow.on s = (.ok (some row), t)) :
    course s = (row :: (course t).1, (course t).2) := by
  rw [course]
  split
  · next hs => rw [h] at hs; cases hs
  · next hs => rw [h] at hs; cases hs
  · next hs => rw [h] at hs; cases hs; rfl

end RowSource

/-- A call on a stream. -/
inductive StreamCall where
  /-- a row was asked for, with the answer -/
  | fetched (answer : Except CallError (Option (List Cell)))
  /-- no more rows were asked for -/
  | cancelled
  /-- the stream was released -/
  | closed

/-- The call releases the stream. -/
def StreamCall.isClose : StreamCall → Bool
  | closed => true
  | _ => false

/-- A stream that writes down the calls on it. -/
structure Logged (σ : Type) where
  /-- the stream that does the work -/
  source : σ
  /-- the calls so far, the oldest first -/
  calls : List StreamCall := []

namespace Logged

variable {σ : Type}

/-- How often the stream was released. -/
def closes (l : Logged σ) : Nat :=
  l.calls.countP StreamCall.isClose

theorem closes_append (s : σ) (calls made : List StreamCall) :
    closes ⟨s, calls ++ made⟩ = closes ⟨s, calls⟩ + made.countP StreamCall.isClose :=
  List.countP_append

variable [RowSource σ]

instance : RowSource (Logged σ) where
  columns l := RowSource.columns l.source
  fetchRow := .of fun l =>
    let (r, s) := RowSource.fetchRow.on l.source
    (r, ⟨s, l.calls ++ [.fetched r]⟩)
  cancel := .of fun l =>
    let (r, s) := RowSource.cancel.on l.source
    (r, ⟨s, l.calls ++ [.cancelled]⟩)
  close := .of fun l =>
    let (r, s) := RowSource.close.on l.source
    (r, ⟨s, l.calls ++ [.closed]⟩)
  left l := RowSource.left l.source
  left_lt l m row h := by
    have hrow : (RowSource.fetchRow.on l.source).1 = .ok (some row) := congrArg Prod.fst h
    have hnext : m.source = (RowSource.fetchRow.on l.source).2 :=
      (congrArg (·.2.source) h).symm
    rw [hnext]
    exact RowSource.left_lt l.source _ row (Prod.ext hrow rfl)

/-- The stream that does the work is all that a reader sees. -/
theorem seenThrough_source : RowSource.SeenThrough (source : Logged σ → σ) :=
  ⟨fun _ => rfl, fun _ => rfl, fun _ => rfl, fun _ => rfl⟩

/-- A row is asked of the stream that does the work, and the answer written down. -/
theorem fetchRow_on {l : Logged σ} {r : Except CallError (Option (List Cell))} {t : σ}
    (h : RowSource.fetchRow.on l.source = (r, t)) :
    RowSource.fetchRow.on l = (r, ⟨t, l.calls ++ [.fetched r]⟩) := by
  show ((RowSource.fetchRow.on l.source).1, (⟨(RowSource.fetchRow.on l.source).2,
    l.calls ++ [.fetched (RowSource.fetchRow.on l.source).1]⟩ : Logged σ)) = _
  rw [h]

end Logged

/-! ### Calls on a cursor -/

namespace Cursor

/-- What a reader can do with a cursor before it drops it. -/
inductive Call where
  /-- asks whether there is a next solution -/
  | hasMore
  /-- asks for the next solution, none at the end -/
  | next
  /-- asks for the next solution, which there should be -/
  | advance
  /-- closes the cursor -/
  | close
  /-- asks the stream to stop and closes the cursor -/
  | abort
  deriving DecidableEq

/-- What a reader is told. -/
inductive Reply where
  /-- whether there is a next solution -/
  | more (r : Except Error Bool)
  /-- the next solution, none at the end -/
  | next (r : Except Error (Option Solution))
  /-- the next solution -/
  | advanced (r : Except Error Solution)
  /-- nothing -/
  | done

/-- The solution that was handed out. -/
def Reply.solution? : Reply → Option Solution
  | next (.ok s) => s
  | advanced (.ok s) => some s
  | _ => none

/-- The failure that was reported. -/
def Reply.error? : Reply → Option Error
  | more (.error e) | next (.error e) | advanced (.error e) => some e
  | _ => none

/-- The reading ends here: the end was observed, a failure was reported, or the cursor was
closed. -/
def Reply.ends : Reply → Bool
  | more (.ok b) => !b
  | next (.ok s) => s.isNone
  | advanced (.ok _) => false
  | _ => true

/-- The reply of a call that finds no row left: the failure behind the last one, if there is one. -/
def Call.atStop (fault : Option CallError) : Call → Reply
  | hasMore => .more (fault.elim (.ok false) fun e => .error (.ofQuery e))
  | next => .next (fault.elim (.ok none) fun e => .error (.ofQuery e))
  | advance => .advanced (.error (fault.elim .exhausted .ofQuery))
  | close | abort => .done

/-- The reply once the reading has ended. -/
def Call.afterwards : Call → Reply
  | hasMore => .more (.ok false)
  | next => .next (.ok none)
  | advance => .advanced (.error .exhausted)
  | close | abort => .done

/-- The call asks for what comes next. -/
def Call.reads : Call → Bool
  | hasMore | next | advance => true
  | close | abort => false

section Calls

variable {σ : Type} [RowSource σ]

/-- Makes a call. -/
def reply (call : Call) (c : Cursor σ) : Reply × Cursor σ :=
  match call with
  | .hasMore => (.more c.hasMore.1, c.hasMore.2)
  | .next => (.next c.next.1, c.next.2)
  | .advance => (.advanced c.advance.1, c.advance.2)
  | .close => (.done, c.close)
  | .abort => (.done, c.abort)

/-- Makes one call after the other. -/
def run : List Call → Cursor σ → List Reply × Cursor σ
  | [], c => ([], c)
  | call :: calls, c =>
    let (r, c) := c.reply call
    let (rs, c) := run calls c
    (r :: rs, c)

/-- Where the streams look the same, so do the replies. -/
theorem reply_through {τ : Type} [RowSource τ] {view : σ → τ} (hv : RowSource.SeenThrough view)
    (call : Call) (c : Cursor σ) :
    (c.through view).reply call = ((c.reply call).1, (c.reply call).2.through view) := by
  cases call with
  | hasMore => rw [reply, hasMore_through hv]; rfl
  | next => rw [reply, next_through hv]; rfl
  | advance => rw [reply, advance_through hv]; rfl
  | close => exact congrArg (Prod.mk Reply.done) (close_through hv c)
  | abort => exact congrArg (Prod.mk Reply.done) (abort_through hv c)

end Calls

/-! ### Without the log -/

section Bare

variable {σ : Type} [RowSource σ]

/-- The same cursor on the stream alone. -/
def bare (c : Cursor (Logged σ)) : Cursor σ :=
  ⟨c.source.source, c.held, c.columns, c.graph, c.lookahead, c.delivered⟩

/-- Writing the calls down changes nothing for the reader. -/
theorem reply_bare (call : Call) (c : Cursor (Logged σ)) :
    c.bare.reply call = ((c.reply call).1, (c.reply call).2.bare) :=
  reply_through Logged.seenThrough_source call c

theorem run_bare (calls : List Call) (c : Cursor (Logged σ)) :
    run calls c.bare = ((run calls c).1, (run calls c).2.bare) := by
  induction calls generalizing c with
  | nil => rfl
  | cons call calls ih =>
    rw [run, reply_bare]
    dsimp only
    rw [ih]
    rfl

end Bare

/-! ### A reader with the rows in front of it -/

/-- What is left to be read. -/
inductive Reading where
  /-- nothing: the reading has ended -/
  | ended
  /-- these rows, and the failure behind them if there is one -/
  | rows (rows : List (List Cell)) (fault : Option CallError)

namespace Reading

variable (solve : List Cell → Solution)

/-- What is told to a reader with the rows in front of it, and what is left then. -/
def reply (call : Call) : Reading → Reply × Reading
  | ended => (call.afterwards, ended)
  | rows [] fault => (call.atStop fault, ended)
  | rows (row :: rest) fault =>
    match call with
    | .hasMore => (.more (.ok true), rows (row :: rest) fault)
    | .next => (.next (.ok (some (solve row))), rows rest fault)
    | .advance => (.advanced (.ok (solve row)), rows rest fault)
    | .close | .abort => (.done, ended)

/-- Makes one call after the other. -/
def run : List Call → Reading → List Reply × Reading
  | [], r => ([], r)
  | call :: calls, r =>
    let (reply, r) := r.reply solve call
    let (replies, r) := run calls r
    (reply :: replies, r)

/-- The rows that are left. -/
def left : Reading → List (List Cell)
  | ended => []
  | rows rest _ => rest

/-- A reader with the rows in front of it has nothing left once a reply has ended the reading. -/
theorem reply_of_ends {call : Call} {r : Reading} (h : (r.reply solve call).1.ends = true) :
    (r.reply solve call).2 = ended := by
  obtain _ | ⟨_ | ⟨row, rest⟩, fault⟩ := r
  · rfl
  · rfl
  · cases call with
    -- A row is left, so no reply to a question ends the reading; only the two that close do.
    | hasMore => cases h
    | next => cases h
    | advance => cases h
    | close => rfl
    | abort => rfl

/-- A call hands out the first of the rows that are left, or nothing. -/
theorem reply_cases (call : Call) (r : Reading) :
    ((r.reply solve call).1.solution? = none ∧ (r.reply solve call).2.left <+: r.left) ∨
      ∃ row, (r.reply solve call).1.solution? = some (solve row) ∧
        r.left = row :: (r.reply solve call).2.left := by
  -- There is nothing to read, no row left, or a first row.
  obtain _ | ⟨_ | ⟨row, rest⟩, fault⟩ := r
  · cases call <;> exact Or.inl ⟨rfl, List.prefix_rfl⟩
  · cases fault <;> cases call <;> exact Or.inl ⟨rfl, List.prefix_rfl⟩
  · cases call with
    | hasMore => exact Or.inl ⟨rfl, List.prefix_rfl⟩
    | next => exact Or.inr ⟨row, rfl, rfl⟩
    | advance => exact Or.inr ⟨row, rfl, rfl⟩
    | close => exact Or.inl ⟨rfl, List.nil_prefix⟩
    | abort => exact Or.inl ⟨rfl, List.nil_prefix⟩

/-- The solutions handed out are those of a first part of the rows. -/
theorem handed_prefix (calls : List Call) (r : Reading) :
    (run solve calls r).1.filterMap Reply.solution? <+: r.left.map solve := by
  induction calls generalizing r with
  | nil => exact List.nil_prefix
  | cons call calls ih =>
    have hrest := ih (r.reply solve call).2
    show ((r.reply solve call).1 :: _).filterMap Reply.solution? <+: _
    -- The replies that follow hand out a part of what is left after this one.
    rcases reply_cases solve call r with ⟨hnone, hleft⟩ | ⟨row, hsome, hleft⟩
    · rw [List.filterMap_cons_none hnone]
      exact hrest.trans (hleft.map solve)
    · rw [List.filterMap_cons_some hsome, hleft, List.map_cons]
      exact (List.prefix_cons_inj _).2 hrest

end Reading

/-! ### One call -/

section Steps

variable {σ : Type} [RowSource σ] {solve : List Cell → Solution} {c : Cursor (Logged σ)}

/-- The cursor stands where a reader has this left to read. -/
inductive Stands (solve : List Cell → Solution) (c : Cursor (Logged σ)) : Reading → Prop
  /-- the stream is released -/
  | ended (hheld : c.held = false) (hahead : c.lookahead = none) (hcloses : c.source.closes = 1) :
      Stands solve c .ended
  /-- the stream is held and no solution waits -/
  | fresh {rest : List (List Cell)} {fault : Option CallError} (hheld : c.held = true)
      (hahead : c.lookahead = none) (hcloses : c.source.closes = 0)
      (hcourse : RowSource.course c.source.source = (rest, fault))
      (hsolve : ∀ row, Solution.ofRow c.columns row c.graph = solve row) :
      Stands solve c (.rows rest fault)
  /-- the stream is held and the solution of its last row waits -/
  | ahead {row : List Cell} {rest : List (List Cell)} {fault : Option CallError}
      (hheld : c.held = true) (hahead : c.lookahead = some (solve row))
      (hcloses : c.source.closes = 0)
      (hcourse : RowSource.course c.source.source = (rest, fault))
      (hsolve : ∀ row, Solution.ofRow c.columns row c.graph = solve row) :
      Stands solve c (.rows (row :: rest) fault)

/-- What a call makes of the stream: a failure that it meets is the one it reports, and only an
abort of a stream that is held asks the stream to stop. -/
structure Calls (call : Call) (c : Cursor (Logged σ)) (reply : Reply) (made : List StreamCall) :
    Prop where
  fault_iff : ∀ e, .fetched (.error e) ∈ made ↔ reply.error? = some (.ofQuery e)
  cancelled_iff : .cancelled ∈ made ↔ call = .abort ∧ c.held = true

/-- The effect of a call: the reply is the plain one, and so is what is left to read. -/
structure Acts (solve : List Cell → Solution) (call : Call) (c : Cursor (Logged σ)) (r : Reading)
    (out : Reply × Cursor (Logged σ)) : Prop where
  reply : out.1 = (r.reply solve call).1
  stands : out.2.Stands solve (r.reply solve call).2
  delivered : out.2.delivered = c.delivered + out.1.solution?.toList.length
  calls : ∃ made, out.2.source.calls = c.source.calls ++ made ∧ Calls call c out.1 made

/-- A call that reads reports the failure behind the last row, if there is one. -/
theorem Call.error?_atStop {call : Call} (hcall : call.reads = true) (fault : Option CallError)
    (e : CallError) : (call.atStop fault).error? = some (.ofQuery e) ↔ fault = some e := by
  cases fault <;> cases call <;>
    simp_all [Call.atStop, Call.reads, Reply.error?, Error.ofQuery]

theorem Call.error?_afterwards (call : Call) (e : CallError) :
    call.afterwards.error? ≠ some (.ofQuery e) := by
  cases call <;> simp [Call.afterwards, Reply.error?, Error.ofQuery]

/-- A cursor that is released and has nothing waiting answers from itself. -/
theorem reply_of_ended (hheld : c.held = false) (hahead : c.lookahead = none) (call : Call) :
    c.reply call = (call.afterwards, c) := by
  obtain ⟨source, held, columns, graph, lookahead, delivered⟩ := c
  obtain rfl : held = false := hheld
  obtain rfl : lookahead = none := hahead
  cases call <;> rfl

/-- Once the reading is over no call reaches the stream. -/
theorem acts_ended (hheld : c.held = false) (hahead : c.lookahead = none)
    (hcloses : c.source.closes = 1) (call : Call) :
    Acts solve call c .ended (c.reply call) := by
  rw [reply_of_ended hheld hahead]
  -- No call is made on the stream, so what was written down stays as it was.
  refine ⟨rfl, .ended hheld hahead hcloses, ?_, [], (List.append_nil _).symm, ?_, ?_⟩
  · cases call <;> rfl
  · intro e
    simp [Call.error?_afterwards]
  · simp [hheld]

/-- A stream that is held is released by closing the cursor, whatever waits. -/
theorem acts_close (hheld : c.held = true) (hcloses : c.source.closes = 0) {r : Reading}
    (hr : r.reply solve .close = (.done, .ended)) : Acts solve .close c r (c.reply .close) := by
  obtain ⟨source, held, columns, graph, lookahead, delivered⟩ := c
  obtain rfl : held = true := hheld
  have hclosed : (⟨(RowSource.close.on source.source).2, source.calls ++ [.closed]⟩ :
      Logged σ).closes = 1 := by
    rw [Logged.closes_append]
    exact congrArg (· + 1) hcloses
  refine ⟨by rw [hr]; rfl, ?_, rfl, [.closed], rfl, ?_, ?_⟩
  · rw [hr]
    -- What waits is forgotten with the rest, whether there was something or not.
    exact .ended rfl rfl hclosed
  · intro e
    simp [reply, Reply.error?]
  · simp

/-- A stream that is held is asked to stop, and then released, by an abort. -/
theorem acts_abort (hheld : c.held = true) (hcloses : c.source.closes = 0) {r : Reading}
    (hr : r.reply solve .abort = (.done, .ended)) : Acts solve .abort c r (c.reply .abort) := by
  obtain ⟨source, held, columns, graph, lookahead, delivered⟩ := c
  obtain rfl : held = true := hheld
  refine ⟨by rw [hr]; rfl, ?_, rfl, [.cancelled, .closed], ?_, ?_, ?_⟩
  · rw [hr]
    -- Of the two calls on the stream the second releases it, once.
    refine .ended rfl rfl ?_
    show Logged.closes ⟨_, (source.calls ++ [.cancelled]) ++ [.closed]⟩ = 1
    rw [List.append_assoc, Logged.closes_append]
    exact congrArg (· + 1) hcloses
  · exact List.append_assoc ..
  · intro e
    simp [reply, Reply.error?]
  · simp

/-- A solution that waits is handed out without a call on the stream. -/
theorem acts_waiting {row : List Cell} {rest : List (List Cell)} {fault : Option CallError}
    (hheld : c.held = true) (hahead : c.lookahead = some (solve row))
    (hcloses : c.source.closes = 0)
    (hcourse : RowSource.course c.source.source = (rest, fault))
    (hsolve : ∀ row, Solution.ofRow c.columns row c.graph = solve row) {call : Call}
    (hcall : call.reads = true) :
    Acts solve call c (.rows (row :: rest) fault) (c.reply call) := by
  obtain ⟨source, held, columns, graph, lookahead, delivered⟩ := c
  obtain rfl : lookahead = some (solve row) := hahead
  -- A waiting solution was fetched before: none of the three asks the stream again.
  have hnothing : source.calls = source.calls ++ [] := (List.append_nil _).symm
  cases call with
  | hasMore =>
    -- It still waits behind the question.
    refine ⟨rfl, .ahead hheld rfl hcloses hcourse hsolve, rfl, [], hnothing, ?_, ?_⟩
    · intro e
      simp [reply, hasMore, Reply.error?]
    · simp
  | next =>
    -- It is handed out, and the cursor stands before the next row with nothing waiting.
    refine ⟨rfl, .fresh hheld rfl hcloses hcourse hsolve, rfl, [], hnothing, ?_, ?_⟩
    · intro e
      simp [reply, next, hasMore, Reply.error?]
    · simp
  | advance =>
    refine ⟨rfl, .fresh hheld rfl hcloses hcourse hsolve, rfl, [], hnothing, ?_, ?_⟩
    · intro e
      simp [reply, advance, next, hasMore, Reply.error?]
    · simp
  -- Closing does not read.
  | close => cases hcall
  | abort => cases hcall

/-- The cursor once it fetched a row ahead. -/
def fetched (row : List Cell) (t : σ) (c : Cursor (Logged σ)) : Cursor (Logged σ) :=
  { c with
    source := ⟨t, c.source.calls ++ [.fetched (.ok (some row))]⟩
    lookahead := some (.ofRow c.columns row c.graph) }

/-- A call that reads acts as if the row had been fetched before it. -/
theorem reply_of_row {row : List Cell} {t : σ} (hheld : c.held = true)
    (hahead : c.lookahead = none)
    (hfetch : RowSource.fetchRow.on c.source.source = (.ok (some row), t)) {call : Call}
    (hcall : call.reads = true) : c.reply call = (c.fetched row t).reply call := by
  have hlogged := Logged.fetchRow_on hfetch
  cases call with
  | hasMore => simp [reply, hasMore, fetched, hahead, hheld, hlogged]
  | next => simp [reply, next, hasMore, fetched, hahead, hheld, hlogged]
  | advance => simp [reply, advance, next, hasMore, fetched, hahead, hheld, hlogged]
  | close => cases hcall
  | abort => cases hcall

/-- The cursor once it asked for a row in vain and released the stream. -/
def finished (answer : Except CallError (Option (List Cell))) (t : σ) (c : Cursor (Logged σ)) :
    Cursor (Logged σ) :=
  release { c with source := ⟨t, c.source.calls ++ [.fetched answer]⟩ }

/-- What a stream answers behind its last row. -/
def stop : Option CallError → Except CallError (Option (List Cell))
  | none => .ok none
  | some e => .error e

/-- A call that reads and finds no row left releases the stream, and tells why there is none. -/
theorem reply_of_stop {fault : Option CallError} {t : σ} (hheld : c.held = true)
    (hahead : c.lookahead = none)
    (hfetch : RowSource.fetchRow.on c.source.source = (stop fault, t)) {call : Call}
    (hcall : call.reads = true) :
    c.reply call = (call.atStop fault, c.finished (stop fault) t) := by
  have hlogged := Logged.fetchRow_on hfetch
  cases call with
  | hasMore =>
    -- with a failure behind the last row or none, which is what tells the replies apart
    cases fault <;>
      simp_all [reply, hasMore, finished, Call.atStop, stop]
  | next =>
    cases fault <;>
      simp_all [reply, next, hasMore, finished, Call.atStop, stop]
  | advance =>
    cases fault <;>
      simp_all [reply, advance, next, hasMore, finished, Call.atStop, stop]
  | close => cases hcall
  | abort => cases hcall

/-- A call that finds no row left releases the stream. -/
theorem acts_stop (fault : Option CallError) {t : σ} (hheld : c.held = true)
    (hahead : c.lookahead = none) (hcloses : c.source.closes = 0)
    (hfetch : RowSource.fetchRow.on c.source.source = (stop fault, t)) {call : Call}
    (hcall : call.reads = true) : Acts solve call c (.rows [] fault) (c.reply call) := by
  rw [reply_of_stop hheld hahead hfetch hcall]
  obtain ⟨source, held, columns, graph, lookahead, delivered⟩ := c
  obtain rfl : held = true := hheld
  obtain rfl : lookahead = none := hahead
  -- Two calls are made on the stream: the row asked for in vain, and the release behind it.
  refine ⟨rfl, .ended rfl rfl ?_, ?_, [.fetched (stop fault), .closed], ?_, ?_, ?_⟩
  · show Logged.closes ⟨_, (source.calls ++ [.fetched (stop fault)]) ++ [.closed]⟩ = 1
    rw [List.append_assoc, Logged.closes_append]
    exact congrArg (· + 1) hcloses
  · -- The reply hands out nothing, so the count of the solutions stays.
    cases fault <;> cases call <;> rfl
  · exact List.append_assoc ..
  · intro e
    -- The failure that was met is the one that is reported, or there is none.
    rw [Call.error?_atStop hcall]
    cases fault <;> simp [stop, eq_comm]
  · cases call <;> simp_all [Call.reads]

/-- A call that finds a row left acts as if the row had been fetched before it. -/
theorem acts_row {row : List Cell} {t : σ} {rest : List (List Cell)} {fault : Option CallError}
    (hheld : c.held = true) (hahead : c.lookahead = none) (hcloses : c.source.closes = 0)
    (hfetch : RowSource.fetchRow.on c.source.source = (.ok (some row), t))
    (hcourse : RowSource.course t = (rest, fault))
    (hsolve : ∀ row, Solution.ofRow c.columns row c.graph = solve row) {call : Call}
    (hcall : call.reads = true) :
    Acts solve call c (.rows (row :: rest) fault) (c.reply call) := by
  have hfetched : (c.fetched row t).source.closes = 0 :=
    (Logged.closes_append t c.source.calls _).trans hcloses
  have hahead' : (c.fetched row t).lookahead = some (solve row) := congrArg some (hsolve row)
  -- The row is fetched ahead first, and its solution waits then.
  obtain ⟨hreply, hstands, hdelivered, made, hmade, hcalls⟩ :=
    acts_waiting (c := c.fetched row t) hheld hahead' hfetched hcourse hsolve hcall
  rw [reply_of_row hheld hahead hfetch hcall]
  refine ⟨hreply, hstands, hdelivered, .fetched (.ok (some row)) :: made, ?_, ?_, ?_⟩
  · rw [hmade]
    exact List.append_assoc ..
  · intro e
    -- That a row was fetched is neither a failure nor a request to stop.
    rw [← hcalls.fault_iff e]
    simp
  · rw [← show _ ↔ call = .abort ∧ c.held = true from hcalls.cancelled_iff]
    simp

/-- Each call acts as it would for a reader with the rows in front of it. -/
theorem Stands.acts {r : Reading} (h : c.Stands solve r) (call : Call) :
    Acts solve call c r (c.reply call) := by
  cases h with
  -- nothing is left to read
  | ended hheld hahead hcloses => exact acts_ended hheld hahead hcloses call
  | ahead hheld hahead hcloses hcourse hsolve =>
    -- a solution waits; closing forgets it
    cases call with
    | close => exact acts_close hheld hcloses rfl
    | abort => exact acts_abort hheld hcloses rfl
    | _ => exact acts_waiting hheld hahead hcloses hcourse hsolve rfl
  | @fresh rest fault hheld hahead hcloses hcourse hsolve =>
    cases call with
    | close => exact acts_close hheld hcloses (by cases rest <;> rfl)
    | abort => exact acts_abort hheld hcloses (by cases rest <;> rfl)
    -- Nothing waits. A call that reads asks the stream, and its answer says how it goes on.
    | _ =>
      rcases hfetch : RowSource.fetchRow.on c.source.source with ⟨e | _ | row, t⟩
      · rw [RowSource.course_of_error hfetch] at hcourse
        cases hcourse
        -- It fails, so there was no row left and this is the failure behind the last.
        exact acts_stop (some e) hheld hahead hcloses hfetch rfl
      · rw [RowSource.course_of_end hfetch] at hcourse
        cases hcourse
        -- It ends.
        exact acts_stop none hheld hahead hcloses hfetch rfl
      · rw [RowSource.course_of_row hfetch] at hcourse
        cases hcourse
        -- It hands out a row, the first of those that are left.
        exact acts_row hheld hahead hcloses hfetch rfl hsolve rfl

/-! ### A whole life -/

/-- Once released, a cursor gives the replies of the end to any calls and stays as it is. -/
theorem run_of_ended (hheld : c.held = false) (hahead : c.lookahead = none) (calls : List Call) :
    run calls c = (calls.map Call.afterwards, c) := by
  induction calls with
  | nil => rfl
  | cons call calls ih =>
    rw [run, reply_of_ended hheld hahead]
    dsimp only
    rw [ih]
    rfl

/-- After any calls the replies are the plain ones, the cursor stands where the plain reader does,
and what was handed out is counted. -/
theorem Stands.run {r : Reading} (h : c.Stands solve r) (calls : List Call) :
    (run calls c).1 = (r.run solve calls).1 ∧ (run calls c).2.Stands solve (r.run solve calls).2 ∧
      (run calls c).2.delivered =
        c.delivered + ((run calls c).1.filterMap Reply.solution?).length := by
  induction calls generalizing c r with
  | nil => exact ⟨rfl, h, rfl⟩
  | cons call calls ih =>
    -- The step lemma for the first call; the calls behind it start where that leaves the cursor.
    obtain ⟨hreply, hstands, hdelivered, -⟩ := h.acts call
    obtain ⟨hreplies, hstands', hdelivered'⟩ := ih hstands
    refine ⟨congr (congrArg List.cons hreply) hreplies, hstands', ?_⟩
    refine hdelivered'.trans ?_
    rw [hdelivered, Nat.add_assoc]
    show _ = _ + (((c.reply call).1 :: (Cursor.run calls (c.reply call).2).1).filterMap
      Reply.solution?).length
    -- The count grows by one exactly where the first reply hands out a solution.
    cases hs : (c.reply call).1.solution? with
    | none => simp [List.filterMap_cons_none hs]
    | some s => simp [List.filterMap_cons_some hs, Nat.add_comm]

/-- A call that ends the reading leaves the stream released. -/
theorem Stands.ended_of_ends {r : Reading} (h : c.Stands solve r) {call : Call}
    (hends : (c.reply call).1.ends = true) :
    (c.reply call).2.held = false ∧ (c.reply call).2.lookahead = none := by
  obtain ⟨hreply, hstands, -, -⟩ := h.acts call
  -- The reply is the plain one, and a plain reader has nothing left then.
  rw [Reading.reply_of_ends _ (hreply ▸ hends)] at hstands
  cases hstands with
  | ended hheld hahead _ => exact ⟨hheld, hahead⟩

/-- A cursor that is dropped releases its stream if it still holds it, and asks nothing of it. -/
theorem calls_drop (c : Cursor (Logged σ)) :
    c.drop.calls = c.source.calls ++ (if c.held then [.closed] else []) := by
  rw [drop, release]
  split
  · rfl
  · exact (List.append_nil _).symm

/-- A cursor that is dropped has released its stream once. -/
theorem Stands.closes_drop {r : Reading} (h : c.Stands solve r) : c.drop.closes = 1 := by
  obtain ⟨source, held, columns, graph, lookahead, delivered⟩ := c
  -- Either a reply released the stream, or the drop does.
  cases h with
  | ended hheld hahead hcloses =>
    obtain rfl : held = false := hheld
    exact hcloses
  | fresh hheld hahead hcloses hcourse hsolve =>
    obtain rfl : held = true := hheld
    exact (Logged.closes_append _ source.calls [.closed]).trans (congrArg (· + 1) hcloses)
  | ahead hheld hahead hcloses hcourse hsolve =>
    obtain rfl : held = true := hheld
    exact (Logged.closes_append _ source.calls [.closed]).trans (congrArg (· + 1) hcloses)

end Steps

section Account

variable {σ : Type} [RowSource σ]

/-- The solution of a row of a stream. -/
def solutionOf (source : σ) (graph : String) (row : List Cell) : Solution :=
  .ofRow (RowSource.columns source) row (graphTerm graph)

/-- The replies to the calls on a cursor, and the cursor after them; its stream has the calls on
it written down. -/
def read (source : σ) (graph : String) (calls : List Call) : List Reply × Cursor (Logged σ) :=
  run calls (ofStream ⟨source, []⟩ graph)

/-- The solutions handed out. -/
def handed (replies : List Reply) : List Solution :=
  replies.filterMap Reply.solution?

/-- A new cursor stands before all rows of its stream. -/
theorem stands_ofStream (source : σ) (graph : String) :
    (ofStream (⟨source, []⟩ : Logged σ) graph).Stands (solutionOf source graph)
      (.rows (RowSource.course source).1 (RowSource.course source).2) :=
  .fresh rfl rfl rfl rfl fun _ => rfl

/-- What is so of a cursor on a stream after a sequence of calls. -/
structure Account (source : σ) (graph : String) (calls : List Call) : Prop where
  /-- the replies are those of a reader with the rows in front of it -/
  replies : (read source graph calls).1 =
    (Reading.run (solutionOf source graph) calls
      (.rows (RowSource.course source).1 (RowSource.course source).2)).1
  /-- nobody sees that the calls are written down -/
  replies_bare : (run calls (ofStream source graph)).1 = (read source graph calls).1
  /-- the solutions handed out are those of a first part of the rows -/
  handed_prefix : handed (read source graph calls).1 <+:
    (RowSource.course source).1.map (solutionOf source graph)
  /-- they are counted -/
  delivered_eq : (read source graph calls).2.delivered =
    (handed (read source graph calls).1).length
  /-- one more call reports the failure that it meets on the stream and no other, and asks the
  stream to stop if it is an abort and the stream is held -/
  calls_next : ∀ call, let c := (read source graph calls).2
    ∃ made, (c.reply call).2.source.calls = c.source.calls ++ made ∧
      Calls call c (c.reply call).1 made
  /-- if one more call ends the reading, later calls have the replies of the end, and neither
  they nor the drop reach the stream -/
  ended_next : ∀ call later, let c := ((read source graph calls).2.reply call)
    c.1.ends = true → (run later c.2).1 = later.map Call.afterwards ∧
      (run later c.2).2.drop.calls = c.2.source.calls
  /-- the drop asks for no row and does not ask the stream to stop -/
  drop_calls : let c := (read source graph calls).2
    c.drop.calls = c.source.calls ++ (if c.held then [.closed] else [])
  /-- the stream was released once when the cursor is dropped -/
  closes_drop : (read source graph calls).2.drop.closes = 1

/-- The account holds of every stream and after any sequence of calls. -/
theorem account_of_calls (source : σ) (graph : String) (calls : List Call) :
    Account source graph calls := by
  have hstart := stands_ofStream source graph
  -- Everything follows from where the cursor stands after the calls.
  obtain ⟨hreplies, hstands, hdelivered⟩ := hstart.run calls
  refine ⟨hreplies, congrArg Prod.fst (run_bare calls (ofStream ⟨source, []⟩ graph)), ?_,
    hdelivered.trans (Nat.zero_add _), ?_, ?_, ?_, hstands.closes_drop⟩
  · rw [handed, read, hreplies]
    exact Reading.handed_prefix _ calls _
  · -- the failure and the stop of one more call
    intro call
    exact (hstands.acts call).calls
  · -- the calls after the one that ended the reading
    intro call later c hends
    obtain ⟨hheld, hahead⟩ := hstands.ended_of_ends hends
    have hlater : run later c.2 = (later.map Call.afterwards, c.2) := run_of_ended hheld hahead later
    -- The cursor is as it was when the drop comes, and holds nothing to release.
    rw [hlater]
    refine ⟨rfl, (calls_drop c.2).trans ?_⟩
    rw [show c.2.held = false from hheld]
    exact List.append_nil _
  · exact calls_drop _

end Account

end Cursor

end QuadClient
