import QuadClient.Proofs.Local.Calls
import QuadClient.Proofs.Local.Changes

/-!
# What a write does

A write that sends one statement to an open connection without faults makes the change of the
statement and does nothing else that a reader could see. A handle or a connection that is closed
refuses the write and nothing changes.
-/

namespace QuadClient.Handle

/-- The handle is open on a connection that is open and shows no fault. -/
structure Serves (h : Handle LocalConnection) : Prop where
  isOpen : h.isClosed = false
  connection : h.connection.Serves

/-- The triples that the handle's connection sees. -/
def visible (h : Handle LocalConnection) : QuadStore :=
  h.connection.visible

/-- The handle once its connection has run a statement and made the change of it. -/
def changed (entry : LogEntry) (change : Change) (h : Handle LocalConnection) :
    Handle LocalConnection :=
  { h with
    connection := (h.connection.record entry).setVisible (change.apply h.connection.visible) }

variable {h : Handle LocalConnection} {entry : LogEntry} {change : Change}

@[simp] theorem visible_changed : (h.changed entry change).visible = change.apply h.visible := by
  simp [changed, visible]

theorem Serves.changed (hs : h.Serves) (entry : LogEntry) (change : Change) :
    (h.changed entry change).Serves :=
  ⟨hs.isOpen, (hs.connection.record entry).setVisible _⟩

@[simp] theorem visible_notify (e : Event) (h : Handle LocalConnection) :
    (h.notify e).visible = h.visible := rfl

theorem Serves.notify (hs : h.Serves) (e : Event) : (h.notify e).Serves :=
  ⟨hs.isOpen, hs.connection⟩

/-- Nothing is done by a handle that is closed or whose connection is. -/
def Refuses (h : Handle LocalConnection) : Prop :=
  h.isClosed = true ∨ h.connection.isClosed = true

/-- A handle is open on an open connection, or does nothing. -/
theorem open_or_refuses (h : Handle LocalConnection) :
    (h.isClosed = false ∧ h.connection.isClosed = false) ∨ h.Refuses := by
  cases hopen : h.isClosed with
  | true => exact Or.inr (Or.inl hopen)
  | false =>
    cases hconnection : h.connection.isClosed with
    | true => exact Or.inr (Or.inr hconnection)
    | false => exact Or.inl ⟨rfl, rfl⟩

/-- The handle is open on a connection that runs the statements of writes. -/
structure Accepts (h : Handle LocalConnection) : Prop where
  isOpen : h.isClosed = false
  connection : h.connection.Accepts

/-- The handle has no statement of a write run. -/
def Rejects (h : Handle LocalConnection) : Prop :=
  h.isClosed = true ∨ h.connection.Rejects

theorem Serves.accepts (hs : h.Serves) : h.Accepts :=
  ⟨hs.isOpen, hs.connection.accepts⟩

theorem Accepts.serves (ha : h.Accepts) (hfaults : h.connection.faults = {}) : h.Serves :=
  ⟨ha.isOpen, hfaults, ha.connection.isOpen⟩

/-- A handle runs the statements of writes, or has none run. -/
theorem accepts_or_rejects (h : Handle LocalConnection) : h.Accepts ∨ h.Rejects := by
  -- The statement of a write is run unless the handle, its connection or a fault stands in the
  -- way.
  rcases h.open_or_refuses with ⟨hopen, hconnection⟩ | hclosed | hclosed
  · cases hupdates : h.connection.faults.updates with
    | true => exact Or.inr (Or.inr (Or.inr hupdates))
    | false => exact Or.inl ⟨hopen, hconnection, hupdates⟩
  · exact Or.inr (Or.inl hclosed)
  · exact Or.inr (Or.inr (Or.inl hclosed))

/-! ### Statements -/

/-- What an open handle does with its connection is what the attempt does there. -/
theorem onConnection_of_open {κ α : Type} {h : Handle κ} (hopen : h.isClosed = false)
    (a : Attempt Error κ α) :
    (onConnection a).on h =
      ((a.on h.connection).1, { h with connection := (a.on h.connection).2 }) := by
  show (if h.isClosed then _ else _) = _
  rw [hopen]
  rfl

theorem onConnection_of_closed {κ α : Type} {h : Handle κ} (hclosed : h.isClosed = true)
    (a : Attempt Error κ α) : (onConnection a).on h = (.error .closed, h) := by
  show (if h.isClosed then _ else _) = _
  rw [hclosed]
  rfl

/-- A statement is prepared without a look at its text, and nothing is recorded by that. -/
theorem prepare_of_accepts (ha : h.Accepts) (text : String) :
    (Connection.prepare text h.sendOptions).on h.connection =
      (.ok { text, options := h.sendOptions }, h.connection) :=
  LocalConnection.whenOpen_of_open ha.connection.isOpen

/-- A prepared statement that is run once makes its change. -/
theorem sendWith_of_accepts (ha : h.Accepts) (kind : WriteKind) {text : String}
    {params : List Param} (hchange : LocalConnection.changeOf text params = .ok change) :
    (sendWith kind text params).on h =
      (.ok (), h.changed ⟨text, h.sendOptions, params⟩ change) := by
  have hexecute : (Connection.executePrepared { text, options := h.sendOptions, params }).on
      h.connection = (.ok (), (h.changed ⟨text, h.sendOptions, params⟩ change).connection) := by
    show LocalConnection.execute text h.sendOptions params h.connection = _
    rw [LocalConnection.execute_of_accepts ha.connection,
      LocalConnection.runUpdate_of_change hchange]
    rfl
  rw [sendWith, Attempt.on_bind, Attempt.on_get]
  simp only [onConnection_of_open ha.isOpen, Attempt.on_mapError, Attempt.on_bind,
    prepare_of_accepts ha, LocalConnection.bindFrom_fresh, hexecute]
  rfl

/-- A statement without parameters makes its change as well. -/
theorem execute_of_accepts (ha : h.Accepts) (kind : WriteKind) {text : String}
    (hchange : LocalConnection.changeOf text [] = .ok change) :
    (onConnection (Attempt.mapError (.ofMutation kind)
      (Connection.execute text h.sendOptions : Attempt CallError LocalConnection Unit))).on h =
      (.ok (), h.changed ⟨text, h.sendOptions, []⟩ change) := by
  have hexecute : (Connection.execute text h.sendOptions).on h.connection =
      (.ok (), (h.changed ⟨text, h.sendOptions, []⟩ change).connection) := by
    show LocalConnection.execute text h.sendOptions [] h.connection = _
    rw [LocalConnection.execute_of_accepts ha.connection,
      LocalConnection.runUpdate_of_change hchange]
    rfl
  simp only [onConnection_of_open ha.isOpen, Attempt.on_mapError, hexecute]
  rfl

/-! ### Rejections -/

/-- Work that fails without a trace wherever the handle is open fails so on any handle. -/
theorem onConnection_of_fails {α : Type} {P : Prop} (hr : h.isClosed = true ∨ P)
    {a : Attempt Error LocalConnection α}
    (ha : P → ∃ e, a.on h.connection = (.error e, h.connection)) :
    ∃ e, (onConnection a).on h = (.error e, h) := by
  cases hopen : h.isClosed with
  | true => exact ⟨.closed, onConnection_of_closed hopen a⟩
  | false =>
    rw [hopen] at hr
    obtain ⟨e, he⟩ := ha (hr.resolve_left Bool.false_ne_true)
    rw [onConnection_of_open hopen, he]
    exact ⟨e, rfl⟩

/-- Where no statement is run, a prepared one fails and changes nothing. -/
theorem sendWith_of_rejects (hr : h.Rejects) (kind : WriteKind) (text : String)
    (params : List Param) : ∃ e, (sendWith kind text params).on h = (.error e, h) := by
  rw [sendWith, Attempt.on_bind, Attempt.on_get]
  refine onConnection_of_fails hr fun hrejects => ?_
  simp only [Attempt.on_mapError, Attempt.on_bind]
  -- It is the preparation that fails on a closed connection, and the execution on an open one.
  cases hclosed : h.connection.isClosed with
  | true =>
    have hprepare : (Connection.prepare text h.sendOptions).on h.connection =
        (.error .closed, h.connection) := LocalConnection.whenOpen_of_closed hclosed
    rw [hprepare]
    exact ⟨_, rfl⟩
  | false =>
    have hprepare : (Connection.prepare text h.sendOptions).on h.connection =
        (.ok { text, options := h.sendOptions }, h.connection) :=
      LocalConnection.whenOpen_of_open hclosed
    obtain ⟨e, he⟩ := LocalConnection.execute_of_rejects hrejects text h.sendOptions params
    have hexecute : (Connection.executePrepared { text, options := h.sendOptions, params }).on
        h.connection = (.error e, h.connection) := he
    simp only [hprepare, LocalConnection.bindFrom_fresh, hexecute]
    exact ⟨_, rfl⟩

/-- A statement without parameters fails there as well. -/
theorem execute_of_rejects (hr : h.Rejects) (kind : WriteKind) (text : String) :
    ∃ e, (onConnection (Attempt.mapError (.ofMutation kind)
      (Connection.execute text h.sendOptions : Attempt CallError LocalConnection Unit))).on h =
      (.error e, h) := by
  refine onConnection_of_fails hr fun hrejects => ?_
  obtain ⟨e, he⟩ := LocalConnection.execute_of_rejects hrejects text h.sendOptions []
  have hexecute : (Connection.execute text h.sendOptions).on h.connection =
      (.error e, h.connection) := he
  simp only [Attempt.on_mapError, hexecute]
  exact ⟨_, rfl⟩

/-- A prepared statement that is run once makes its change, or fails and changes nothing. -/
theorem sendWith_cases (kind : WriteKind) {text : String} {params : List Param}
    (hchange : LocalConnection.changeOf text params = .ok change) :
    (∃ error, (sendWith kind text params).on h = (.error error, h)) ∨
      h.Accepts ∧ (sendWith kind text params).on h =
        (.ok (), h.changed ⟨text, h.sendOptions, params⟩ change) := by
  rcases h.accepts_or_rejects with ha | hr
  · exact Or.inr ⟨ha, sendWith_of_accepts ha kind hchange⟩
  · exact Or.inl (sendWith_of_rejects hr kind text params)

/-! ### Single triples -/

/-- The handle after a write of one triple that was coded. -/
def written (kind : WriteKind) (t : Triple) (e : TripleCode) (h : Handle LocalConnection) :
    Handle LocalConnection :=
  h.changed ⟨kind.template, h.sendOptions, e.params h.graphName⟩
    (kind.change h.graphName t.stored)

/-- What is seen after a write of one triple is what the change of the triple makes of it. -/
theorem visible_written (kind : WriteKind) (t : Triple) (e : TripleCode) :
    (h.written kind t e).visible = (kind.change h.graphName t.stored).apply h.visible :=
  visible_changed

theorem Serves.written (hs : h.Serves) (kind : WriteKind) (t : Triple) (e : TripleCode) :
    (h.written kind t e).Serves :=
  hs.changed _ _

/-- A write of one triple that can be coded makes the change of the triple. -/
theorem sendOne_of_accepts (ha : h.Accepts) (kind : WriteKind) {t : Triple} {e : TripleCode}
    (he : t.encode = .ok e) : (sendOne kind t).on h = (.ok (), h.written kind t e) := by
  unfold sendOne
  rw [he, Attempt.on_bind, Attempt.on_get]
  exact sendWith_of_accepts ha kind (LocalConnection.changeOf_template kind he h.graphName)

/-- A write of one triple fails and changes nothing, or makes the change of the triple. -/
theorem sendOne_cases (h : Handle LocalConnection) (kind : WriteKind) (t : Triple) :
    (∃ error, (sendOne kind t).on h = (.error error, h)) ∨
      ∃ e, t.encode = .ok e ∧ h.Accepts ∧
        (sendOne kind t).on h = (.ok (), h.written kind t e) := by
  cases he : t.encode with
  | error m =>
    unfold sendOne
    rw [he]
    exact Or.inl ⟨.misplaced m, rfl⟩
  | ok e =>
    rcases h.accepts_or_rejects with ha | hr
    · exact Or.inr ⟨e, rfl, ha, sendOne_of_accepts ha kind he⟩
    · unfold sendOne
      rw [he, Attempt.on_bind, Attempt.on_get]
      exact Or.inl (sendWith_of_rejects hr kind kind.template _)

/-- The listeners are told of a write after it was made. -/
theorem sendOne_tell_of_accepts (ha : h.Accepts) {kind : WriteKind} {t : Triple} {e : TripleCode}
    (he : t.encode = .ok e) (event : String → Event) :
    (do sendOne kind t; tell event : GraphAction LocalConnection Unit).on h =
      (.ok (), (h.written kind t e).notify (event h.graphName)) := by
  rw [Attempt.on_bind, sendOne_of_accepts ha kind he]
  rfl

/-- What it takes for a write of one triple that is told to the listeners to succeed. -/
theorem sendOne_tell_eq_ok (hfaults : h.connection.faults = {}) {kind : WriteKind} {t : Triple}
    {event : String → Event} {h' : Handle LocalConnection}
    (hwrite : (do sendOne kind t; tell event : GraphAction LocalConnection Unit).on h =
      (.ok (), h')) :
    ∃ e, t.encode = .ok e ∧ h.Serves ∧
      h' = (h.written kind t e).notify (event h.graphName) := by
  rw [Attempt.on_bind] at hwrite
  rcases sendOne_cases h kind t with ⟨error, hsend⟩ | ⟨e, he, ha, hsend⟩
  · -- A write that fails tells nobody, and is not a success.
    rw [hsend] at hwrite
    cases hwrite
  · rw [hsend] at hwrite
    exact ⟨e, he, ha.serves hfaults, (congrArg Prod.snd hwrite).symm⟩

/-! ### Patterns -/

/-- A statement from the text of a pattern makes its change, or fails and changes nothing. -/
theorem execute_cases (kind : WriteKind) {text : String}
    (hchange : LocalConnection.changeOf text [] = .ok change) :
    let attempt : GraphAction LocalConnection Unit :=
      onConnection (Attempt.mapError (.ofMutation kind) (Connection.execute text h.sendOptions))
    (∃ error, attempt.on h = (.error error, h)) ∨
      h.Accepts ∧ attempt.on h = (.ok (), h.changed ⟨text, h.sendOptions, []⟩ change) := by
  intro attempt
  rcases h.accepts_or_rejects with ha | hr
  · exact Or.inr ⟨ha, execute_of_accepts ha kind hchange⟩
  · exact Or.inl (execute_of_rejects hr kind text)

end QuadClient.Handle
