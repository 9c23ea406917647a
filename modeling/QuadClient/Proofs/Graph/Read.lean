import QuadClient.Proofs.Graph.Write
import QuadClient.Proofs.Local.Queries
import QuadClient.Proofs.Solution.Row

/-!
# What a read answers

The reads of a handle are answered from the hits of their pattern: the triples that it accepts
in the graph of the handle, or in every graph. A read leaves the triples as they are.
-/

namespace QuadClient.Handle

/-- The scope of the handle's reads: its graph, or every graph. -/
def readScope (h : Handle LocalConnection) : Option String :=
  if h.options.everyGraph then none else some h.graphName

/-- The triples that a read for a pattern finds, each with the graph that holds it. -/
def hits (h : Handle LocalConnection) (p : Pattern) : List (String × Triple) :=
  h.visible.query h.readScope p

/-- The solution that a match is answered with. -/
def solution (h : Handle LocalConnection) (p : Pattern) (t : Triple) : Solution :=
  Solution.ofRow (Request.columns p) (Request.row p t) (Cursor.graphTerm h.graphName)

/-- Nothing of the handle's settings gets out of its place in the statement of a read. -/
structure Fenced (h : Handle LocalConnection) : Prop where
  graph : h.options.everyGraph = false → Enclosed h.graphName
  ruleSet : ∀ rules, h.options.ruleSet = some rules → '\n' ∉ rules.toList

/-- The handle's reads can be told apart from the rest of their statements. -/
structure Readable (h : Handle LocalConnection) : Prop where
  graph : Iri.isAbsolute h.graphName = true
  ruleSet : ∀ rules, h.options.ruleSet = some rules → '\n' ∉ rules.toList

/-- The handle, its connection replaced by one with the same triples. -/
structure Alike (h h' : Handle LocalConnection) : Prop where
  connection : h.connection.Alike h'.connection
  graphName : h'.graphName = h.graphName
  isClosed : h'.isClosed = h.isClosed
  options : h'.options = h.options

variable {h : Handle LocalConnection} {p q : Pattern}

/-- The name of the graph of a readable handle is that of an IRI. -/
theorem Readable.exists_iri (hr : h.Readable) : ∃ g : Iri, g.text = h.graphName := by
  have hgraph := hr.graph
  unfold Iri.isAbsolute at hgraph
  cases hcheck : Iri.Syntax.check h.graphName.toList with
  | ok u => exact ⟨⟨h.graphName, hcheck⟩, rfl⟩
  | error e =>
    rw [hcheck] at hgraph
    cases hgraph

/-- An IRI has no closing bracket and no line feed, so the name of a readable handle is
enclosed. -/
theorem Readable.fenced (hr : h.Readable) : h.Fenced := by
  obtain ⟨g, hg⟩ := hr.exists_iri
  refine ⟨fun _ => ?_, hr.ruleSet⟩
  rw [← hg]
  exact g.enclosed

/-! ### The statements of the reads -/

/-- The statement of a search is read as the search for its pattern. -/
theorem Fenced.enumerate (hf : h.Fenced) (hp : p.Legible) :
    Request.ofText (h.scope.enumerate p) [] = .ok (.select h.readScope p none) :=
  Request.ofText_enumerate_in hf.graph hf.ruleSet hp []

/-- The statement of the question for a match is read as a search for one row. -/
theorem Fenced.any (hf : h.Fenced) (hp : p.Legible) :
    Request.ofText (h.scope.any p) [] = .ok (.select h.readScope p (some 1)) :=
  Request.ofText_any_in hf.graph hf.ruleSet hp []

/-- The statement of the size is read as a count of all triples, with the graph in a parameter. -/
theorem Fenced.count (hf : h.Fenced) :
    Request.ofText (h.scope.count .any).text (h.scope.count .any).params =
      .ok (.count h.readScope .any) :=
  Request.ofText_count_in h.graphName hf.ruleSet (List.forall_mem_nil _)

/-- What a use makes of an answer, on the connection that the answer left. -/
theorem withRows_of_serves {α : Type} (hs : h.Serves)
    {opening : Attempt CallError LocalConnection Rows} {rows : Rows} {c : LocalConnection}
    (hopening : opening.on h.connection = (.ok rows, c))
    {use : LiveRows LocalConnection → Except Error α × LiveRows LocalConnection}
    {r : Except Error α} {live : LiveRows LocalConnection} (huse : use ⟨c, rows⟩ = (r, live)) :
    (withRows opening use).on h = (r, { h with connection := live.connection }) := by
  rw [withRows, onConnection_of_open hs.isOpen]
  simp only [Attempt.on_of, hopening, huse]

/-- A connection that gives no answer has its failure reported as that of a query. -/
theorem withRows_of_error {α : Type} (hs : h.Serves)
    {opening : Attempt CallError LocalConnection Rows} {e : CallError} {c : LocalConnection}
    (hopening : opening.on h.connection = (.error e, c))
    (use : LiveRows LocalConnection → Except Error α × LiveRows LocalConnection) :
    (withRows opening use).on h = (.error (.ofQuery e), { h with connection := c }) := by
  rw [withRows, onConnection_of_open hs.isOpen]
  simp only [Attempt.on_of, hopening]

/-- What is made of an answer by a cursor on it, which is then dropped. -/
theorem withCursor_of_answer {α : Type} (hs : h.Serves) {text : String} {rows : Rows}
    {c : LocalConnection}
    (hquery : (Connection.query text h.sendOptions).on h.connection = (.ok rows, c))
    {use : Cursor (LiveRows LocalConnection) → Except Error α × Cursor (LiveRows LocalConnection)}
    {r : Except Error α} {d : Cursor (LiveRows LocalConnection)}
    (huse : use (Cursor.ofStream ⟨c, rows⟩ h.graphName) = (r, d)) :
    (withCursor text use).on h = (r, { h with connection := d.drop.connection }) := by
  rw [withCursor, Attempt.on_bind, Attempt.on_get]
  refine withRows_of_serves hs hquery ?_
  simp only [huse]

/-! ### Triples -/

/-- What a statement reads, the text of its pattern tells. -/
theorem enumerate_congr (s : Scope) (htext : p.text = q.text) : s.enumerate p = s.enumerate q := by
  show (Statement.text ((Statement.ofBody (if s.options.everyGraph then
    "select * where \x7b " ++ p.text ++ " \x7d" else _ ++ p.text ++ _)).reading s.options)) = _
  rw [htext]
  rfl

/-- So does what the question for a match asks. -/
theorem any_congr (s : Scope) (htext : p.text = q.text) : s.any p = s.any q := by
  show (Statement.text (((Statement.ofBody ((if s.options.everyGraph then
    "select * where \x7b " ++ p.text ++ " \x7d" else _ ++ p.text ++ _) ++ " limit 1")).add
      (.storage "")).reading s.options)) = _
  rw [htext]
  rfl

/-- The triples that are read from the rows of an answer, whatever the answer was to. -/
theorem find_of_answer (hs : h.Serves) {columns : List String} {rows : List (List Cell)}
    {c : LocalConnection}
    (hquery : (Connection.query (h.scope.enumerate p) h.sendOptions).on h.connection =
      (.ok ⟨columns, rows, true⟩, c)) :
    ∃ c', c.Alike c' ∧ (find p).on h =
      (.ok (rows.filterMap fun row => Matches.triple? p (Solution.ofRow columns row
        (Cursor.graphTerm h.graphName))), { h with connection := c' }) := by
  let live : LiveRows LocalConnection := ⟨c, ⟨columns, rows, true⟩⟩
  let m : Matches (LiveRows LocalConnection) := ⟨Cursor.ofStream live h.graphName, p⟩
  have hrun : (find p).on h =
      (m.drain.1, { h with connection := m.drain.2.cursor.drop.connection }) := by
    rw [find, findWith, Attempt.on_bind, Attempt.on_get]
    exact withCursor_of_answer hs hquery rfl
  have hdelivers := LocalConnection.delivers_of_open c columns (Cursor.graphTerm h.graphName) rows 0
  have hdrain : m.drain.1 = .ok (rows.filterMap fun row => Matches.triple? p
      (Solution.ofRow columns row (Cursor.graphTerm h.graphName))) := by
    have := Matches.drain_of_delivers (p := p) hdelivers
    rw [List.filterMap_map] at this
    exact this
  have hkeeps : c.Alike m.drain.2.cursor.drop.connection := by
    -- Neither a row that is read nor the end of the stream is a change.
    let K (l : LiveRows LocalConnection) : Prop := c.Alike l.connection
    have hdrained : K m.drain.2.cursor.source :=
      m.drain_keeps LocalConnection.alike_fetchRow LocalConnection.alike_closeRows (.refl c)
    exact Cursor.release_keeps (K := K) LocalConnection.alike_closeRows hdrained
  rw [hrun, hdrain]
  exact ⟨_, hkeeps, rfl⟩

/-- A search that asks for no change leaves the triples as they are. -/
theorem find_of_harmless (hs : h.Serves)
    (hharmless : ∀ request, Request.ofText (h.scope.enumerate p) [] = .ok request →
      request.change [] = .ok .none) : h.Alike ((find p).on h).2 := by
  obtain ⟨c, hc, ⟨e, hquery⟩ | ⟨columns, rows, hquery⟩⟩ :=
    LocalConnection.query_of_harmless hs.connection h.sendOptions hharmless
  · have hopening : (Connection.query (h.scope.enumerate p) h.sendOptions).on h.connection =
        (.error e, c) := hquery
    have hrun : (find p).on h = (.error (.ofQuery e), { h with connection := c }) := by
      rw [find, findWith, Attempt.on_bind, Attempt.on_get]
      show (withCursor (h.scope.enumerate p) _).on h = _
      rw [withCursor, Attempt.on_bind, Attempt.on_get]
      exact withRows_of_error hs hopening _
    rw [hrun]
    exact ⟨hc, rfl, rfl, rfl⟩
  · obtain ⟨c', hc', hfind⟩ := find_of_answer hs hquery
    rw [hfind]
    exact ⟨hc.trans hc', rfl, rfl, rfl⟩

/-- The triples that are read for the hits of the pattern that is read in the statement. -/
theorem find_of_select (hs : h.Serves)
    (htext : Request.ofText (h.scope.enumerate p) [] = .ok (.select h.readScope q none)) :
    ∃ h', h.Alike h' ∧ (find p).on h =
      (.ok ((h.hits q).filterMap fun hit => Matches.triple? p (h.solution q hit.2)), h') := by
  obtain ⟨c, hc, hquery⟩ := LocalConnection.query_select hs.connection h.sendOptions htext
  -- A search has no limit, so the rows are those of all hits.
  rw [Option.getD_none, List.take_length] at hquery
  obtain ⟨c', hc', hfind⟩ := find_of_answer (p := p) hs hquery
  rw [List.filterMap_map] at hfind
  exact ⟨{ h with connection := c' }, ⟨hc.trans hc', rfl, rfl, rfl⟩, hfind⟩

/-- The triples that are read for the hits of a pattern with the same text. -/
theorem find_of_text (hs : h.Serves) (hr : h.Readable) (hq : q.Legible) (hpq : p.text = q.text) :
    ∃ h', h.Alike h' ∧ (find p).on h =
      (.ok ((h.hits q).filterMap fun hit => Matches.triple? p (h.solution q hit.2)), h') := by
  refine find_of_select hs ?_
  rw [enumerate_congr h.scope hpq]
  exact hr.fenced.enumerate hq

/-- The triples that are read for the hits of a pattern. -/
theorem find_of_serves (hs : h.Serves) (hr : h.Readable) (hp : p.Legible) :
    ∃ h', h.Alike h' ∧ (find p).on h =
      (.ok ((h.hits p).filterMap fun hit => Matches.triple? p (h.solution p hit.2)), h') :=
  find_of_text hs hr hp rfl

/-! ### Counts -/

/-- Whether the answer to the question has a row. -/
theorem contains_of_answer (hs : h.Serves) {columns : List String} {rows : List (List Cell)}
    {c : LocalConnection} (hc : h.connection.Alike c)
    (hquery : (Connection.query (h.scope.any p) h.sendOptions).on h.connection =
      (.ok ⟨columns, rows, true⟩, c)) :
    ∃ h', h.Alike h' ∧ (contains p).on h = (.ok rows.head?.isSome, h') := by
  obtain ⟨live, hrow, hlive⟩ := LocalConnection.firstRow_of_open c columns rows
  have hrows : (withRows (Connection.query (h.scope.any p) h.sendOptions) firstRow).on h =
      (.ok rows.head?, { h with connection := live.connection }) :=
    withRows_of_serves hs hquery hrow
  refine ⟨{ h with connection := live.connection }, ⟨hc.trans hlive, rfl, rfl, rfl⟩, ?_⟩
  rw [contains, Attempt.on_bind, Attempt.on_get]
  show (withRows _ firstRow >>= _).on h = _
  rw [Attempt.on_bind, hrows]
  rfl

/-- The question for a match leaves the triples as they are if it asks for no change. -/
theorem contains_of_harmless (hs : h.Serves)
    (hharmless : ∀ request, Request.ofText (h.scope.any p) [] = .ok request →
      request.change [] = .ok .none) : h.Alike ((contains p).on h).2 := by
  obtain ⟨c, hc, ⟨e, hquery⟩ | ⟨columns, rows, hquery⟩⟩ :=
    LocalConnection.query_of_harmless hs.connection h.sendOptions hharmless
  · have hopening : (Connection.query (h.scope.any p) h.sendOptions).on h.connection =
        (.error e, c) := hquery
    have hrun : (contains p).on h = (.error (.ofQuery e), { h with connection := c }) := by
      rw [contains, Attempt.on_bind, Attempt.on_get]
      show (withRows _ firstRow >>= _).on h = _
      rw [Attempt.on_bind, withRows_of_error hs hopening]
    rw [hrun]
    exact ⟨hc, rfl, rfl, rfl⟩
  · obtain ⟨h', hh', hcontains⟩ := contains_of_answer hs hc hquery
    rw [hcontains]
    exact hh'

/-- Whether there is a hit of the pattern that is read in the question. -/
theorem contains_of_select (hs : h.Serves)
    (htext : Request.ofText (h.scope.any p) [] = .ok (.select h.readScope q (some 1))) :
    ∃ h', h.Alike h' ∧ (contains p).on h = (.ok (!(h.hits q).isEmpty), h') := by
  obtain ⟨c, hc, hquery⟩ := LocalConnection.query_select hs.connection h.sendOptions htext
  obtain ⟨h', hh', hcontains⟩ := contains_of_answer hs hc hquery
  refine ⟨h', hh', hcontains.trans ?_⟩
  -- One row is enough to tell whether there is any.
  show (Except.ok (((h.hits q).take 1).map fun hit => Request.row q hit.2).head?.isSome, h') = _
  cases h.hits q with
  | nil => rfl
  | cons hit rest => rfl

/-- Whether there is a hit of a pattern with the same text. -/
theorem contains_of_text (hs : h.Serves) (hr : h.Readable) (hq : q.Legible)
    (hpq : p.text = q.text) :
    ∃ h', h.Alike h' ∧ (contains p).on h = (.ok (!(h.hits q).isEmpty), h') := by
  refine contains_of_select hs ?_
  rw [any_congr h.scope hpq]
  exact hr.fenced.any hq

/-- Whether there is a hit. -/
theorem contains_of_serves (hs : h.Serves) (hr : h.Readable) (hp : p.Legible) :
    ∃ h', h.Alike h' ∧ (contains p).on h = (.ok (!(h.hits p).isEmpty), h') :=
  contains_of_text hs hr hp rfl

/-- The number of the triples that are counted. -/
theorem size_of_count (hs : h.Serves)
    (htext : Request.ofText (h.scope.count .any).text (h.scope.count .any).params =
      .ok (.count h.readScope .any)) :
    ∃ h', h.Alike h' ∧ (size : GraphAction LocalConnection Nat).on h =
      (.ok (h.hits .any).length, h') := by
  obtain ⟨c, hc, hquery⟩ := LocalConnection.query_count hs.connection h.sendOptions htext
  let compiled := h.scope.count .any
  let opening : Attempt CallError LocalConnection Rows := do
    let statement ← Connection.prepare compiled.text h.sendOptions
    let statement ← bindFrom 1 statement compiled.params
    Connection.queryPrepared statement
  have hopening : opening.on h.connection =
      (.ok ⟨["count"], [[.integer (h.hits .any).length]], true⟩, c) := by
    simp only [opening, Attempt.on_bind, prepare_of_accepts hs.accepts, LocalConnection.bindFrom_fresh]
    exact hquery
  obtain ⟨live, hrow, hlive⟩ := LocalConnection.firstRow_of_open c ["count"]
    [[.integer (h.hits .any).length]]
  have hrows : (withRows opening firstRow).on h =
      (.ok (some [.integer (h.hits .any).length]), { h with connection := live.connection }) :=
    withRows_of_serves hs hopening hrow
  refine ⟨{ h with connection := live.connection }, ⟨hc.trans hlive, rfl, rfl, rfl⟩, ?_⟩
  rw [size, Attempt.on_bind, Attempt.on_get]
  show (withRows opening firstRow >>= _).on h = _
  rw [Attempt.on_bind, hrows]
  rfl

/-- The number of the triples in scope. -/
theorem size_of_serves (hs : h.Serves) (hr : h.Readable) :
    ∃ h', h.Alike h' ∧ (size : GraphAction LocalConnection Nat).on h =
      (.ok (h.hits .any).length, h') :=
  size_of_count hs hr.fenced.count

end QuadClient.Handle
