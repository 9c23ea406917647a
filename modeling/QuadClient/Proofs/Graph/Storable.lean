import QuadClient.Proofs.Cursor.Account
import QuadClient.Proofs.Cursor.Delivery
import QuadClient.Proofs.Graph.Write
import QuadClient.Proofs.Local.Queries
import QuadClient.Proofs.Solution.Columns

/-!
# Triples that are read

A construct and a read of a pattern each make triples from the rows of an answer, and pass over
the rows that make none. Both make a triple where, and only where, its terms are there and it can
be coded, so whatever is read can be written back. The order is that of the rows.
-/

namespace QuadClient

/-! ### What a row makes -/

/-- The elements that some of the first list make, one each, in the order of that list; the
others make none. -/
inductive Yields {α β : Type} (makes : α → β → Prop) : List α → List β → Prop where
  | nil : Yields makes [] []
  | made {a : α} {b : β} {as : List α} {bs : List β} (h : makes a b) (rest : Yields makes as bs) :
      Yields makes (a :: as) (b :: bs)
  | passed {a : α} {as : List α} {bs : List β} (h : ∀ b, ¬ makes a b)
      (rest : Yields makes as bs) : Yields makes (a :: as) bs

/-- A function that gives what an element makes, and nothing where it makes nothing, collects
it. -/
theorem yields_filterMap {α β : Type} {makes : α → β → Prop} {f : α → Option β}
    (hf : ∀ a b, f a = some b ↔ makes a b) (as : List α) : Yields makes as (as.filterMap f) := by
  induction as with
  | nil => exact .nil
  | cons a as ih =>
    cases ha : f a with
    | some b =>
      rw [List.filterMap_cons_some ha]
      exact .made ((hf a b).1 ha) ih
    | none =>
      have hnone : ∀ b, ¬ makes a b := by
        intro b hb
        rw [(hf a b).2 hb] at ha
        cases ha
      rw [List.filterMap_cons_none ha]
      exact .passed hnone ih

/-- The triple can be coded. -/
def Triple.Codable (t : Triple) : Prop :=
  ∃ code, t.encode = .ok code

/-- The first three cells of the row stand for the terms of the triple, and it can be coded. -/
def Triple.MadeFrom (row : List Cell) (t : Triple) : Prop :=
  ∃ s p o rest, row = s :: p :: o :: rest ∧ s.term? = some t.subject ∧
    p.term? = some t.predicate ∧ o.term? = some t.object ∧ t.Codable

/-- A triple can be coded exactly if its subject is no literal and its predicate is an IRI. -/
theorem Triple.codable_iff (t : Triple) : t.Codable ↔ t.isStorable = true :=
  t.exists_encode_iff

/-- A row is made into a triple exactly where its first three cells stand for the terms of one. -/
theorem Handle.tripleOfRow?_eq_some (row : List Cell) (t : Triple) :
    tripleOfRow? row = some t ↔ t.MadeFrom row := by
  unfold tripleOfRow? Triple.MadeFrom
  rw [t.codable_iff]
  constructor
  · intro h
    split at h
    · next s p o rest =>
      simp only [Option.bind_eq_bind, Option.bind_eq_some_iff] at h
      obtain ⟨subject, hs, predicate, hp, object, ho, h⟩ := h
      split at h
      · next hstorable =>
        cases h
        exact ⟨s, p, o, rest, rfl, hs, hp, ho, hstorable⟩
      · cases h
    · cases h
  · -- The cells have the terms and the triple can be coded, so no step of the function fails.
    rintro ⟨s, p, o, rest, rfl, hs, hp, ho, hstorable⟩
    simp [hs, hp, ho, hstorable]

/-- What a name is bound to in a row: the term of the last cell under it that stands for one. -/
def boundIn? (columns : List String) (row : List Cell) (name : String) : Option Term :=
  (Solution.termsUnder name (columns.zip row)).getLast?

/-- The slots of a pattern are filled with the terms of the triple, the open ones from the names
in the row, and the triple can be coded. -/
structure Pattern.Fills (p : Pattern) (columns : List String) (row : List Cell) (t : Triple) :
    Prop where
  subject : (p.subject <|> boundIn? columns row "s") = some t.subject
  predicate : (p.predicate <|> boundIn? columns row "p") = some t.predicate
  object : (p.object <|> boundIn? columns row "o") = some t.object
  codable : t.Codable

/-- The graph does not get in the way of another name. -/
theorem Solution.get?_ofRow_of_ne {name : String} (hname : name ≠ graphColumn)
    (columns : List String) (row : List Cell) (graph : Option Term) :
    (ofRow columns row graph).get? name = boundIn? columns row name := by
  cases graph with
  | none => exact get?_ofRow_none columns row name
  | some g => rw [get?_ofRow_some, if_neg hname, get?_ofRow_none, boundIn?]

/-- A solution makes the triple that its row fills the pattern with. -/
theorem Matches.triple?_ofRow_iff {columns : List String} {graph : Option Term} (p : Pattern)
    (row : List Cell) (t : Triple) :
    triple? p (.ofRow columns row graph) = some t ↔ p.Fills columns row t := by
  have hs : (Solution.ofRow columns row graph).get? "s" = boundIn? columns row "s" :=
    Solution.get?_ofRow_of_ne (by decide) columns row graph
  have hp : (Solution.ofRow columns row graph).get? "p" = boundIn? columns row "p" :=
    Solution.get?_ofRow_of_ne (by decide) columns row graph
  have ho : (Solution.ofRow columns row graph).get? "o" = boundIn? columns row "o" :=
    Solution.get?_ofRow_of_ne (by decide) columns row graph
  -- The names of the slots are none of the graph's, so what the row binds is what the slots get.
  rw [triple?_eq_some_iff, hs, hp, ho, ← t.codable_iff]
  constructor
  · rintro ⟨hsubject, hpredicate, hobject, hcodable⟩
    exact ⟨hsubject, hpredicate, hobject, hcodable⟩
  · rintro ⟨hsubject, hpredicate, hobject, hcodable⟩
    exact ⟨hsubject, hpredicate, hobject, hcodable⟩

/-! ### Streams read to the end -/

namespace RowSource

variable {σ : Type} [RowSource σ]

/-- A stream that just ends is read to the end. -/
theorem drain_of_course {s : σ} {rows : List (List Cell)} (h : course s = (rows, none)) :
    (drain s).1 = .ok rows := by
  -- Case by case as the stream is read: a failure and a row do not fit a course that just ends.
  fun_induction drain s generalizing rows with
  | case1 s e t ht =>
    rw [course_of_error ht] at h
    cases h
  | case2 s t ht =>
    rw [course_of_end ht] at h
    cases h
    rfl
  -- The row is the first of the course, and the rest of the stream has the rest of it.
  | case3 s row t ht r u hr ih =>
    rw [course_of_row ht] at h
    obtain ⟨rfl, hfault⟩ := Prod.mk.inj h
    have hrest := ih (Prod.ext rfl hfault)
    rw [hr] at hrest
    obtain rfl : r = .ok (course t).1 := hrest
    rfl

end RowSource

namespace Cursor

variable {σ : Type} [RowSource σ]

variable {c : Cursor σ}

/-- A cursor that looks at a row hands out its solution and is ready for the next. -/
theorem next_at_row (hheld : c.held = true) (hahead : c.lookahead = none) {row : List Cell}
    {t : σ} (hfetch : RowSource.fetchRow.on c.source = (.ok (some row), t)) :
    c.next =
      (.ok (some (c.solution row)), { c with source := t, delivered := c.delivered + 1 }) := by
  obtain ⟨source, held, columns, graph, lookahead, delivered⟩ := c
  obtain rfl : held = true := hheld
  obtain rfl : lookahead = none := hahead
  have hfetch' : RowSource.fetchRow.on source = (.ok (some row), t) := hfetch
  simp [next, hasMore, hfetch', solution]

/-- A cursor that comes to the end of its stream hands out nothing any more. -/
theorem next_at_end (hheld : c.held = true) (hahead : c.lookahead = none) {t : σ}
    (hfetch : RowSource.fetchRow.on c.source = (.ok none, t)) : ∃ c', c.next = (.ok none, c') := by
  have hmore : c.hasMore = (.ok false, release { c with source := t }) := by
    simp [hasMore, hheld, hahead, hfetch]
  have hnone : (release { c with source := t }).lookahead = none := by
    rw [release_lookahead]
    exact hahead
  rw [next, hmore]
  dsimp only
  rw [hnone]
  exact ⟨_, rfl⟩

/-- A cursor on a stream that just ends hands out the solutions of its rows. -/
theorem delivers_of_course {rows : List (List Cell)} (hheld : c.held = true)
    (hahead : c.lookahead = none) (hcourse : RowSource.course c.source = (rows, none)) :
    c.Delivers (rows.map c.solution) := by
  induction rows generalizing c with
  | nil =>
    rcases hfetch : RowSource.fetchRow.on c.source with ⟨e | _ | row, t⟩
    · rw [RowSource.course_of_error hfetch] at hcourse
      cases hcourse
    · -- The stream is at its end, as the course says.
      obtain ⟨c', hnext⟩ := next_at_end hheld hahead hfetch
      exact .done hnext
    · rw [RowSource.course_of_row hfetch] at hcourse
      cases hcourse
  | cons row rows ih =>
    rcases hfetch : RowSource.fetchRow.on c.source with ⟨e | _ | first, t⟩
    · rw [RowSource.course_of_error hfetch] at hcourse
      cases hcourse
    · rw [RowSource.course_of_end hfetch] at hcourse
      cases hcourse
    · -- The first row of the course is handed out, and the cursor behind it is in the same shape.
      rw [RowSource.course_of_row hfetch] at hcourse
      obtain ⟨hrows, hfault⟩ := Prod.mk.inj hcourse
      obtain ⟨rfl, hrest⟩ := List.cons.inj hrows
      have hbehind : RowSource.course t = (rows, none) := Prod.ext hrest hfault
      exact .step (next_at_row hheld hahead hfetch)
        (ih (c := { c with source := t, delivered := c.delivered + 1 }) hheld hahead hbehind)

end Cursor

/-- An answer of the in-process store just ends. -/
theorem LocalConnection.course_of_open (c : LocalConnection) (columns : List String)
    (rows : List (List Cell)) :
    RowSource.course (⟨c, ⟨columns, rows, true⟩⟩ : LiveRows LocalConnection) = (rows, none) := by
  induction rows with
  | nil => exact RowSource.course_of_end rfl
  | cons row rows ih => rw [RowSource.course_of_row rfl, ih]

/-! ### Reads of a handle -/

namespace Handle

variable {κ α : Type} [Connection κ] {h : Handle κ}

/-- Asked for the text, the connection of the open handle answers with a stream that delivers
these rows under these columns and then ends. -/
structure Delivers (h : Handle κ) (text : String) (columns : List String)
    (rows : List (List Cell)) : Prop where
  isOpen : h.isClosed = false
  answer : ∃ answer c, (Connection.query text h.sendOptions).on h.connection = (.ok answer, c) ∧
    RowSource.columns (⟨c, answer⟩ : LiveRows κ) = columns ∧
      RowSource.course (⟨c, answer⟩ : LiveRows κ) = (rows, none)

omit [Connection κ] in
/-- What is made of the rows is what their use makes of the answer. -/
theorem withRows_of_opened (hopen : h.isClosed = false) {opening : Attempt CallError κ Rows}
    {answer : Rows} {c : κ} (hopening : opening.on h.connection = (.ok answer, c))
    (use : LiveRows κ → Except Error α × LiveRows κ) :
    ((withRows opening use).on h).1 = (use ⟨c, answer⟩).1 := by
  rw [withRows, onConnection_of_open hopen, Attempt.on_of, hopening]

/-- A query that is read to the end gives its rows. -/
theorem queryRows_of_delivers {query : String} {lookup : String → Option Term}
    {columns : List String} {rows : List (List Cell)}
    (hd : h.Delivers (h.sentText query lookup) columns rows) :
    ((queryRows query lookup).on h).1 = .ok rows := by
  obtain ⟨answer, c, hquery, -, hcourse⟩ := hd.answer
  rw [queryRows, Attempt.on_bind, Attempt.on_get]
  dsimp only
  rw [withRows_of_opened hd.isOpen hquery]
  show (RowSource.drain (⟨c, answer⟩ : LiveRows κ)).1.mapError Error.ofQuery = _
  rw [RowSource.drain_of_course hcourse]
  rfl

/-- A construct makes a triple of each row that makes one. -/
theorem construct_of_delivers {query : String} {lookup : String → Option Term}
    {columns : List String} {rows : List (List Cell)}
    (hd : h.Delivers (h.sentText query lookup) columns rows) :
    ((construct query lookup).on h).1 = .ok (rows.filterMap tripleOfRow?) := by
  have hrows := queryRows_of_delivers hd
  rw [construct, Attempt.on_bind]
  rcases hon : (queryRows query lookup).on h with ⟨r, h'⟩
  rw [hon] at hrows
  obtain rfl : r = .ok rows := hrows
  rfl

/-- A read of a pattern makes a triple of each row that fills the pattern. -/
theorem find_of_delivers {p : Pattern} {columns : List String} {rows : List (List Cell)}
    (hd : h.Delivers (h.scope.enumerate p) columns rows) :
    ((find p).on h).1 =
      .ok (rows.filterMap fun row =>
        Matches.triple? p (.ofRow columns row (Cursor.graphTerm h.graphName))) := by
  obtain ⟨answer, c, hquery, hcolumns, hcourse⟩ := hd.answer
  rw [find, findWith, Attempt.on_bind, Attempt.on_get]
  dsimp only
  rw [withCursor, Attempt.on_bind, Attempt.on_get]
  dsimp only
  rw [withRows_of_opened hd.isOpen hquery]
  have hdelivers := Cursor.delivers_of_course
    (c := Cursor.ofStream (⟨c, answer⟩ : LiveRows κ) h.graphName) rfl rfl hcourse
  have hdrain := Matches.drain_of_delivers (p := p) hdelivers
  rw [List.filterMap_map] at hdrain
  rw [← hcolumns]
  exact hdrain

/-- What a construct and a read of a pattern give is made of the rows of the answer, in their
order, and can be written back: each row that makes a triple that can be coded gives that
triple, and no other row gives one. -/
theorem reads_codable (h : Handle κ) :
    (∀ query lookup columns rows, h.Delivers (h.sentText query lookup) columns rows →
        ∃ ts, ((construct query lookup).on h).1 = .ok ts ∧
          Yields (fun row t => t.MadeFrom row) rows ts) ∧
      ∀ p columns rows, h.Delivers (h.scope.enumerate p) columns rows →
        ∃ ts, ((find p).on h).1 = .ok ts ∧ Yields (p.Fills columns) rows ts := by
  constructor
  · intro query lookup columns rows hd
    exact ⟨_, construct_of_delivers hd, yields_filterMap tripleOfRow?_eq_some rows⟩
  · intro p columns rows hd
    exact ⟨_, find_of_delivers hd, yields_filterMap (Matches.triple?_ofRow_iff p) rows⟩

/-- What the store does not understand is answered with the next scripted result. -/
theorem delivers_scripted {h : Handle LocalConnection} (hs : h.Serves) {text : String}
    (htext : Request.ofText text [] = .ok .other) {columns : List String}
    {rows : List (List Cell)} {later : List ResultSet}
    (hscripted : h.connection.scripted = ⟨columns, rows⟩ :: later) :
    h.Delivers text columns rows := by
  have hfaults : (h.connection.record ⟨text, h.sendOptions, []⟩).faults.queries = false := by
    rw [(hs.connection.record _).faults]
  have hnext : (h.connection.record ⟨text, h.sendOptions, []⟩).scripted =
      ⟨columns, rows⟩ :: later := hscripted
  have hquery : ∃ c, (Connection.query text h.sendOptions).on h.connection =
      (.ok ⟨columns, rows, true⟩, c) := by
    -- The text is not understood, so the store takes the next of its scripted answers.
    show ∃ c, LocalConnection.query text h.sendOptions [] h.connection = _
    rw [LocalConnection.query, LocalConnection.whenOpen_of_open hs.connection.isOpen]
    simp only [LocalConnection.runQuery, hfaults, htext, Request.change, Request.answer?, hnext]
    exact ⟨_, rfl⟩
  obtain ⟨c, hc⟩ := hquery
  exact ⟨hs.isOpen, _, c, hc, rfl, LocalConnection.course_of_open c columns rows⟩

/-- A handle whose rule set hides its patterns from the store, with a scripted answer. -/
def scriptedReads (rows : List (List Cell)) : Handle LocalConnection :=
  { connection := { scripted := [⟨["s", "p", "o"], rows⟩] }
    graphName := "urn:g"
    options := { ruleSet := some "r\nq" } }

theorem reads_codable_scripted :
    let rows : List (List Cell) :=
      [[.extended "urn:s" .iri 1, .extended "urn:p" .iri 1, .text "x"], [.text "short"],
        [.text "x", .extended "urn:p" .iri 1, .text "x"], [.null, .null, .null],
        [.extended "urn:s" .iri 1, .extended "urn:p" .iri 1, .integer 3, .text "long"]]
    let h := scriptedReads rows
    h.Delivers (h.sentText "q" fun _ => none) ["s", "p", "o"] rows ∧
      h.Delivers (h.scope.enumerate .any) ["s", "p", "o"] rows ∧
        (∃ ts, ((construct "q" fun _ => none).on h).1 = .ok ts ∧
          Yields (fun row t => t.MadeFrom row) rows ts) ∧
        ∃ ts, ((find .any).on h).1 = .ok ts ∧
          Yields (Pattern.any.Fills ["s", "p", "o"]) rows ts := by
  intro rows h
  have hs : h.Serves := ⟨rfl, rfl, rfl⟩
  have hconstruct : h.Delivers (h.sentText "q" fun _ => none) ["s", "p", "o"] rows :=
    delivers_scripted hs (by decide +kernel) rfl
  have hfind : h.Delivers (h.scope.enumerate .any) ["s", "p", "o"] rows :=
    delivers_scripted hs (by decide +kernel) rfl
  exact ⟨hconstruct, hfind, (reads_codable h).1 _ _ _ _ hconstruct,
    (reads_codable h).2 _ _ _ hfind⟩

end Handle

end QuadClient
