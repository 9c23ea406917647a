import QuadClient.Proofs.Local.Streams

/-!
# Every answer is released

Each read of a graph opens at most one answer and gives it back, whether the read succeeds or not;
an answer that a cursor stands on is given back when a reply ends the reading, or when the cursor
is dropped. So between the reads the store counts as many answers as before, and during a read one
more while the cursor holds its own. A store that is told to fail when an answer is released is
read as any other.
-/

namespace QuadClient

open Attempt (Keeps LooksLike)
open CountsRows (openRows)

/-! ### Reads -/

/-- What is seen of a cursor: the answers that are counted when it is opened, and each reply with
the answers that are counted then. -/
structure Watched (ρ : Type) where
  /-- the count at the opening -/
  opened : Nat
  /-- the replies, each with the count behind it -/
  seen : List (ρ × Nat)

/-- What a read shows. -/
inductive Shown where
  /-- a reader of triples, before it is dropped -/
  | triples (w : Watched Matches.Reply)
  /-- a cursor, before it is dropped -/
  | solutions (w : Watched Cursor.Reply)
  /-- yes or no -/
  | flag (b : Bool)
  /-- a number -/
  | number (n : Nat)
  /-- triples that were built from rows -/
  | built (ts : List Triple)

/-- A read of a graph. A cursor is called a number of times and then dropped. -/
inductive GraphRead where
  /-- the triples that match a pattern -/
  | find (p : Pattern) (calls : List Matches.Call)
  /-- the solutions of a query written by the caller -/
  | select (query : String) (lookup : String → Option Term) (calls : List Cursor.Call)
  /-- whether any triple matches -/
  | contains (p : Pattern)
  /-- the number of triples -/
  | size
  /-- the answer to a question written by the caller -/
  | ask (query : String) (lookup : String → Option Term)
  /-- the triples of a query written by the caller -/
  | construct (query : String) (lookup : String → Option Term)

section Definitions

variable {κ : Type} [Connection κ] [CountsRows κ]

/-- The count beside a cursor. -/
def Cursor.counted (c : Cursor (LiveRows κ)) : Nat :=
  openRows c.source.connection

/-- Calls a cursor and watches the count. -/
def Cursor.watch (calls : List Call) (c : Cursor (LiveRows κ)) :
    Except Error (Watched Reply) × Cursor (LiveRows κ) :=
  let (seen, d) := observe reply counted calls c
  (.ok ⟨c.counted, seen⟩, d)

/-- The count beside a reader of triples. -/
def Matches.counted (m : Matches (LiveRows κ)) : Nat :=
  m.cursor.counted

/-- Calls a reader of triples and watches the count. -/
def Matches.watch (calls : List Call) (m : Matches (LiveRows κ)) :
    Except Error (Watched Reply) × Matches (LiveRows κ) :=
  let (seen, d) := observe reply counted calls m
  (.ok ⟨m.counted, seen⟩, d)

namespace GraphRead

/-- What a read does. -/
def act : GraphRead → GraphAction κ Shown
  | find p calls => do return .triples (← Handle.findWith p (Matches.watch calls))
  | select query lookup calls => do
    return .solutions (← Handle.selectWith query lookup (Cursor.watch calls))
  | contains p => do return .flag (← Handle.contains p)
  | size => do return .number (← Handle.size)
  | ask query lookup => do return .flag (← Handle.ask query lookup)
  | construct query lookup => do return .built (← Handle.construct query lookup)

/-- One read after the other: the outcome of each with the count behind it, and the handle in the
end. -/
def run (reads : List GraphRead) (h : Handle κ) : List (Except Error Shown × Nat) × Handle κ :=
  observe (fun read h => read.act.on h) (fun h => openRows h.connection) reads h

end GraphRead

end Definitions

/-- The counts that a read shows are right: beside this number of others, an answer is counted
from its opening until a reply ends the reading. -/
def Shown.Tallied (n : Nat) : Shown → Prop
  | triples w => w.opened = n + 1 ∧ QuadClient.Tallied Matches.Reply.ends n true w.seen
  | solutions w => w.opened = n + 1 ∧ QuadClient.Tallied Cursor.Reply.ends n true w.seen
  | flag _ | number _ | built _ => True

/-! ### Reads seen through a view -/

section Views

variable {κ κ' : Type} [Connection κ] [CountsRows κ] [Connection κ'] [CountsRows κ']
  {view : κ → κ'} (hv : Connection.SeenThrough view) (hcount : ∀ c, openRows (view c) = openRows c)

include hv hcount

omit [Connection κ] [Connection κ'] hv in
theorem Cursor.counted_through (c : Cursor (LiveRows κ)) :
    counted (c.through (LiveRows.through view)) = c.counted :=
  hcount c.source.connection

/-- Watching a cursor through the view shows the same replies and the same counts. -/
theorem Cursor.watch_through (calls : List Call) (c : Cursor (LiveRows κ)) :
    watch calls (c.through (LiveRows.through view)) =
      ((watch calls c).1, (watch calls c).2.through (LiveRows.through view)) := by
  have hsame := observe_through (reply_through hv.rows) (counted_through hcount) calls c
  unfold watch
  rw [hsame, counted_through hcount]

theorem Matches.watch_through (calls : List Call) (m : Matches (LiveRows κ)) :
    watch calls (m.through (LiveRows.through view)) =
      ((watch calls m).1, (watch calls m).2.through (LiveRows.through view)) := by
  -- A reader of triples counts what the cursor inside it counts.
  have hcounted (m : Matches (LiveRows κ)) :
      counted (m.through (LiveRows.through view)) = m.counted :=
    Cursor.counted_through hcount m.cursor
  have hsame := observe_through (reply_through hv.rows) hcounted calls m
  unfold watch
  rw [hsame, hcounted]

namespace GraphRead

/-- Each read shows the same through the view: the reads of rows as the library makes them, and the
cursors with any calls on them. -/
theorem looksLike_act (read : GraphRead) :
    (read.act : GraphAction κ Shown).LooksLike (Handle.seen view) read.act := by
  cases read with
  | find p calls =>
    exact (Handle.looksLike_findWith hv p (Matches.watch_through hv hcount calls)).bind
      fun _ => Attempt.looksLike_pure _
  | select query lookup calls =>
    exact (Handle.looksLike_selectWith hv query lookup (Cursor.watch_through hv hcount calls)).bind
      fun _ => Attempt.looksLike_pure _
  | contains p => exact (Handle.looksLike_contains hv p).bind fun _ => Attempt.looksLike_pure _
  | size => exact (Handle.looksLike_size hv).bind fun _ => Attempt.looksLike_pure _
  | ask query lookup =>
    exact (Handle.looksLike_ask hv query lookup).bind fun _ => Attempt.looksLike_pure _
  | construct query lookup =>
    exact (Handle.looksLike_construct hv query lookup).bind fun _ => Attempt.looksLike_pure _

/-- So does one read after the other. -/
theorem run_through (reads : List GraphRead) (h : Handle κ) :
    run reads (h.seen view) = ((run reads h).1, (run reads h).2.seen view) :=
  observe_through (fun read h => looksLike_act hv hcount read h)
    (fun h : Handle κ => hcount h.connection) reads h

end GraphRead

end Views

/-! ### Openings and uses -/

namespace Guarded

variable {n : Nat} {α : Type}

/-- The attempt opens an answer, which is counted beside the others, or fails and opens none. -/
def Opens (n : Nat) (a : Attempt CallError Guarded Rows) : Prop :=
  ∀ g, g.Counts n → (∃ e d, a.on g = (.error e, d) ∧ d.Counts n) ∨
    ∃ rows d, a.on g = (.ok rows, d) ∧ Tallies n ⟨d, rows⟩ ∧ rows.isOpen = true

/-- Work before the opening counts nothing; the opening behind it decides. -/
theorem Opens.bind {a : Attempt CallError Guarded α} {f : α → Attempt CallError Guarded Rows}
    (ha : Keeps (Counts n) a fun _ => True) (hf : ∀ x, Opens n (f x)) : Opens n (a >>= f) := by
  intro g hg
  obtain ⟨hkept, -⟩ := ha g hg
  rw [Attempt.on_bind]
  rcases hon : a.on g with ⟨e | x, d⟩
  · rw [hon] at hkept
    -- It failed before anything was opened.
    exact Or.inl ⟨e, d, rfl, hkept⟩
  · rw [hon] at hkept
    exact hf x d hkept

/-- A query that fails leaves the count, and one that succeeds raises it by the answer it gives. -/
theorem opens_query (text : String) (options : SendOptions) (params : List Param) :
    Opens n ((Attempt.of (LocalConnection.query text options params)).zoom inner
      fun inner g => { g with inner }) := by
  intro g hg
  have hcount : g.inner.openRows = n := hg.openRows
  rw [Attempt.on_zoom, Attempt.on_of]
  -- The guard around the connection passes the query on and has nothing to check in it.
  rcases LocalConnection.openRows_query text options params g.inner with
    ⟨e, d, hquery, hd⟩ | ⟨rows, d, hquery, hopen, hd⟩
  · rw [hquery]
    exact Or.inl ⟨e, _, rfl, hd.trans hcount, hg.sound⟩
  · rw [hquery]
    -- The new answer is open, so it is the one that the count has more.
    refine Or.inr ⟨rows, _, rfl, ⟨?_, hg.sound⟩, hopen⟩
    rw [hopen]
    exact hd.trans (congrArg (· + 1) hcount)

/-- To prepare a statement opens nothing, on a closed connection either. -/
theorem keeps_prepare (text : String) (options : SendOptions) :
    Keeps (Counts n) (Connection.prepare text options) fun _ => True := by
  intro g hg
  refine ⟨?_, fun _ _ => trivial⟩
  have hsame : (LocalConnection.prepare text options g.inner).2 = g.inner := by
    cases hopen : g.inner.isClosed with
    | true => rw [LocalConnection.prepare, LocalConnection.whenOpen_of_closed hopen]
    | false => rw [LocalConnection.prepare, LocalConnection.whenOpen_of_open hopen]
  show Counts n { g with inner := (LocalConnection.prepare text options g.inner).2 }
  rw [hsame]
  exact hg

/-- To bind parameters opens nothing. -/
theorem keeps_bindFrom (number : Nat) (st : Prepared) (ps : List Param) :
    Keeps (Counts n) (Handle.bindFrom number st ps) fun _ => True := by
  induction ps generalizing number st with
  | nil => exact Attempt.keeps_pure trivial
  | cons p ps ih =>
    refine Keeps.bind (Q := fun _ => True) (fun g hg => ⟨?_, fun _ _ => trivial⟩) fun st _ =>
      ih (number + 1) st
    cases number with
    | zero => exact hg
    | succ i => exact hg

/-- The use of an answer releases it. -/
def Settles (n : Nat) (use : LiveRows Guarded → Except Error α × LiveRows Guarded)
    (Q : α → Prop) : Prop :=
  ∀ live, Tallies n live → live.rows.isOpen = true →
    Tallies n (use live).2 ∧ (use live).2.rows.isOpen = false ∧ ∀ x, (use live).1 = .ok x → Q x

/-- A read of the first row releases the answer, whatever the row is. -/
theorem settles_firstRow : Settles n Handle.firstRow fun _ => True := by
  intro live h _
  obtain ⟨hclosed, hopen⟩ := close_tallies (fetchRow_tallies h).1
  exact ⟨hclosed, hopen, fun _ _ => trivial⟩

/-- While rows are read the answer stays open and counted. -/
theorem drain_tallies {live : LiveRows Guarded} (h : Tallies n live) :
    Tallies n (RowSource.drain live).2 := by
  have hfetched := (fetchRow_tallies h).1
  fun_induction RowSource.drain live with
  | case1 live e next hfetch =>
    rw [hfetch] at hfetched
    exact hfetched
  | case2 live next hfetch =>
    rw [hfetch] at hfetched
    exact hfetched
  | case3 live row next hfetch r last hrest ih =>
    rw [hfetch] at hfetched
    have hlast := ih hfetched (fetchRow_tallies hfetched).1
    rw [hrest] at hlast
    exact hlast

/-- A read of all rows releases the answer behind the last one or behind the failure. -/
theorem settles_allRows : Settles n Handle.allRows fun _ => True := by
  intro live h _
  obtain ⟨hclosed, hopen⟩ := close_tallies (drain_tallies h)
  exact ⟨hclosed, hopen, fun _ _ => trivial⟩

end Guarded

/-! ### Counts -/

section Counts

open Guarded (Opens Settles)

variable {n : Nat} {α : Type} {Q : α → Prop}

/-- The connection of the handle counts this many answers. -/
def Handle.Counts (n : Nat) (h : Handle Guarded) : Prop :=
  h.connection.Counts n

namespace Handle

/-- What an attempt keeps of the connection it keeps of the connection of a handle. -/
theorem keeps_onConnection_of {κ : Type} {I : κ → Prop} {a : Attempt Error κ α}
    (ha : Keeps I a Q) : Keeps (fun h => I h.connection) (onConnection a) Q := by
  rintro ⟨c, graphName, isClosed, options, resources, listeners⟩ hc
  cases isClosed with
  | true => exact ⟨hc, fun _ => nofun⟩
  | false => exact ha c hc

/-- A read keeps the count: either no answer was opened, or the use of it released it. -/
theorem keeps_withRows_counts {opening : Attempt CallError Guarded Rows}
    {use : LiveRows Guarded → Except Error α × LiveRows Guarded} (hopening : Opens n opening)
    (huse : Settles n use Q) : Keeps (Counts n) (withRows opening use) Q := by
  refine keeps_onConnection_of fun g hg => ?_
  rw [Attempt.on_of]
  rcases hopening g hg with ⟨e, d, hon, hd⟩ | ⟨rows, d, hon, htallies, hopen⟩
  · rw [hon]
    exact ⟨hd, fun _ => nofun⟩
  · obtain ⟨hsettled, hclosed, hshown⟩ := huse _ htallies hopen
    rw [hon]
    refine ⟨?_, hshown⟩
    -- The answer is closed, so it is not counted beside the others any more.
    rw [Guarded.Tallies, hclosed] at hsettled
    exact hsettled

/-- A use of a cursor keeps the count: the drop releases the stream if the use did not. -/
theorem keeps_withCursor_counts {text : String}
    {use : Cursor (LiveRows Guarded) → Except Error α × Cursor (LiveRows Guarded)}
    (huse : ∀ c, c.Tallies n → c.held = true →
      (use c).2.Tallies n ∧ ∀ x, (use c).1 = .ok x → Q x) :
    Keeps (Counts n) (withCursor text use) Q := by
  refine Keeps.bind Attempt.keeps_get fun h _ => ?_
  refine keeps_withRows_counts (Guarded.opens_query _ _ _) fun live h hopen => ?_
  -- The new cursor holds its stream, and the stream is open.
  obtain ⟨hused, hshown⟩ := huse (Cursor.ofStream live _) ⟨hopen, h⟩ rfl
  have hdropped := hused.release
  exact ⟨hdropped.tallies, hdropped.isOpen.trans (Cursor.release_held _), hshown⟩

theorem keeps_queryRows_counts (query : String) (lookup : String → Option Term) :
    Keeps (Counts n) (queryRows query lookup) fun _ => True :=
  Keeps.bind Attempt.keeps_get fun _ _ =>
    keeps_withRows_counts (Guarded.opens_query _ _ _) Guarded.settles_allRows

end Handle

theorem Cursor.watch_tallies (calls : List Call) {c : Cursor (LiveRows Guarded)}
    (h : c.Tallies n) (hheld : c.held = true) :
    (watch calls c).2.Tallies n ∧
      ∀ w, (watch calls c).1 = .ok w → (Shown.solutions w).Tallied n := by
  -- The count has one more exactly while the stream is held.
  have hcounted (c : Cursor (LiveRows Guarded)) (h : c.Tallies n) :
      c.counted = n + c.held.toNat := h.openRows
  obtain ⟨hend, htallied⟩ := tallied_observe (I := Tallies n) (fun call _ h => h.reply call)
    held_reply hcounted calls h
  refine ⟨hend, ?_⟩
  intro w hw
  cases hw
  rw [hheld] at htallied
  -- the opening first, then the replies
  refine ⟨?_, htallied⟩
  show c.counted = n + 1
  rw [hcounted c h, hheld]
  rfl

theorem Matches.watch_tallies (calls : List Call) {m : Matches (LiveRows Guarded)}
    (h : m.cursor.Tallies n) (hheld : m.cursor.held = true) :
    (watch calls m).2.cursor.Tallies n ∧
      ∀ w, (watch calls m).1 = .ok w → (Shown.triples w).Tallied n := by
  have hcounted (m : Matches (LiveRows Guarded)) (h : m.cursor.Tallies n) :
      m.counted = n + m.cursor.held.toNat := h.openRows
  obtain ⟨hend, htallied⟩ := tallied_observe
    (I := fun m : Matches (LiveRows Guarded) => m.cursor.Tallies n)
    (fun call _ h => reply_tallies h call) held_reply hcounted calls h
  -- as for a cursor
  refine ⟨hend, ?_⟩
  intro w hw
  cases hw
  rw [hheld] at htallied
  refine ⟨?_, htallied⟩
  show m.counted = n + 1
  rw [hcounted m h, hheld]
  rfl

namespace GraphRead

/-- A read leaves as many answers counted as it found, and shows the right counts. -/
theorem keeps_act (read : GraphRead) :
    Keeps (Handle.Counts n) read.act fun shown => shown.Tallied n := by
  have hquery (text : String) (options : SendOptions) :
      Opens n (Connection.query text options) := Guarded.opens_query text options []
  cases read with
  -- Cursors are watched while they are called; the drop is the end of either.
  | find p calls =>
    refine Keeps.bind (Q := fun w => (Shown.triples w).Tallied n) ?_ fun w hw =>
      Attempt.keeps_pure hw
    refine Keeps.bind Attempt.keeps_get fun h _ => ?_
    refine Handle.keeps_withCursor_counts fun c h hheld => ?_
    exact Matches.watch_tallies calls (m := ⟨c, p⟩) h hheld
  | select query lookup calls =>
    refine Keeps.bind (Q := fun w => (Shown.solutions w).Tallied n) ?_ fun w hw =>
      Attempt.keeps_pure hw
    refine Keeps.bind Attempt.keeps_get fun h _ => ?_
    refine Handle.keeps_withCursor_counts fun c h hheld => ?_
    exact Cursor.watch_tallies calls h hheld
  -- The other reads release their answer by themselves.
  | contains p =>
    refine Keeps.bind (Q := fun _ => True) ?_ fun _ _ => Attempt.keeps_pure trivial
    refine Keeps.bind Attempt.keeps_get fun h _ => ?_
    exact Keeps.bind (Handle.keeps_withRows_counts (hquery _ _) Guarded.settles_firstRow)
      fun _ _ => Attempt.keeps_pure trivial
  | size =>
    refine Keeps.bind (Q := fun _ => True) ?_ fun _ _ => Attempt.keeps_pure trivial
    refine Keeps.bind Attempt.keeps_get fun h _ => ?_
    -- The count is the one answer that is prepared for before it is opened.
    have hopening : Opens n (do
        let statement ← Connection.prepare (h.scope.count .any).text h.sendOptions
        let statement ← Handle.bindFrom 1 statement (h.scope.count .any).params
        Connection.queryPrepared statement) :=
      Opens.bind (Guarded.keeps_prepare _ _) fun st =>
        Opens.bind (Guarded.keeps_bindFrom 1 st _) fun st =>
          Guarded.opens_query st.text st.options st.params
    refine Keeps.bind (Handle.keeps_withRows_counts hopening Guarded.settles_firstRow)
      fun row _ => ?_
    split
    · exact Attempt.keeps_pure trivial
    · exact Attempt.keeps_throw _
  | ask query lookup =>
    refine Keeps.bind (Q := fun _ => True) ?_ fun _ _ => Attempt.keeps_pure trivial
    exact Keeps.bind (Handle.keeps_queryRows_counts query lookup) fun _ _ =>
      Attempt.keeps_pure trivial
  | construct query lookup =>
    refine Keeps.bind (Q := fun _ => True) ?_ fun _ _ => Attempt.keeps_pure trivial
    exact Keeps.bind (Handle.keeps_queryRows_counts query lookup) fun _ _ =>
      Attempt.keeps_pure trivial

/-- After each of the reads as many answers are counted as before. -/
theorem run_tallies (reads : List GraphRead) {h : Handle Guarded} (hh : h.Counts n) :
    (run reads h).2.Counts n ∧ ∀ seen ∈ (run reads h).1,
      seen.2 = n ∧ ∀ shown, seen.1 = .ok shown → shown.Tallied n := by
  -- One read is the step; a handle that counts right is what it keeps.
  refine observe_keeps (fun read h hh => ?_) reads hh
  obtain ⟨hkept, hshown⟩ := keeps_act read h hh
  exact ⟨hkept, hkept.openRows, hshown⟩

end GraphRead

end Counts

/-! ### Runs of reads -/

/-- The handle on a guarded connection. -/
def Handle.guarded (h : Handle LocalConnection) : Handle Guarded :=
  h.seen fun c => ⟨c, false⟩

/-- The handle, its connection told whether releasing an answer fails. -/
def Handle.closing (fails : Bool) (h : Handle LocalConnection) : Handle LocalConnection :=
  h.seen (LocalConnection.closing fails)

namespace GraphRead

/-- What is so of a sequence of reads on a handle. -/
structure Releases (reads : List GraphRead) (h : Handle LocalConnection) : Prop where
  /-- behind each read as many answers are counted as before, whether it failed or not; and what it
  shows counts one answer more from the opening of a cursor until a reply ends its reading -/
  counts : ∀ seen ∈ (run reads h).1, seen.2 = h.connection.openRows ∧
    ∀ shown, seen.1 = .ok shown → shown.Tallied h.connection.openRows
  /-- in the end as many are counted as in the beginning -/
  balance : (run reads h).2.connection.openRows = h.connection.openRows
  /-- nobody sees that the releases are guarded -/
  guarded : run reads h = ((run reads h.guarded).1, (run reads h.guarded).2.seen Guarded.inner)
  /-- no answer is released that was not counted -/
  sound : (run reads h.guarded).2.connection.underflow = false
  /-- nobody sees whether releases fail: the outcomes are the same, and so is all that is left -/
  closing : ∀ fails, run reads (h.closing fails) =
    ((run reads h).1, (run reads h).2.closing fails)

/-- However a graph is read, on a store with any faults and any scripted results, each answer is
released once its reading has ended, and a release that fails is never visible. -/
theorem run_releases (reads : List GraphRead) (h : Handle LocalConnection) : Releases reads h := by
  -- The guard is taken off in the end, so what is shown of the guarded run holds of the run.
  have hguarded : run reads h =
      ((run reads h.guarded).1, (run reads h.guarded).2.seen Guarded.inner) :=
    run_through Guarded.seenThrough_inner (fun _ => rfl) reads h.guarded
  have hstart : h.guarded.Counts h.connection.openRows := ⟨rfl, rfl⟩
  obtain ⟨hend, hseen⟩ := run_tallies reads hstart
  refine ⟨?_, ?_, hguarded, hend.sound, ?_⟩
  · -- the counts behind the reads and in what they show
    rw [hguarded]
    exact hseen
  · -- the count in the end
    rw [hguarded]
    exact hend.openRows
  · -- Whether releases fail is one more thing that a view hides.
    intro fails
    exact run_through (LocalConnection.seenThrough_closing fails) (fun _ => rfl) reads h

end GraphRead

end QuadClient
