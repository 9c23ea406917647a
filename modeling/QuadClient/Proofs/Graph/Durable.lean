import QuadClient.Graph.Transaction
import QuadClient.Proofs.Graph.Frame
import QuadClient.Proofs.Graph.Read
import QuadClient.Proofs.Local.Durable

/-!
# Operations keep the triples of a store readable

Every operation of a handle keeps the triples of its connection to those that come back as they
are, whatever its outcome is. A batched write sends no triples but those that could be coded.
-/

namespace QuadClient

open Attempt (Keeps)

namespace Handle

/-- The handle stands for this graph, and every triple of its connection comes back as it is. -/
structure Durable (graph : String) (h : Handle LocalConnection) : Prop where
  isOpen : h.isClosed = false
  graphName : h.graphName = graph
  connection : h.connection.Durable

variable {graph : String} {h : Handle LocalConnection}

/-- What such a handle asks its connection for is not refused. -/
theorem Durable.serves (hd : h.Durable graph) : h.Serves := ⟨hd.isOpen, hd.connection.serves⟩

theorem Durable.visible (hd : h.Durable graph) : h.visible.Durable := hd.connection.visible

theorem Durable.notify (hd : h.Durable graph) (e : Event) : (h.notify e).Durable graph :=
  ⟨hd.isOpen, hd.graphName, hd.connection⟩

/-- A handle whose connection keeps its triples keeps them too, since nothing else of it is
touched. -/
theorem keeps_onConnection {α : Type} {Q : α → Prop} {a : Attempt Error LocalConnection α}
    (ha : Keeps LocalConnection.Durable a Q) : Keeps (Durable graph) (onConnection a) Q := by
  intro h hd
  obtain ⟨hc, hx⟩ := ha h.connection hd.connection
  rw [onConnection_of_open hd.isOpen]
  exact ⟨⟨hd.isOpen, hd.graphName, hc⟩, hx⟩

theorem keeps_tell (event : String → Event) :
    Keeps (Durable graph) (tell event : GraphAction LocalConnection Unit) fun _ => True := by
  intro h hd
  exact ⟨hd.notify _, fun _ _ => trivial⟩

/-! ### Single statements -/

/-- A statement that makes a durable change only leaves the triples readable, whether one of the
three calls it takes fails or not. -/
theorem keeps_sendWith (kind : WriteKind) {text : String} {params : List Param}
    (hchange : LocalConnection.DurableChange text params) :
    Keeps (Durable graph) (sendWith kind text params) fun _ => True := by
  -- `prepare` and the binding leave the connection as it was, so that only the last call matters.
  refine Keeps.bind Attempt.keeps_get fun h _ => keeps_onConnection (Keeps.mapError ?_ _)
  refine Keeps.bind (LocalConnection.keeps_prepare text _) ?_
  rintro st rfl
  refine Keeps.bind (LocalConnection.keeps_bindFrom _ params (Nat.zero_le _)) ?_
  rintro st rfl
  exact LocalConnection.keeps_executePrepared hchange

/-- A triple that cannot be coded is sent nowhere; one that can is stored in the form it comes back
in. -/
theorem keeps_sendOne (kind : WriteKind) (t : Triple) :
    Keeps (Durable graph) (sendOne kind t) fun _ => True := by
  unfold sendOne
  split
  · exact Attempt.keeps_throw _
  · next e he =>
    refine Keeps.bind Attempt.keeps_get fun h _ => ?_
    exact keeps_sendWith kind (LocalConnection.durableChange_template kind he _)

/-- Emptying a graph puts nothing in. -/
theorem keeps_emptyGraph (name : String) :
    Keeps (Durable graph) (emptyGraph name) fun _ => True := by
  -- The text of the request is not that of an insertion, and no other text inserts.
  have hne : Template.clear ≠ Template.insert := by decide
  exact keeps_sendWith .delete (LocalConnection.durableChange_of_ne hne _)

/-- None of the three ways in which triples are removed puts one in. -/
theorem keeps_eraseMatching (p : Pattern) :
    Keeps (Durable graph) (eraseMatching p) fun _ => True := by
  refine Keeps.bind Attempt.keeps_get fun h _ => ?_
  split
  · -- No slot is given: the graph is emptied.
    exact keeps_emptyGraph _
  · split
    · -- All slots are given: the one triple is deleted.
      exact keeps_sendOne .delete _
    · -- Some are: the deletion is written out with the pattern.
      exact keeps_onConnection ((LocalConnection.keeps_execute _
        (LocalConnection.durableChange_of_ne (h.scope.erase_ne_insert p) [])).mapError _)

theorem keeps_add (t : Triple) : Keeps (Durable graph) (add t) fun _ => True :=
  Keeps.bind (keeps_sendOne .add t) fun _ _ => keeps_tell _

theorem keeps_delete (t : Triple) : Keeps (Durable graph) (delete t) fun _ => True :=
  Keeps.bind (keeps_sendOne .delete t) fun _ _ => keeps_tell _

theorem keeps_remove (p : Pattern) : Keeps (Durable graph) (remove p) fun _ => True :=
  Keeps.bind (keeps_eraseMatching p) fun _ _ => keeps_tell _

theorem keeps_wipe : Keeps (Durable graph) wipe fun _ => True :=
  Keeps.bind Attempt.keeps_get fun _ _ => keeps_emptyGraph _

theorem keeps_clear : Keeps (Durable graph) clear fun _ => True :=
  Keeps.bind keeps_wipe fun _ _ => keeps_tell _

end Handle

/-! ### Batches -/

/-- A write of triples that can be coded keeps a store readable, one triple after the other. -/
theorem QuadStore.Durable.write {s : QuadStore} (hs : s.Durable) (kind : WriteKind) {g : String}
    {ts : List Triple} (hts : ∀ t ∈ ts, ∃ e, t.encode = .ok e) : (s.write kind g ts).Durable := by
  induction ts generalizing s with
  | nil => exact hs
  | cons t ts ih =>
    obtain ⟨⟨e, he⟩, hrest⟩ := List.forall_mem_cons.1 hts
    rw [QuadStore.write_cons]
    exact ih (hs.apply (kind.durable_change he g)) hrest

namespace Handle

variable {graph : String}

/-- A batched write that fails has sent some of the triples, all of which could be coded: the store
it leaves is the old one with those written. -/
theorem sendAll_durable (kind : WriteKind) (ts : List Triple) {h : Handle LocalConnection}
    (hd : h.Durable graph) : (sendAll kind ts h).2.Durable graph := by
  have hframe := frame_sendAll kind ts h
  have hhandle := sendAll_connection kind ts h
  -- What was sent is a list of codes, whatever became of the write.
  obtain ⟨r, p, h', sent, hsend, -, hcoded, hvisible, -⟩ := sendAll_cases kind ts h
  rw [hsend] at hframe hhandle ⊢
  have hwritten : h'.visible.Durable := by
    rw [hvisible]
    exact hd.visible.write kind hcoded
  exact ⟨(congrArg Handle.isClosed hhandle).trans hd.isOpen,
    (congrArg Handle.graphName hhandle).trans hd.graphName,
    hd.connection.of_frame hframe hwritten⟩

/-- To enter a write at most opens a working copy, which holds what was committed. -/
theorem keeps_enterWrite (kind : WriteKind) :
    Keeps (Durable graph) (enterWrite kind : GraphAction LocalConnection Bool) fun _ => True := by
  refine keeps_onConnection (Keeps.mapError ?_ _)
  refine Keeps.bind LocalConnection.keeps_autoCommit fun auto _ => ?_
  split
  · exact Keeps.bind (LocalConnection.keeps_setAutoCommit false) fun _ _ =>
      Attempt.keeps_pure trivial
  · exact Attempt.keeps_pure trivial

/-- To publish a write commits the working copy, whose triples come back as well. -/
theorem keeps_publishWrite (kind : WriteKind) :
    Keeps (Durable graph) (publishWrite kind : GraphAction LocalConnection Unit)
      fun _ => True :=
  keeps_onConnection (Keeps.mapError (Keeps.bind LocalConnection.keeps_commit fun _ _ =>
    LocalConnection.keeps_setAutoCommit true) _)

/-- To discard a write makes both calls, whatever becomes of the first; each of them keeps the
triples readable. -/
theorem keeps_discardWrite :
    Keeps (Durable graph) (discardWrite : GraphAction LocalConnection Unit) fun _ => True := by
  refine keeps_onConnection ?_
  refine Keeps.bind LocalConnection.keeps_rollback.outcome fun _ _ => ?_
  refine Keeps.bind (LocalConnection.keeps_setAutoCommit true).outcome fun _ _ => ?_
  exact Attempt.keeps_pure trivial

/-- The whole of a batched write, from its three parts. -/
theorem keeps_writeMany (kind : WriteKind) (ts : List Triple) (notify : Bool) :
    Keeps (Durable graph) (writeMany kind ts notify : GraphAction LocalConnection Nat)
      fun _ => True :=
  keeps_writeMany_of (keeps_enterWrite kind) (fun ts _ hd => sendAll_durable kind ts hd)
    (keeps_leaveWrite_of (keeps_publishWrite kind) keeps_discardWrite) (fun e _ hd => hd.notify e)
    ts notify

end Handle

/-! ### Reads -/

namespace Handle

variable {graph : String} {α : Type}

/-- A read keeps what opening its answer, reading the rows and releasing them keep. -/
theorem keeps_withRows {opening : Attempt CallError LocalConnection Rows}
    (hopening : Keeps LocalConnection.Durable opening fun _ => True)
    {use : LiveRows LocalConnection → Except Error α × LiveRows LocalConnection}
    (huse : ∀ live, live.connection.Durable → (use live).2.connection.Durable) :
    Keeps (Durable graph) (withRows opening use) fun _ => True := by
  refine keeps_onConnection fun c hc => ⟨?_, fun _ _ => trivial⟩
  have hopened := (hopening c hc).1
  rw [Attempt.on_of]
  split
  · next hr => rwa [hr] at hopened
  · next rows c' hr =>
    rw [hr] at hopened
    exact huse ⟨c', rows⟩ hopened

/-- Fetching a row from the connection takes it off the open rows and changes no store. -/
theorem durable_fetchRow (live : LiveRows LocalConnection) (hl : live.connection.Durable) :
    ((RowSource.fetchRow (σ := LiveRows LocalConnection)).on live).2.connection.Durable :=
  hl.alike (LocalConnection.alike_fetchRow live (.refl _))

theorem durable_closeRows (live : LiveRows LocalConnection) (hl : live.connection.Durable) :
    ((RowSource.close (σ := LiveRows LocalConnection)).on live).2.connection.Durable :=
  hl.alike (LocalConnection.alike_closeRows live (.refl _))

theorem durable_firstRow (live : LiveRows LocalConnection) (hl : live.connection.Durable) :
    (firstRow live).2.connection.Durable :=
  durable_closeRows _ (durable_fetchRow live hl)

/-- A search sends a text that is not an insertion and otherwise only reads rows. -/
theorem keeps_find (p : Pattern) :
    Keeps (Durable graph) (find p : GraphAction LocalConnection (List Triple))
      fun _ => True := by
  refine Keeps.bind Attempt.keeps_get fun h _ => ?_
  refine Keeps.bind Attempt.keeps_get fun h' _ => ?_
  have hne : h.scope.enumerate p ≠ Template.insert := Statement.text_ne_insert _
  have hquery := LocalConnection.keeps_query h'.sendOptions
    (LocalConnection.durableChange_of_ne hne [])
  refine keeps_withRows hquery fun live hl => ?_
  -- Each row the search draws and the release behind the last one keep `K`.
  let K (l : LiveRows LocalConnection) : Prop := l.connection.Durable
  have hdrained : K (Matches.drain ⟨Cursor.ofStream live h'.graphName, p⟩).2.cursor.source :=
    Matches.drain_keeps durable_fetchRow durable_closeRows hl
  exact Cursor.release_keeps (K := K) durable_closeRows hdrained

theorem keeps_contains (p : Pattern) :
    Keeps (Durable graph) (contains p : GraphAction LocalConnection Bool) fun _ => True := by
  refine Keeps.bind Attempt.keeps_get fun h _ => ?_
  have hne : h.scope.any p ≠ Template.insert := Statement.text_ne_insert _
  have hquery := LocalConnection.keeps_query h.sendOptions
    (LocalConnection.durableChange_of_ne hne [])
  exact Keeps.bind (keeps_withRows hquery durable_firstRow) fun _ _ => Attempt.keeps_pure trivial

/-- A count sends a text that is not an insertion; what its row says does not matter. -/
theorem keeps_size :
    Keeps (Durable graph) (size : GraphAction LocalConnection Nat) fun _ => True := by
  refine Keeps.bind Attempt.keeps_get fun h _ => ?_
  have hne : (h.scope.count .any).text ≠ Template.insert := Statement.countText_ne_insert _
  -- The count is prepared and bound, where the other reads send their text at once.
  have hopening : Keeps LocalConnection.Durable (do
      let statement ← Connection.prepare (h.scope.count .any).text h.sendOptions
      let statement ← bindFrom 1 statement (h.scope.count .any).params
      Connection.queryPrepared statement : Attempt CallError LocalConnection Rows)
      fun _ => True := by
    refine Keeps.bind (LocalConnection.keeps_prepare _ _) ?_
    rintro st rfl
    refine Keeps.bind (LocalConnection.keeps_bindFrom _ _ (Nat.zero_le _)) ?_
    rintro st rfl
    exact LocalConnection.keeps_queryPrepared (LocalConnection.durableChange_of_ne hne _)
  refine Keeps.bind (keeps_withRows hopening durable_firstRow) fun row _ => ?_
  split
  · exact Attempt.keeps_pure trivial
  · exact Attempt.keeps_throw _

end Handle

/-! ### Transactions -/

namespace Transaction

variable {graph : String} {α : Type}

/-- Every triple of the connection of the transaction's handle comes back as it is. -/
def Durable (graph : String) (t : Transaction LocalConnection) : Prop :=
  t.handle.Durable graph

theorem keeps_onHandle {Q : α → Prop} {a : GraphAction LocalConnection α}
    (ha : Keeps (Handle.Durable graph) a Q) : Keeps (Durable graph) (onHandle a) Q :=
  ha.zoom (fun _ ht => ht) fun _ _ _ hh => hh

theorem keeps_onConnection {Q : α → Prop} {a : Attempt Error LocalConnection α}
    (ha : Keeps LocalConnection.Durable a Q) : Keeps (Durable graph) (onConnection a) Q :=
  keeps_onHandle (Handle.keeps_onConnection ha)

theorem keeps_supportsTransactions :
    Keeps (Durable graph) (supportsTransactions : TransactionAction LocalConnection Bool)
      fun _ => True := by
  refine Keeps.bind Attempt.keeps_get fun t _ => ?_
  split
  · exact Attempt.keeps_pure trivial
  · refine Keeps.bind (keeps_onConnection
      (LocalConnection.keeps_supportsTransactions.mapError _)) fun b _ => ?_
    exact Keeps.bind (Attempt.keeps_modify fun _ ht => ht) fun _ _ => Attempt.keeps_pure trivial

theorem keeps_require (name : String) :
    Keeps (Durable graph) (require name : TransactionAction LocalConnection Unit)
      fun _ => True := by
  refine Keeps.bind keeps_supportsTransactions fun b _ => ?_
  split
  · exact Attempt.keeps_throw _
  · exact Attempt.keeps_pure trivial

/-- Guarded calls keep what they keep by themselves: the rollback after a failure drops triples
only. -/
theorem keeps_guarded (phase : Phase) {calls : Attempt CallError LocalConnection Unit}
    (hcalls : Keeps LocalConnection.Durable calls fun _ => True) :
    Keeps (Durable graph) (guarded phase calls) fun _ => True := by
  refine Keeps.bind (keeps_onConnection hcalls.outcome) fun r _ => ?_
  split
  · exact Attempt.keeps_pure trivial
  · -- The calls failed. The rollback is tried, and an error is given whether it succeeds or not.
    refine Keeps.bind (keeps_onConnection LocalConnection.keeps_rollback.outcome) fun r _ => ?_
    split
    · exact Attempt.keeps_throw _
    · exact Attempt.keeps_throw _

/-- To begin sets the isolation level, if there is one, and opens a working copy. -/
theorem keeps_begin :
    Keeps (Durable graph) (begin : TransactionAction LocalConnection Unit) fun _ => True := by
  refine Keeps.bind (keeps_require _) fun _ _ => keeps_guarded .begin ?_
  have hswitch : Keeps LocalConnection.Durable (do
      if ← Connection.autoCommit then Connection.setAutoCommit false :
        Attempt CallError LocalConnection Unit) fun _ => True := by
    refine Keeps.bind LocalConnection.keeps_autoCommit fun auto _ => ?_
    split
    · exact LocalConnection.keeps_setAutoCommit false
    · exact Attempt.keeps_pure trivial
  refine Keeps.bind LocalConnection.keeps_isolation fun level _ => ?_
  split
  · exact Keeps.bind (LocalConnection.keeps_setIsolation _) fun _ _ => hswitch
  · exact hswitch

/-- To commit and to return to autocommit behind it, under the guard of either phase. -/
theorem keeps_publish (phase : Phase) :
    Keeps (Durable graph) (guarded phase do
      Connection.commit
      Connection.setAutoCommit true : TransactionAction LocalConnection Unit) fun _ => True :=
  keeps_guarded phase (Keeps.bind LocalConnection.keeps_commit fun _ _ =>
    LocalConnection.keeps_setAutoCommit true)

theorem keeps_commit :
    Keeps (Durable graph) (commit : TransactionAction LocalConnection Unit) fun _ => True :=
  Keeps.bind (keeps_require _) fun _ _ => keeps_publish .commit

/-- An abort rolls back first and commits what is left, which is what was committed before. -/
theorem keeps_abort :
    Keeps (Durable graph) (abort : TransactionAction LocalConnection Unit) fun _ => True := by
  refine Keeps.bind (keeps_require _) fun _ _ => ?_
  refine Keeps.bind (keeps_onConnection (LocalConnection.keeps_rollback.mapError _)) fun _ _ => ?_
  exact keeps_publish .abort

end Transaction

end QuadClient
