import QuadClient.Proofs.Graph.Durable

/-!
# Runs of a handle

A run is any sequence of operations on a handle and of steps of a transaction on it, whatever
becomes of each. Between them the settings of the handle may change, and the control of the
transactions may be taken up anew.
-/

namespace QuadClient

open Attempt (Keeps)

/-- What a handle can be asked to do with triples and patterns. -/
inductive Operation where
  /-- adds or deletes one triple -/
  | write (kind : WriteKind) (t : Triple)
  /-- adds or deletes triples in batches -/
  | writeMany (kind : WriteKind) (ts : List Triple) (notify : Bool)
  /-- removes every triple that matches -/
  | remove (p : Pattern)
  /-- empties the graph without telling anyone -/
  | wipe
  /-- empties the graph -/
  | clear
  /-- reads the triples that match -/
  | find (p : Pattern)
  /-- asks whether any triple matches -/
  | contains (p : Pattern)
  /-- asks for the number of triples -/
  | size

/-- What an operation gives when it succeeds. -/
inductive Answer where
  /-- nothing but the success -/
  | done
  /-- a number of triples -/
  | number (n : Nat)
  /-- the triples that were read -/
  | triples (ts : List Triple)
  /-- whether there was a match -/
  | truth (b : Bool)
  deriving DecidableEq

/-- The operation on a handle. -/
def Operation.act {κ : Type} [Connection κ] : Operation → GraphAction κ Answer
  | write .add t => do Handle.add t; return .done
  | write .delete t => do Handle.delete t; return .done
  | writeMany kind ts notify => do return .number (← Handle.writeMany kind ts notify)
  | remove p => do Handle.remove p; return .done
  | wipe => do Handle.wipe; return .done
  | clear => do Handle.clear; return .done
  | find p => do return .triples (← Handle.find p)
  | contains p => do return .truth (← Handle.contains p)
  | size => do return .number (← Handle.size)

/-- A step of a run. -/
inductive Step where
  /-- an operation of the handle -/
  | operation (o : Operation)
  /-- a transaction begins -/
  | begin
  /-- the work of the transaction is published -/
  | commit
  /-- the work of the transaction is discarded -/
  | abort
  /-- the settings of the handle change -/
  | configure (options : ReadOptions) (resources : Resources)
  /-- the control of transactions is taken up anew -/
  | renew

/-- The handle and the control of its transactions once a step was taken, well or not. -/
def Step.after {κ : Type} [Connection κ] (t : Transaction κ) : Step → Transaction κ
  | operation o => ((Transaction.onHandle o.act).on t).2
  | begin => (Transaction.begin.on t).2
  | commit => (Transaction.commit.on t).2
  | abort => (Transaction.abort.on t).2
  | configure options resources => { t with handle := { t.handle with options, resources } }
  | renew => { t with supported := none }

/-- The handle and the control of its transactions after a run. -/
def Step.run {κ : Type} [Connection κ] (steps : List Step) (t : Transaction κ) :
    Transaction κ :=
  steps.foldl Step.after t

variable {graph : String}

/-- An operation keeps the triples of the connection to those that come back as they are. -/
theorem Operation.keeps_act (o : Operation) :
    Keeps (Handle.Durable graph) (o.act : GraphAction LocalConnection Answer)
      fun _ => True := by
  -- Each operation is a call of the handle that keeps them, and its value is put into an answer.
  cases o with
  | write kind t =>
    cases kind with
    | add => exact Keeps.bind (Handle.keeps_add t) fun _ _ => Attempt.keeps_pure trivial
    | delete => exact Keeps.bind (Handle.keeps_delete t) fun _ _ => Attempt.keeps_pure trivial
  | writeMany kind ts notify =>
    exact Keeps.bind (Handle.keeps_writeMany kind ts notify) fun _ _ => Attempt.keeps_pure trivial
  | remove p => exact Keeps.bind (Handle.keeps_remove p) fun _ _ => Attempt.keeps_pure trivial
  | wipe => exact Keeps.bind Handle.keeps_wipe fun _ _ => Attempt.keeps_pure trivial
  | clear => exact Keeps.bind Handle.keeps_clear fun _ _ => Attempt.keeps_pure trivial
  | find p => exact Keeps.bind (Handle.keeps_find p) fun _ _ => Attempt.keeps_pure trivial
  | contains p => exact Keeps.bind (Handle.keeps_contains p) fun _ _ => Attempt.keeps_pure trivial
  | size => exact Keeps.bind Handle.keeps_size fun _ _ => Attempt.keeps_pure trivial

/-- One step keeps the triples of the connection to those that come back as they are. -/
theorem Step.after_durable {t : Transaction LocalConnection} (ht : t.Durable graph)
    (step : Step) : (step.after t).Durable graph := by
  cases step with
  | operation o => exact (Transaction.keeps_onHandle o.keeps_act t ht).1
  | begin => exact (Transaction.keeps_begin t ht).1
  | commit => exact (Transaction.keeps_commit t ht).1
  | abort => exact (Transaction.keeps_abort t ht).1
  -- The settings say how reads are answered, and hold no triple.
  | configure options resources => exact ⟨ht.isOpen, ht.graphName, ht.connection⟩
  | renew => exact ht

/-- A run keeps what each of its steps keeps. -/
theorem Step.run_durable (steps : List Step) {t : Transaction LocalConnection}
    (ht : t.Durable graph) : (run steps t).Durable graph := by
  unfold run
  induction steps generalizing t with
  | nil => exact ht
  | cons step steps ih => exact ih (step.after_durable ht)

/-! ### The start of a run -/

namespace LocalConnection

/-- Publishes triples in several graphs without a statement. -/
def seedAll (seeds : List (String × List Triple)) (c : LocalConnection) : LocalConnection :=
  seeds.foldl (fun c seed => c.seed seed.1 seed.2) c

/-- A connection that holds nothing yet. -/
structure Fresh (c : LocalConnection) : Prop where
  serves : c.Serves
  committed : c.committed = .empty
  working : c.working = none

/-- A connection that holds nothing has nothing to keep. -/
theorem Fresh.durable {c : LocalConnection} (hc : c.Fresh) : c.Durable := by
  refine ⟨hc.serves, ?_, ?_⟩
  · rw [hc.committed]
    exact QuadStore.durable_empty
  · intro s hs
    rw [hc.working] at hs
    cases hs

/-- Triples that come back as they are may be added one after the other. -/
theorem durable_insertAll {s : QuadStore} (hs : s.Durable) (graph : String) {ts : List Triple}
    (hts : ∀ t ∈ ts, t.Durable) : (ts.foldl (fun s t => (s.insert graph t).2) s).Durable := by
  induction ts generalizing s with
  | nil => exact hs
  | cons t ts ih =>
    exact ih (hs.insert (hts t (by simp))) fun u hu => hts u (by simp [hu])

theorem Durable.seed {c : LocalConnection} (hc : c.Durable) (graph : String) {ts : List Triple}
    (hts : ∀ t ∈ ts, t.Durable) : (c.seed graph ts).Durable :=
  ⟨⟨hc.serves.faults, hc.serves.isOpen⟩, durable_insertAll hc.committed graph hts, hc.working⟩

/-- Triples that may be stored can be seeded into one graph after the other. -/
theorem Durable.seedAll {c : LocalConnection} (hc : c.Durable)
    {seeds : List (String × List Triple)} (hseeds : ∀ seed ∈ seeds, ∀ t ∈ seed.2, t.Durable) :
    (c.seedAll seeds).Durable := by
  unfold LocalConnection.seedAll
  induction seeds generalizing c with
  | nil => exact hc
  | cons seed seeds ih =>
    exact ih (hc.seed seed.1 (hseeds seed (by simp))) fun s hs => hseeds s (by simp [hs])

end LocalConnection

end QuadClient
