import QuadClient.Store.Partition

/-!
# The quad store

A store maps the name of a graph to the triples in it. A graph that holds nothing is the same
as a graph that is not there. No order of the triples is promised.
-/

namespace QuadClient

/-- The triples of every graph. -/
structure QuadStore where
  /-- the graphs by name -/
  graphs : Std.HashMap String Partition := ∅

namespace QuadStore

/-- The store without triples. -/
def empty : QuadStore := {}

instance : Inhabited QuadStore := ⟨empty⟩

/-- The triples of one graph. -/
def graph (s : QuadStore) (name : String) : Partition :=
  s.graphs.getD name {}

/-- Whether a graph holds a triple. -/
def contains (s : QuadStore) (name : String) (t : Triple) : Bool :=
  (s.graphs[name]?).any fun p => p.triples.contains t

/-- Adds a triple to a graph, and says whether it was new there. -/
def insert (s : QuadStore) (name : String) (t : Triple) : Bool × QuadStore :=
  if s.contains name t then (false, s)
  else (true, { graphs := s.graphs.alter name fun p => some ((p.getD {}).insert t) })

/-- Takes a triple out of a graph, and says whether it was there. -/
def remove (s : QuadStore) (name : String) (t : Triple) : Bool × QuadStore :=
  if s.contains name t then (true, { graphs := s.graphs.modify name fun p => p.erase t })
  else (false, s)

/-- The triples of a graph that a pattern accepts. -/
def matching (s : QuadStore) (name : String) (pattern : Pattern) : List Triple :=
  match s.graphs[name]? with
  | some p => p.matching pattern
  | none => []

/-- Takes out of a graph every triple that a pattern accepts, and counts them. -/
def sweep (s : QuadStore) (name : String) (pattern : Pattern) : Nat × QuadStore :=
  -- The matches are fixed before the first of them goes.
  let doomed := s.matching name pattern
  (doomed.length, { graphs := s.graphs.modify name fun p => doomed.foldl Partition.erase p })

/-- Takes every triple out of a graph. -/
def dropGraph (s : QuadStore) (name : String) : QuadStore :=
  { graphs := s.graphs.erase name }

/-- The number of triples in a graph. -/
def graphSize (s : QuadStore) (name : String) : Nat :=
  match s.graphs[name]? with
  | some p => p.size
  | none => 0

/-- The number of triples in all graphs; a triple counts once for each graph it is in. -/
def size (s : QuadStore) : Nat :=
  s.graphs.toList.foldl (fun n (_, p) => n + p.size) 0

/-- Whether no graph holds a triple. -/
def isEmpty (s : QuadStore) : Bool :=
  s.size == 0

/-- The triples that a pattern accepts in one graph, or in all of them, each with the name of
the graph that holds it. -/
def query (s : QuadStore) (name : Option String) (pattern : Pattern) : List (String × Triple) :=
  match name with
  | some name => (s.matching name pattern).map (name, ·)
  | none => s.graphs.toList.flatMap fun (name, p) => (p.matching pattern).map (name, ·)

end QuadStore

end QuadClient
