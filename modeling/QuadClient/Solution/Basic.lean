import QuadClient.Coding.Cell
import QuadClient.Text.Json

/-!
# Solutions

A solution binds variables to terms, each variable at most once. The order of the bindings is
the order in which the variables were first bound.
-/

namespace QuadClient

namespace Solution

/-- Binds a name: at its old place if it has one, at the end otherwise. -/
def put (name : String) (t : Term) : List (String × Term) → List (String × Term)
  | [] => [(name, t)]
  -- A name that is bound keeps its place in the order.
  | (k, v) :: r => if k = name then (k, t) :: r else (k, v) :: put name t r

theorem keys_put (name : String) (t : Term) (bs : List (String × Term)) :
    (put name t bs).map Prod.fst =
      if name ∈ bs.map Prod.fst then bs.map Prod.fst else bs.map Prod.fst ++ [name] := by
  induction bs with
  | nil => simp [put]
  | cons b r ih =>
    obtain ⟨k, v⟩ := b
    by_cases h : k = name
    · simp [put, h]
    · have h' : ¬name = k := Ne.symm h
      simp only [put, h, if_false, List.map_cons, ih, List.mem_cons, h', false_or]
      split <;> simp_all

theorem nodup_put (name : String) (t : Term) {bs : List (String × Term)}
    (h : (bs.map Prod.fst).Nodup) : ((put name t bs).map Prod.fst).Nodup := by
  rw [keys_put]
  split
  · exact h
  · next hn =>
    refine List.nodup_append.2 ⟨h, by simp, ?_⟩
    intro a ha b hb
    simp only [List.mem_singleton] at hb
    subst hb
    exact fun e => hn (e ▸ ha)

end Solution

/-- The bindings of one row. -/
structure Solution where
  /-- names and terms, in the order of first binding -/
  bindings : List (String × Term) := []
  /-- no name is bound twice -/
  nodup : (bindings.map Prod.fst).Nodup := by simp
  deriving DecidableEq

namespace Solution

/-- The solution without bindings. -/
def empty : Solution := {}

instance : Inhabited Solution := ⟨empty⟩

/-- Binds a variable; a variable that is bound keeps its place. -/
def bind (s : Solution) (name : String) (t : Term) : Solution :=
  ⟨put name t s.bindings, nodup_put name t s.nodup⟩

/-- The term of a variable. -/
def get? (s : Solution) (name : String) : Option Term :=
  s.bindings.lookup name

/-- Whether a variable is bound. -/
def contains (s : Solution) (name : String) : Bool :=
  (s.get? name).isSome

/-- The bound variables in order. -/
def names (s : Solution) : List String :=
  s.bindings.map Prod.fst

/-- The number of bindings. -/
def size (s : Solution) : Nat :=
  s.bindings.length

/-- Binds one pair after the other; a later term wins. -/
def ofList (bs : List (String × Term)) : Solution :=
  bs.foldl (fun s (name, t) => s.bind name t) empty

/-- A term in the JSON form of query results. -/
def termObject (t : Term) : String :=
  let member (k v : String) : String × String := (k, Text.jsonString v)
  match t with
  | .iri i => Text.jsonObject [member "type" "uri", member "value" i.text]
  | .blank b => Text.jsonObject [member "type" "bnode", member "value" b.text]
  | .literal l =>
    match l.language?, l.shownDatatype? with
    | some tag, _ =>
      Text.jsonObject [member "type" "literal", member "value" l.value, member "xml:lang" tag.text]
    | none, some dt =>
      Text.jsonObject [member "datatype" dt.text, member "type" "literal", member "value" l.value]
    | none, none => Text.jsonObject [member "type" "literal", member "value" l.value]

/-- The row in the JSON form of query results, the variables in code point order. -/
def json (s : Solution) : String :=
  -- No name occurs twice, so the order of the members is fixed.
  let sorted := s.bindings.mergeSort fun a b => decide (a.1 ≤ b.1)
  Text.jsonObject (sorted.map fun (name, t) => (name, termObject t))

/-- The variable that holds the graph of the handle. -/
def graphColumn : String := "graph"

/-- Decodes a row. A column whose cell stands for no term is left unbound; the graph is bound
last. Columns without a cell, and cells without a column, are left out. -/
def ofRow (columns : List String) (row : List Cell) (graph : Option Term) : Solution :=
  let step (s : Solution) (column : String × Cell) : Solution :=
    match column.2.term? with
    | some t => s.bind column.1 t
    | none => s
  let s := (columns.zip row).foldl step empty
  match graph with
  -- The graph wins over a column of the same name.
  | some g => s.bind graphColumn g
  | none => s

end Solution

end QuadClient
