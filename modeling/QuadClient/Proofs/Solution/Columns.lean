import QuadClient.Cursor.Scripted
import QuadClient.Proofs.Solution.Row

/-!
# The columns of a row

A row is decoded column by column, and the graph of the handle is bound behind them. Where the
names of the columns are distinct, each column keeps the term of its own cell, in the order of
the columns. One name is shared: a column that is called as the binding of the graph loses its
term to the graph, and the cursor lists its name twice.
-/

namespace QuadClient

namespace Solution

/-! ### Cell by cell -/

/-- Takes in one cell: its column is bound if the cell stands for a term. -/
def decode (s : Solution) (column : String × Cell) : Solution :=
  match column.2.term? with
  | some t => s.bind column.1 t
  | none => s

theorem ofRow_none (columns : List String) (row : List Cell) :
    ofRow columns row none = (columns.zip row).foldl decode empty := rfl

theorem ofRow_some (columns : List String) (row : List Cell) (g : Term) :
    ofRow columns row (some g) = (ofRow columns row none).bind graphColumn g := rfl

/-- The terms of the cells under a name, in the order of the columns. -/
def termsUnder (name : String) (cells : List (String × Cell)) : List Term :=
  cells.filterMap fun c => if c.1 = name then c.2.term? else none

/-- One cell binds its own name, if it stands for a term, and no other. -/
theorem get?_decode (s : Solution) (c : String × Cell) (name : String) :
    (s.decode c).get? name = ((termsUnder name [c]).getLast?).or (s.get? name) := by
  obtain ⟨column, cell⟩ := c
  by_cases hname : column = name
  · cases hterm : cell.term? with
    | none => simp [decode, termsUnder, hterm]
    | some t => simp [decode, termsUnder, hterm, hname]
  · have hne : ¬ name = column := fun e => hname e.symm
    cases hterm : cell.term? with
    | none => simp [decode, termsUnder, hterm]
    | some t => simp [decode, termsUnder, hterm, hname, hne]

/-- A name has the term of the last column that is called so and stands for one. -/
theorem get?_foldl_decode (cells : List (String × Cell)) (s : Solution) (name : String) :
    (cells.foldl decode s).get? name = ((termsUnder name cells).getLast?).or (s.get? name) := by
  induction cells generalizing s with
  | nil => rfl
  | cons c cells ih =>
    have happend : termsUnder name (c :: cells) = termsUnder name [c] ++ termsUnder name cells :=
      List.filterMap_append (l := [c])
    rw [List.foldl_cons, ih, get?_decode, happend, List.getLast?_append, Option.or_assoc]

/-- Without a graph a name has what its columns have. -/
theorem get?_ofRow_none (columns : List String) (row : List Cell) (name : String) :
    (ofRow columns row none).get? name = (termsUnder name (columns.zip row)).getLast? := by
  rw [ofRow_none, get?_foldl_decode, get?_empty, Option.or_none]

/-- The graph is bound last, so its name has the graph. -/
theorem get?_ofRow_some (columns : List String) (row : List Cell) (g : Term) (name : String) :
    (ofRow columns row (some g)).get? name =
      if name = graphColumn then some g else (ofRow columns row none).get? name := by
  rw [ofRow_some, get?_bind]

/-! ### Distinct columns -/

/-- A name that is no column has no term. -/
theorem termsUnder_of_notMem {name : String} {cells : List (String × Cell)}
    (h : name ∉ cells.map Prod.fst) : termsUnder name cells = [] := by
  apply List.filterMap_eq_nil_iff.2
  intro c hc
  have hne : c.1 ≠ name := fun e => h (e ▸ List.mem_map_of_mem hc)
  exact if_neg hne

/-- Under a name that no two columns share there is the term of its own cell alone. -/
theorem termsUnder_of_mem {name : String} {cell : Cell} {cells : List (String × Cell)}
    (hnodup : (cells.map Prod.fst).Nodup) (hc : (name, cell) ∈ cells) :
    termsUnder name cells = cell.term?.toList := by
  induction cells with
  | nil => cases hc
  | cons c cells ih =>
    obtain ⟨hnotin, hrest⟩ := List.nodup_cons.1 hnodup
    rcases List.mem_cons.1 hc with rfl | hc
    · -- The first cell is the one with the name, and no other column is called so.
      have hnone : termsUnder name cells = [] := termsUnder_of_notMem hnotin
      rw [termsUnder] at hnone ⊢
      cases hterm : cell.term? <;> simp [hterm, hnone]
    · -- The first cell is another column, which gives the name no term.
      have hne : c.1 ≠ name := fun e => hnotin (e ▸ List.mem_map_of_mem hc)
      have hskip : termsUnder name (c :: cells) = termsUnder name cells :=
        List.filterMap_cons_none (if_neg hne)
      rw [hskip, ih hrest hc]

/-- Distinct columns are distinct beside their cells. -/
theorem nodup_map_fst_zip {columns : List String} (h : columns.Nodup) (row : List Cell) :
    ((columns.zip row).map Prod.fst).Nodup := by
  induction columns generalizing row with
  | nil => exact List.nodup_nil
  | cons name columns ih =>
    cases row with
    | nil => exact List.nodup_nil
    | cons cell row =>
      obtain ⟨hnotin, hrest⟩ := List.nodup_cons.1 h
      apply List.nodup_cons.2
      refine ⟨?_, ih hrest row⟩
      intro hmem
      obtain ⟨c, hc, rfl⟩ := List.mem_map.1 hmem
      exact hnotin (List.of_mem_zip hc).1

/-- A column that shares its name with no other one is bound to the term of its cell, or is not
bound if the cell stands for none. -/
theorem get?_ofRow_of_mem {columns : List String} {row : List Cell} {name : String} {cell : Cell}
    (h : columns.Nodup) (hc : (name, cell) ∈ columns.zip row) :
    (ofRow columns row none).get? name = cell.term? := by
  rw [get?_ofRow_none, termsUnder_of_mem (nodup_map_fst_zip h row) hc]
  cases cell.term? <;> rfl

/-! ### The names that are bound -/

theorem names_bind (s : Solution) (name : String) (t : Term) :
    (s.bind name t).names = if name ∈ s.names then s.names else s.names ++ [name] :=
  keys_put name t s.bindings

/-- The names of the columns whose cells stand for a term. -/
def decoded (columns : List String) (row : List Cell) : List String :=
  ((columns.zip row).filter fun c => c.2.term?.isSome).map Prod.fst

/-- Distinct names that are not bound yet are bound in their order. -/
theorem names_foldl_decode {cells : List (String × Cell)} (hnodup : (cells.map Prod.fst).Nodup)
    {s : Solution} (hs : ∀ c ∈ cells, c.1 ∉ s.names) :
    (cells.foldl decode s).names =
      s.names ++ (cells.filter fun c => c.2.term?.isSome).map Prod.fst := by
  induction cells generalizing s with
  | nil => simp
  | cons c cells ih =>
    obtain ⟨hnotin, hrest⟩ := List.nodup_cons.1 hnodup
    have hfront : c.1 ∉ s.names := hs c List.mem_cons_self
    have hbehind : ∀ d ∈ cells, d.1 ∉ s.names := fun d hd => hs d (List.mem_cons_of_mem c hd)
    rw [List.foldl_cons]
    cases hterm : c.2.term? with
    | none =>
      have hsame : s.decode c = s := by simp [decode, hterm]
      rw [hsame, ih hrest hbehind, List.filter_cons_of_neg (by simp [hterm])]
    | some t =>
      have hnames : (s.decode c).names = s.names ++ [c.1] := by
        have hbind : s.decode c = s.bind c.1 t := by simp [decode, hterm]
        rw [hbind, names_bind, if_neg hfront]
      -- The names behind this one are free still, since no two columns share one.
      have hfree : ∀ d ∈ cells, d.1 ∉ (s.decode c).names := by
        intro d hd
        rw [hnames, List.mem_append, List.mem_singleton, not_or]
        exact ⟨hbehind d hd, fun e => hnotin (e ▸ List.mem_map_of_mem hd)⟩
      rw [ih hrest hfree, hnames, List.filter_cons_of_pos (by simp [hterm])]
      simp

/-- The columns are bound in their order. -/
theorem names_ofRow_none {columns : List String} (h : columns.Nodup) (row : List Cell) :
    (ofRow columns row none).names = decoded columns row := by
  have hfree : ∀ c ∈ columns.zip row, c.1 ∉ empty.names := by simp [names, empty]
  rw [ofRow_none, names_foldl_decode (nodup_map_fst_zip h row) hfree]
  rfl

end Solution

/-! ### The columns of a cursor -/

namespace Cursor

variable {σ : Type}

/-- What a cursor makes of a row. -/
def solution (c : Cursor σ) (row : List Cell) : Solution :=
  .ofRow c.columns row c.graph

/-- No column is called as the binding of the graph, or no graph is bound. -/
def Apart (c : Cursor σ) : Prop :=
  c.graph = none ∨ Solution.graphColumn ∉ c.columns

/-- How a cursor decodes its rows, and which variables it lists. -/
structure Decodes (c : Cursor σ) : Prop where
  /-- a column has the term of its own cell, unless the graph takes its name -/
  own (row : List Cell) (name : String) (cell : Cell) (hc : (name, cell) ∈ c.columns.zip row)
    (hname : c.graph = none ∨ name ≠ Solution.graphColumn) :
    (c.solution row).get? name = cell.term?
  /-- the graph is bound in every row -/
  graph (row : List Cell) (g : Term) (hg : c.graph = some g) :
    (c.solution row).get? Solution.graphColumn = some g
  /-- the bindings stand in the order of the columns, a graph that is no column behind them -/
  order (row : List Cell) :
    (c.solution row).names =
      let own := Solution.decoded c.columns row
      if c.graph.isSome ∧ Solution.graphColumn ∉ own then own ++ [Solution.graphColumn] else own
  /-- the variables listed are those that some row binds -/
  listed (name : String) :
    name ∈ c.names ↔ ∃ row, row.length = c.columns.length ∧ name ∈ (c.solution row).names
  /-- a variable is listed twice only if it is a column and the binding of the graph -/
  once : c.names.Nodup ↔ c.Apart

variable {c : Cursor σ}

/-- What a name is bound to is told by the columns, but for the name of the graph. -/
theorem get?_solution (c : Cursor σ) (row : List Cell) (name : String) :
    (c.solution row).get? name =
      if name = Solution.graphColumn then
        c.graph.or ((Solution.ofRow c.columns row none).get? name)
      else (Solution.ofRow c.columns row none).get? name := by
  rw [solution]
  cases c.graph with
  | none => simp
  | some g => rw [Solution.get?_ofRow_some]; rfl

/-- A column that does not share its name keeps the term of its cell. -/
theorem get?_solution_of_mem (h : c.columns.Nodup) {row : List Cell} {name : String} {cell : Cell}
    (hc : (name, cell) ∈ c.columns.zip row)
    (hname : c.graph = none ∨ name ≠ Solution.graphColumn) :
    (c.solution row).get? name = cell.term? := by
  have hcell := Solution.get?_ofRow_of_mem h hc
  rw [get?_solution, hcell]
  rcases hname with hgraph | hne
  · simp [hgraph]
  · exact if_neg hne

/-- The names that a row binds: its columns in their order, with the graph behind them if it is not
one of them. -/
theorem names_solution (h : c.columns.Nodup) (row : List Cell) :
    (c.solution row).names =
      let own := Solution.decoded c.columns row
      if c.graph.isSome ∧ Solution.graphColumn ∉ own then own ++ [Solution.graphColumn]
      else own := by
  have hown := Solution.names_ofRow_none h row
  rw [solution]
  cases c.graph with
  | none => simpa using hown
  | some g =>
    rw [Solution.ofRow_some, Solution.names_bind, hown]
    by_cases hg : Solution.graphColumn ∈ Solution.decoded c.columns row <;> simp [hg]

/-- A cursor lists its columns, and the graph if there is one. -/
theorem mem_names {name : String} :
    name ∈ c.names ↔
      name ∈ c.columns ∨ (c.graph.isSome = true ∧ name = Solution.graphColumn) := by
  unfold names
  split
  · next h => simp [h]
  · next h => simp [h]

/-- A row of texts binds every column. -/
theorem decoded_texts (columns : List String) :
    Solution.decoded columns (List.replicate columns.length (.text "")) = columns := by
  have hall : ∀ c ∈ columns.zip (List.replicate columns.length (Cell.text "")),
      c.2.term?.isSome = true := by
    intro c hc
    rw [List.eq_of_mem_replicate (List.of_mem_zip hc).2]
    rfl
  have hlength : columns.length ≤ (List.replicate columns.length (Cell.text "")).length := by
    simp
  rw [Solution.decoded, List.filter_eq_self.2 hall, List.map_fst_zip hlength]

theorem decoded_subset {columns : List String} {row : List Cell} {name : String}
    (h : name ∈ Solution.decoded columns row) : name ∈ columns := by
  obtain ⟨c, hc, rfl⟩ := List.mem_map.1 h
  exact (List.of_mem_zip (List.mem_filter.1 hc).1).1

/-- The variables listed are those that some row binds. -/
theorem mem_names_iff_bound (h : c.columns.Nodup) (name : String) :
    name ∈ c.names ↔ ∃ row, row.length = c.columns.length ∧ name ∈ (c.solution row).names := by
  rw [mem_names]
  constructor
  · -- A row of texts has a term in every column, and so binds all that is listed.
    intro hname
    refine ⟨List.replicate c.columns.length (.text ""), List.length_replicate .., ?_⟩
    rw [names_solution h, decoded_texts]
    rcases hname with hcolumn | ⟨hgraph, rfl⟩
    · dsimp only
      split
      · exact List.mem_append_left _ hcolumn
      · exact hcolumn
    · by_cases hcolumn : Solution.graphColumn ∈ c.columns <;> simp [hgraph, hcolumn]
  · rintro ⟨row, -, hname⟩
    rw [names_solution h] at hname
    dsimp only at hname
    split at hname
    · next hgraph =>
      rcases List.mem_append.1 hname with hown | hlast
      · exact .inl (decoded_subset hown)
      · exact .inr ⟨hgraph.1, List.mem_singleton.1 hlast⟩
    · exact .inl (decoded_subset hname)

/-- The names are listed once each unless the graph is one of the columns. -/
theorem nodup_names_iff (h : c.columns.Nodup) : c.names.Nodup ↔ c.Apart := by
  unfold names Apart
  cases c.graph with
  | none => simpa using h
  | some g =>
    have hlast := (List.perm_append_singleton Solution.graphColumn c.columns).nodup_iff
    rw [List.nodup_cons, and_iff_left h] at hlast
    simpa using hlast

/-- Where no two columns have one name, a row is decoded without loss, but for the term of a
column that is called as the binding of the graph. -/
theorem decodes_of_nodup (c : Cursor σ) (h : c.columns.Nodup) : c.Decodes where
  own _ _ _ hc hname := get?_solution_of_mem h hc hname
  graph row g hg := by simp [get?_solution, hg]
  order := names_solution h
  listed := mem_names_iff_bound h
  once := nodup_names_iff h

theorem decodes_of_nodup_three :
    let c := ofStream ({ columns := ["s", "o", "x"], rows := [] } : Scripted) "urn:g"
    c.columns.Nodup ∧ c.Decodes := by
  have h : ["s", "o", "x"].Nodup := by decide
  exact ⟨h, decodes_of_nodup _ h⟩

/-- A column that is called as the binding of the graph loses its term to the graph, and the
cursor lists its name twice. -/
theorem not_decodes_graphColumn :
    let row : List Cell := [.extended "urn:a" .iri 1, .boxed "x" none none]
    let c := ofStream ({ columns := ["s", "graph"], rows := [row] } : Scripted) "urn:g"
    c.columns.Nodup ∧
      (∃ s, c.next.1 = .ok (some s) ∧ s.get? "graph" ≠ (Cell.boxed "x" none none).term?) ∧
        c.names = ["s", "graph", "graph"] := by
  intro row c
  have hnext : c.next.1 = .ok (some (c.solution row)) := by rfl
  exact ⟨by decide, ⟨_, hnext, by decide⟩, by decide⟩

end Cursor

end QuadClient
