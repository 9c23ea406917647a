/-!
# Templates

The statements with bound parameters that writes are made of. A parameter stands where the
text has two question marks.
-/

namespace QuadClient.Template

/-- The triple of a template: the subject, the predicate and the three object slots. -/
def triple : String :=
  "\x7b `iri(??)` `iri(??)` `bif:__rdf_long_from_batch_params(??,??,??)` \x7d"

/-- Inserts one triple. Parameters: graph, subject, predicate and the three object slots. -/
def insert : String :=
  "sparql insert into graph iri(??) " ++ triple

/-- Deletes one triple, with the same parameters. -/
def delete : String :=
  "sparql delete from graph iri(??) " ++ triple

/-- Removes every triple of a graph. Parameter: the graph. -/
def clear : String :=
  "sparql clear graph iri(??)"

/-- The scope of a count: the graph is a parameter. -/
def graphScope : String :=
  "graph `iri(??)`"

end QuadClient.Template
