import QuadClient.Graph.Write
import QuadClient.Local.Basic
import QuadClient.Proofs.Coding.RoundTrip
import QuadClient.Proofs.Statement.ReadBack
import QuadClient.Proofs.Store.Contents

/-!
# What the statements of the library change

Each statement that a write is made of is one change of the store: a template with the
parameters of a triple inserts or removes the triple that the store keeps for it, the template
of a cleared graph empties the graph, and the statement of a deletion sweeps its matches out.
-/

namespace QuadClient

/-- The change that a write makes for a triple. -/
def WriteKind.change (kind : WriteKind) (graph : String) (t : Triple) : Change :=
  match kind with
  | .add => .insert graph t
  | .delete => .remove graph t

namespace Request

theorem ofText_insert (params : List Param) : ofText Template.insert params = .ok .insert :=
  if_pos rfl

theorem ofText_delete (params : List Param) : ofText Template.delete params = .ok .delete := by
  have hinsert : Template.delete ≠ Template.insert := by decide
  rw [ofText, if_neg hinsert, if_pos rfl]

theorem ofText_clear (params : List Param) : ofText Template.clear params = .ok .clear := by
  have hinsert : Template.clear ≠ Template.insert := by decide
  have hdelete : Template.clear ≠ Template.delete := by decide
  rw [ofText, if_neg hinsert, if_neg hdelete, if_pos rfl]

/-- Whatever a selection is read as, it is answered and makes no change. -/
theorem change_of_selection {counting : Bool} {params : List Param} {b : List Char}
    {request : Request} (h : selection counting params b = .ok request) :
    request.change params = .ok .none := by
  unfold selection at h
  cases hscope : scope? params b with
  | error e =>
    rw [hscope] at h
    cases h
  | ok scope =>
    rw [hscope] at h
    dsimp only [bind, Except.bind] at h
    -- It is a count, a search in its scope, or a text that is not understood.
    split at h
    · cases h
      rfl
    · split at h
      · cases h
        rfl
      · split at h
        · cases h
          rfl
        · cases h
          rfl

/-- A statement that opens as a selection changes nothing, whatever comes behind. -/
theorem change_of_select {s : Statement} (hds : s.OneLine)
    (hbody : "select".toList <+: s.body.toList) {params : List Param} {request : Request}
    (h : ofText s.text params = .ok request) : request.change params = .ok .none := by
  obtain ⟨r, hr⟩ := hbody
  obtain ⟨t, hfirst⟩ := head_body_block hds r
  -- A statement that opens so is not a deletion, whose first word begins with another letter.
  have hdelete : "delete from graph <".toList.isPrefixOf? ('s' :: t) = none := by
    simp [Text.isPrefixOf?_cons]
  rw [ofText_of_body, ← hr, hfirst, hdelete] at h
  exact change_of_selection h

end Request

namespace Scope

variable {s : Scope} {p : Pattern} {params : List Param} {request : Request}

/-! ### Reads -/

theorem opens_append {opening text : String} (h : "select".toList <+: opening.toList) :
    "select".toList <+: (opening ++ text).toList := by
  rw [String.toList_append]
  exact h.trans (List.prefix_append _ _)

theorem selectAnywhere_opens (p : Pattern) : "select".toList <+: (selectAnywhere p).toList := by
  have hopening : "select".toList <+: "select * where \x7b ".toList := by decide
  exact opens_append (opens_append hopening)

/-- A search that the library writes is a selection, in one graph or in all. -/
theorem select_opens (s : Scope) (p : Pattern) : "select".toList <+: (s.select p).toList := by
  have hopening : "select".toList <+: "select * where \x7b graph <".toList := by decide
  unfold select
  split
  · exact selectAnywhere_opens p
  · exact opens_append (opens_append (opens_append (opens_append hopening)))

/-- However many lines the name of the graph has, a search asks for no change. -/
theorem change_enumerate (ho : ∀ rules, s.options.ruleSet = some rules → '\n' ∉ rules.toList)
    (h : Request.ofText (s.enumerate p) params = .ok request) :
    request.change params = .ok .none := by
  have hopening : "select".toList <+: "select * from <".toList := by decide
  unfold enumerate at h
  refine Request.change_of_select ((Statement.oneLine_ofBody _).reading ho) ?_ h
  rw [Statement.body_reading, Statement.body_ofBody]
  split
  · exact selectAnywhere_opens p
  · exact opens_append (opens_append (opens_append (opens_append hopening)))

/-- However many lines the name has, the question for a match asks for no change either. -/
theorem change_any (ho : ∀ rules, s.options.ruleSet = some rules → '\n' ∉ rules.toList)
    (h : Request.ofText (s.any p) params = .ok request) : request.change params = .ok .none := by
  unfold any at h
  refine Request.change_of_select
    (((Statement.oneLine_ofBody _).add Request.storage_oneLine).reading ho) ?_ h
  rw [Statement.body_reading, Statement.body_add, Statement.body_ofBody]
  exact opens_append (select_opens s p)

end Scope

namespace LocalConnection

theorem changeOf_of_ofText {text : String} {params : List Param} {request : Request}
    (h : Request.ofText text params = .ok request) :
    changeOf text params = request.change params := by
  rw [changeOf, h]
  rfl

/-- The template of a write, with the parameters of a triple, makes the change of the stored
triple. -/
theorem changeOf_template (kind : WriteKind) {t : Triple} {e : TripleCode}
    (he : t.encode = .ok e) (graph : String) :
    changeOf kind.template (e.params graph) = .ok (kind.change graph t.stored) := by
  have hparams := Request.tripleParams_params he graph
  cases kind with
  | add =>
    rw [WriteKind.template, changeOf_of_ofText (Request.ofText_insert _), Request.change, hparams]
    rfl
  | delete =>
    rw [WriteKind.template, changeOf_of_ofText (Request.ofText_delete _), Request.change, hparams]
    rfl

/-- The template that clears makes the change that empties the graph. -/
theorem changeOf_clear (graph : String) :
    changeOf Template.clear [.text graph] = .ok (.clear graph) := by
  rw [changeOf_of_ofText (Request.ofText_clear _)]
  rfl

/-- The text of a deletion sweeps the matches of its pattern out of the graph. -/
theorem changeOf_erase (g : Iri) (o : ReadOptions) {p : Pattern} (hp : p.Legible)
    (hfree : ∀ t ∈ p.terms, t.FreeOfWhere) (params : List Param) :
    changeOf (Scope.erase ⟨g.text, o⟩ p) params = .ok (.sweep g.text p) := by
  rw [changeOf_of_ofText (Request.ofText_erase g hp hfree params)]
  rfl

end LocalConnection

end QuadClient
