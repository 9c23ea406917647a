import QuadClient.Proofs.Text.Lines
import QuadClient.Proofs.Text.Search
import QuadClient.Statement.Request

/-!
# The body of a statement

What a statement asks for depends on its body alone. The lines of the directives are passed
over, whatever rule set they name, and the header tells a statement from the templates.
-/

namespace QuadClient

open QuadClient.Text

/-! ### The block of directives -/

namespace Directive

/-- What is inserted is among the directives, with those that were there. -/
theorem mem_insert {d e : Directive} {ds : List Directive} :
    e ∈ d.insert ds ↔ e = d ∨ e ∈ ds := by
  induction ds with
  | nil => simp [insert]
  | cons f ds ih =>
    simp only [insert]
    split
    · simp
    · rw [List.mem_cons, ih, List.mem_cons, or_left_comm]

/-- A directive opens with the word that says it is one, and is more than that word. -/
theorem text_eq (d : Directive) :
    ∃ c rest, d.text.toList = "define ".toList ++ c :: rest := by
  cases d with
  | storage name =>
    refine ⟨'i', "nput:storage \"".toList ++ (name.toList ++ ['"']), ?_⟩
    show ("define input:storage \"" ++ name ++ "\"").toList = _
    simp
  | inference rules =>
    refine ⟨'i', "nput:inference '".toList ++ (rules.toList ++ ['\'']), ?_⟩
    show ("define input:inference '" ++ rules ++ "'").toList = _
    simp
  | sameAs =>
    refine ⟨'i', "nput:same-as \"yes\"".toList, ?_⟩
    show "define input:same-as \"yes\"".toList = _
    simp
  | implicitGraph graph =>
    refine ⟨'i', "nput:default-graph-uri <".toList ++ (graph.toList ++ ['>']), ?_⟩
    show ("define input:default-graph-uri <" ++ graph ++ ">").toList = _
    simp

end Directive

namespace Statement

@[simp] theorem body_ofBody (b : String) : (ofBody b).body = b := rfl

@[simp] theorem body_add (s : Statement) (d : Directive) : (s.add d).body = s.body := rfl

@[simp] theorem body_reading (s : Statement) (o : ReadOptions) : (s.reading o).body = s.body := by
  unfold reading
  cases o.ruleSet <;> cases o.sameAs <;> rfl

/-- Every directive stands on one line. -/
def OneLine (s : Statement) : Prop :=
  ∀ d ∈ s.directives, '\n' ∉ d.text.toList

/-- A body without directives brings no line feed into them. -/
theorem oneLine_ofBody (b : String) : (ofBody b).OneLine := by
  intro d hd
  cases hd

/-- A directive of one line may be put among others of one line. -/
theorem OneLine.add {s : Statement} (hs : s.OneLine) {d : Directive} (hd : '\n' ∉ d.text.toList) :
    (s.add d).OneLine := by
  intro e he
  rcases Directive.mem_insert.1 he with rfl | he
  · exact hd
  · exact hs e he

/-- Only the name of a rule set could bring a line feed into the directives of a read. -/
theorem OneLine.reading {s : Statement} (hs : s.OneLine) {o : ReadOptions}
    (ho : ∀ rules, o.ruleSet = some rules → '\n' ∉ rules.toList) : (s.reading o).OneLine := by
  have hinference : ∀ rules, o.ruleSet = some rules →
      '\n' ∉ (Directive.inference rules).text.toList := by
    intro rules hrules
    show '\n' ∉ ("define input:inference '" ++ rules ++ "'").toList
    simpa using ho rules hrules
  have hsame : '\n' ∉ Directive.sameAs.text.toList := by
    show '\n' ∉ "define input:same-as \"yes\"".toList
    simp
  unfold Statement.reading
  cases hrules : o.ruleSet with
  -- Without a rule set the only directive that may be there is a fixed text.
  | none =>
    cases o.sameAs with
    | true => exact hs.add hsame
    | false => exact hs
  | some rules =>
    cases o.sameAs with
    | true => exact (hs.add (hinference rules hrules)).add hsame
    | false => exact hs.add (hinference rules hrules)

end Statement

namespace Request

/-- A line that opens with the word of directives is one. -/
theorem isDirective_append (r : List Char) : isDirective ("define ".toList ++ r) = true := by
  have h : isBlank 'd' = false := by decide
  have ht : trimStart ("define ".toList ++ r) = "define ".toList ++ r := trimStart_cons_of_not h
  rw [isDirective, ht, List.isPrefixOf_iff_prefix]
  exact List.prefix_append _ _

/-- The text of a directive is a line that is known as one, with or without a return at its end. -/
theorem isDirective_text (d : Directive) : isDirective (dropReturn d.text.toList) = true := by
  obtain ⟨c, rest, htext⟩ := d.text_eq
  obtain ⟨rest', hdrop⟩ := dropReturn_append (a := "define ".toList) (List.cons_ne_nil c rest)
  rw [htext, hdrop]
  exact isDirective_append rest'

/-- A body that stands alone on its line and that no reader of lines mistakes for something
else. -/
structure IsBody (b : List Char) : Prop where
  no_feed : '\n' ∉ b
  first : ∃ c, b.head? = some c ∧ isBlank c = false
  last : ∃ c, b.getLast? = some c ∧ isBlank c = false
  no_directive : isDirective b = false

/-- Lines of directives are passed over. -/
theorem filter_lines_block {ds : List Directive} (hds : ∀ d ∈ ds, '\n' ∉ d.text.toList)
    (b : List Char) :
    (lines ((Statement.block ds).toList ++ b)).filter (fun line => !isDirective line) =
      (lines b).filter (fun line => !isDirective line) := by
  induction ds with
  | nil => rfl
  | cons d ds ih =>
    have hd : '\n' ∉ d.text.toList := hds d (by simp)
    have hrest := ih fun e he => hds e (by simp [he])
    -- The first directive and its line feed are one line of the block.
    have hblock : (Statement.block (d :: ds)).toList ++ b =
        d.text.toList ++ '\n' :: ((Statement.block ds).toList ++ b) := by
      simp [Statement.block]
    rw [hblock, lines_append_feed hd, List.filter_cons_of_neg (by simp [isDirective_text]), hrest]

/-- What is left of a statement behind its header is its body. -/
theorem body_block {ds : List Directive} (hds : ∀ d ∈ ds, '\n' ∉ d.text.toList) {b : List Char}
    (hb : IsBody b) : body ((Statement.block ds).toList ++ b) = b := by
  obtain ⟨c, hfirst, hc⟩ := hb.first
  obtain ⟨d, hlast, hd⟩ := hb.last
  have hne : b ≠ [] := by
    rintro rfl
    cases hfirst
  -- No line of the block is left, and the body is a line of its own without blanks around it.
  rw [body, filter_lines_block hds, lines_of_no_feed hb.no_feed hne,
    List.filter_cons_of_pos (by simp [hb.no_directive])]
  simpa using trim_of_ends hfirst hc hlast hd

/-- A body that opens as a selection does so however many lines it has. -/
theorem head_body_block {ds : List Directive} (hds : ∀ d ∈ ds, '\n' ∉ d.text.toList)
    (r : List Char) :
    ∃ t, body ((Statement.block ds).toList ++ ("select".toList ++ r)) = 's' :: t := by
  obtain ⟨line, rest, hlines⟩ := lines_cons_cons (c := 's') (d := 'e') (by decide) (by decide)
    ("lect".toList ++ r)
  have hblank : isBlank 's' = false := by decide
  have hkept : isDirective ('s' :: line) = false := by
    simp [isDirective, trimStart_cons_of_not hblank, List.isPrefixOf]
  have hjoined : ∃ t, [' '].intercalate (('s' :: line) :: rest.filter fun l => !isDirective l) =
      's' :: t := by
    cases rest.filter fun l => !isDirective l with
    -- No other line is left.
    | nil => exact ⟨line, by simp⟩
    -- Further lines are joined to the first one, which keeps its first character.
    | cons m ls => exact ⟨_, by rw [List.intercalate_cons_cons]; rfl⟩
  obtain ⟨t, ht⟩ := hjoined
  obtain ⟨u, hu⟩ := trimEnd_cons_of_not hblank t
  refine ⟨u, ?_⟩
  have hfirst : lines ("select".toList ++ r) = ('s' :: line) :: rest := hlines
  rw [body, filter_lines_block hds, hfirst, List.filter_cons_of_pos (by simp [hkept]), ht, trim,
    trimStart_cons_of_not hblank, hu]

/-- Lines that are joined by blanks. -/
theorem feed_notMem_intercalate {ls : List (List Char)} (hls : ∀ l ∈ ls, '\n' ∉ l) :
    '\n' ∉ [' '].intercalate ls := by
  induction ls with
  | nil => exact List.not_mem_nil
  | cons l ls ih =>
    have hl : '\n' ∉ l := hls l List.mem_cons_self
    have hrest := ih fun m hm => hls m (List.mem_cons_of_mem l hm)
    cases ls with
    | nil => simpa using hl
    | cons m ls =>
      rw [List.intercalate_cons_cons]
      simp [hl, hrest]

/-- A body is one line, whatever the statement. -/
theorem feed_notMem_body (s : List Char) : '\n' ∉ body s := by
  intro hfeed
  refine feed_notMem_intercalate ?_ (trim_subset _ hfeed)
  intro l hl
  exact feed_notMem_of_mem_linesFrom List.not_mem_nil (List.mem_filter.1 hl).1

/-! ### The forms of a body -/

/-- The templates have a blank where every other statement has a line feed. -/
theorem template_opening {t : String}
    (ht : t ∈ [Template.insert, Template.delete, Template.clear]) :
    "sparql ".toList <+: t.toList := by
  simp only [List.mem_cons, List.not_mem_nil, or_false] at ht
  rcases ht with rfl | rfl | rfl
  · -- The opening of the templates ends in a blank, and what is behind it makes no difference.
    have hopening : "sparql ".toList <+: "sparql insert into graph iri(??) ".toList := by decide
    have htext : Template.insert.toList =
        "sparql insert into graph iri(??) ".toList ++ Template.triple.toList :=
      String.toList_append
    exact hopening.trans ⟨_, htext.symm⟩
  · have hopening : "sparql ".toList <+: "sparql delete from graph iri(??) ".toList := by decide
    have htext : Template.delete.toList =
        "sparql delete from graph iri(??) ".toList ++ Template.triple.toList :=
      String.toList_append
    exact hopening.trans ⟨_, htext.symm⟩
  · show "sparql ".toList <+: "sparql clear graph iri(??)".toList
    decide

/-- A text without the opening of the templates is read by its body. -/
theorem ofText_of_not_template {text : String} (h : ¬ "sparql ".toList <+: text.toList)
    (params : List Param) :
    ofText text params =
      match Statement.header.toList.isPrefixOf? (counted text.toList).2 with
      | none => .ok .other
      | some lines =>
        match "delete from graph <".toList.isPrefixOf? (body lines) with
        | some r => .ok (deletion r)
        | none => selection (counted text.toList).1 params (body lines) := by
  have hinsert : text ≠ Template.insert := fun e => h (e ▸ template_opening (by simp))
  have hdelete : text ≠ Template.delete := fun e => h (e ▸ template_opening (by simp))
  have hclear : text ≠ Template.clear := fun e => h (e ▸ template_opening (by simp))
  rw [ofText, if_neg hinsert, if_neg hdelete]
  exact if_neg hclear

/-- A text that begins with a header is not one that asks for a number of rows. -/
theorem counted_of_header (r : List Char) :
    counted (Statement.header.toList ++ r) = (false, Statement.header.toList ++ r) := by
  have h : Statement.countOpening.toList.isPrefixOf? (Statement.header.toList ++ r) = none := by
    simp [Statement.countOpening, Statement.header, isPrefixOf?_cons]
  rw [counted, h]
  rfl

/-- What stands between the two ends of a count is counted. -/
theorem counted_around (inner : List Char) :
    counted (Statement.countOpening.toList ++ (inner ++ Statement.countClosing.toList)) =
      (true, inner) := by
  rw [counted, isPrefixOf?_append, Option.bind_some, isSuffixOf?_append]

/-- The text of a statement with these lines behind its header, or the text that asks for the
number of its rows. -/
def headed (counting : Bool) (lines : List Char) : List Char :=
  if counting then
    Statement.countOpening.toList ++
      (Statement.header.toList ++ lines ++ Statement.countClosing.toList)
  else Statement.header.toList ++ lines

/-- A text with a header is told apart from one that asks for the number of its rows. -/
theorem counted_headed (counting : Bool) (lines : List Char) :
    counted (headed counting lines) = (counting, Statement.header.toList ++ lines) := by
  cases counting with
  | true => exact counted_around _
  | false => exact counted_of_header lines

/-- So it can be read in one way only. -/
theorem headed_injective {counting counting' : Bool} {lines lines' : List Char}
    (h : headed counting lines = headed counting' lines') :
    counting = counting' ∧ lines = lines' := by
  have hcounted := congrArg counted h
  rw [counted_headed, counted_headed, Prod.mk.injEq] at hcounted
  exact ⟨hcounted.1, List.append_cancel_left hcounted.2⟩

/-- Only such a text has a header where it is looked for. -/
theorem eq_headed {s lines : List Char}
    (h : Statement.header.toList.isPrefixOf? (counted s).2 = some lines) :
    s = headed (counted s).1 lines := by
  have hinner := isPrefixOf?_eq_some h
  unfold counted at hinner ⊢
  cases hwrapped : (Statement.countOpening.toList.isPrefixOf? s).bind
      (Statement.countClosing.toList.isSuffixOf? ·) with
  | none =>
    rw [hwrapped] at hinner
    exact hinner
  | some inner =>
    rw [hwrapped] at hinner
    -- The ends of the count are cut off and put back.
    obtain ⟨r, hopening, hclosing⟩ := Option.bind_eq_some_iff.1 hwrapped
    rw [isPrefixOf?_eq_some hopening, isSuffixOf?_eq_some hclosing]
    exact congrArg (fun t => Statement.countOpening.toList ++ (t ++ Statement.countClosing.toList))
      hinner

/-- What is asked by a text with a header depends on its body. -/
theorem ofText_headed {text : String} {counting : Bool} {lines : List Char}
    (h : text.toList = headed counting lines) (params : List Param) :
    ofText text params =
      match "delete from graph <".toList.isPrefixOf? (body lines) with
      | some r => .ok (deletion r)
      | none => selection counting params (body lines) := by
  -- The header ends in a line feed where the templates have a blank.
  have hnot : ¬ "sparql ".toList <+: text.toList := by
    rw [h]
    cases counting with
    | true => simp [headed, Statement.countOpening]
    | false => simp [headed, Statement.header]
  rw [ofText_of_not_template hnot, h, counted_headed]
  simp only [isPrefixOf?_append]

/-- What is asked by a statement, its body may have any number of lines. -/
theorem ofText_of_body (s : Statement) (params : List Param) :
    let b := body ((Statement.block s.directives).toList ++ s.body.toList)
    ofText s.text params =
      match "delete from graph <".toList.isPrefixOf? b with
      | some r => .ok (deletion r)
      | none => selection false params b := by
  have htext : s.text.toList =
      headed false ((Statement.block s.directives).toList ++ s.body.toList) := by
    simp only [Statement.text, headed, String.toList_append, List.append_assoc]
    rfl
  exact ofText_headed htext params

/-- What is asked by the body of a statement. -/
theorem ofText_text {s : Statement} (hds : s.OneLine)
    (hbody : IsBody s.body.toList) (params : List Param) :
    ofText s.text params =
      match "delete from graph <".toList.isPrefixOf? s.body.toList with
      | some r => .ok (deletion r)
      | none => selection false params s.body.toList := by
  rw [ofText_of_body, body_block hds hbody]

/-- What is asked by the body of a statement whose rows are counted. -/
theorem ofText_countText {s : Statement} (hds : s.OneLine)
    (hbody : IsBody s.body.toList)
    (hselect : "delete from graph <".toList.isPrefixOf? s.body.toList = none)
    (params : List Param) :
    ofText s.countText params = selection true params s.body.toList := by
  have htext : s.countText.toList =
      headed true ((Statement.block s.directives).toList ++ s.body.toList) := by
    simp only [Statement.countText, Statement.text, headed, String.toList_append,
      List.append_assoc]
    rfl
  rw [ofText_headed htext]
  simp only [body_block hds hbody, hselect]

end Request

end QuadClient
