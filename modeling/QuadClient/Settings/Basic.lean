/-!
# Settings of a graph handle

What a handle is set up with: the graph it stands for, how reads are to be answered, and what
a statement may use. A setting that would break the text of a statement is not valid.
-/

namespace QuadClient

/-- How reads are answered. -/
structure ReadOptions where
  /-- the rule set whose inferences are added, if any -/
  ruleSet : Option String := none
  /-- whether nodes stated to be the same are taken together -/
  sameAs : Bool := false
  /-- whether every graph is read, whatever the name of the graph -/
  everyGraph : Bool := false
  deriving DecidableEq, Repr

/-- What one statement may use. -/
structure Resources where
  /-- rows fetched in one round trip -/
  fetchSize : Nat := 200
  /-- seconds a query may take; no limit when zero -/
  timeoutSecs : Nat := 0
  deriving DecidableEq, Repr

/-- The options a statement is sent with. -/
structure SendOptions where
  /-- rows fetched in one round trip -/
  fetchSize : Nat := 200
  /-- seconds the statement may take, if there is a limit -/
  timeout : Option Nat := none
  deriving DecidableEq, Repr

/-- The name that stands for the store's unnamed graph. -/
def unnamedGraph : String := "virt:DEFAULT"

/-- Everything a handle is set up with. -/
structure Settings where
  /-- the graph -/
  graphName : String := unnamedGraph
  /-- how reads are answered -/
  options : ReadOptions := {}
  /-- what a statement may use -/
  resources : Resources := {}
  deriving DecidableEq, Repr

/-- The limit on a query, if there is one. -/
def Resources.timeout (r : Resources) : Option Nat :=
  if 0 < r.timeoutSecs then some r.timeoutSecs else none

/-- The options of a statement that may use these resources. -/
def Resources.sendOptions (r : Resources) : SendOptions :=
  ⟨r.fetchSize, r.timeout⟩

/-- The setting that is not valid. -/
inductive Settings.Invalid where
  /-- the graph has no name -/
  | emptyGraphName
  /-- no rows may be fetched -/
  | zeroFetchSize
  /-- a quote would end the text of the directive -/
  | quoteInRuleSet
  deriving DecidableEq, Repr

/-- The wording of the error. -/
def Settings.Invalid.message : Settings.Invalid → String
  | emptyGraphName => "Invalid value: graph_name must not be empty"
  | zeroFetchSize => "Invalid value: fetch_size must be positive"
  | quoteInRuleSet => "Invalid value: rule_set must not contain quotes"

/-- Names the first setting that is not valid. -/
def Settings.validate (s : Settings) : Except Settings.Invalid Unit :=
  if s.graphName = "" then .error .emptyGraphName
  else if s.resources.fetchSize = 0 then .error .zeroFetchSize
  else
    match s.options.ruleSet with
    -- The rule set stands between single quotes in its directive.
    | some rules => if '\'' ∈ rules.toList then .error .quoteInRuleSet else .ok ()
    | none => .ok ()

end QuadClient
