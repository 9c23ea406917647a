import QuadClient.Connection.Basic
import QuadClient.Graph.Error
import QuadClient.Graph.Mailbox
import QuadClient.Statement.Compile
import QuadClient.Statement.Substitution
import QuadClient.Text.Quoted

/-!
# Graph handles

A handle stands for one graph on one connection. It owns the connection: once the handle is
closed every operation on it fails. Its settings apply to the statements made after a change.
-/

namespace QuadClient

/-- One graph on one connection. -/
structure Handle (κ : Type) where
  /-- the connection -/
  connection : κ
  /-- the name of the graph -/
  graphName : String := unnamedGraph
  /-- the connection was released -/
  isClosed : Bool := false
  /-- how reads are answered -/
  options : ReadOptions := {}
  /-- what a statement may use -/
  resources : Resources := {}
  /-- who is told about writes -/
  listeners : List Mailbox := []

/-- An operation on a handle. -/
abbrev GraphAction (κ α : Type) := Attempt Error (Handle κ) α

namespace Handle

variable {κ α : Type}

/-- A handle that is set up with settings. -/
def ofSettings (connection : κ) (s : Settings) : Handle κ :=
  { connection, graphName := s.graphName, options := s.options, resources := s.resources }

/-- The handle stands for the store's unnamed graph. -/
def isUnnamed (h : Handle κ) : Bool :=
  h.graphName == unnamedGraph

/-- What patterns are compiled for. -/
def scope (h : Handle κ) : Scope :=
  ⟨h.graphName, h.options⟩

/-- The options of the next statement. -/
def sendOptions (h : Handle κ) : SendOptions :=
  h.resources.sendOptions

/-- The text sent for a query written by the caller, bound variables replaced. -/
def sentText (h : Handle κ) (query : String) (lookup : String → Option Term) : String :=
  (h.scope.adhoc (substitute lookup query)).text

/-- Adds a listener. -/
def listen (h : Handle κ) : Handle κ :=
  { h with listeners := h.listeners ++ [{}] }

/-- Tells every listener. -/
def notify (e : Event) (h : Handle κ) : Handle κ :=
  { h with listeners := h.listeners.map (Mailbox.send e) }

/-- An action on the connection, refused by a closed handle. -/
def onConnection (a : Attempt Error κ α) : GraphAction κ α :=
  .of fun h =>
    -- A closed handle does not touch its connection any more.
    if h.isClosed then (.error .closed, h)
    else
      let (r, c) := a.on h.connection
      (r, { h with connection := c })

/-- Tells every listener about a write that was completed. -/
def tell (event : String → Event) : GraphAction κ Unit :=
  .of fun h => (.ok (), h.notify (event h.graphName))

/-- Releases the connection. A failure to do so is let go; a second time does nothing. -/
def close [Connection κ] (h : Handle κ) : Handle κ :=
  if h.isClosed then h
  else { h with connection := (Connection.close.on h.connection).2, isClosed := true }

/-- The form for people. -/
def debugText (h : Handle κ) : String :=
  let bool (b : Bool) : String := if b then "true" else "false"
  let rules :=
    match h.options.ruleSet with
    | some r => "Some(" ++ Text.quoted r ++ ")"
    | none => "None"
  "GraphHandle \x7b graph_name: " ++ Text.quoted h.graphName ++
    ", options: QueryOptions \x7b rule_set: " ++ rules ++
    ", same_as: " ++ bool h.options.sameAs ++
    ", read_all_graphs: " ++ bool h.options.everyGraph ++
    " \x7d, resources: ResourceSettings \x7b fetch_size: " ++
    Text.integer h.resources.fetchSize ++
    ", query_timeout_secs: " ++ Text.integer h.resources.timeoutSecs ++
    " \x7d, closed: " ++ bool h.isClosed ++
    ", listeners: " ++ Text.integer h.listeners.length ++ " \x7d"

end Handle

end QuadClient
