import FlowScript.Chart.Basic
import FlowScript.Registry
import FlowScript.Script.Arrow

/-!
# Writing a chart as flow text

The ids of a chart say in which notation it is written: numbered if every node
has a numbered id, otherwise as chains. Labels come from the registry, so that
edits made there show; an id that the registry does not know has an empty
label. Edge labels are made fit for their place between pipes.
-/

namespace FlowScript

/-- A notation to write in. -/
inductive Form where
  /-- Numbered definitions and connections. -/
  | numbered
  /-- Chains of labels. -/
  | chain
  deriving DecidableEq

/-- The name of a notation. -/
def Form.name : Form → Text
  | numbered => "dsl".toList
  | chain => "chain".toList

namespace Chart

/-- The notation that the ids of a chart call for. -/
def form (c : Chart) : Form :=
  if c.nodes.all fun n => Ident.isNumbered n.id then .numbered else .chain

/-! ## The numbered notation -/

/-- The definition of a node: its token, a point and its label. -/
def definitionLine (r : Registry) (n : Node) : Text :=
  Ident.token n.id ++ '.' :: r.labelFor n.id

/-- The connection of an edge. -/
def connectionLine (e : Edge) : Text :=
  let label := EdgeLabel.normalize e.caption
  let arrow := if label.isEmpty then ['-', '>'] else ['-', '>', '|'] ++ label ++ ['|']
  Ident.token e.source ++ arrow ++ Ident.token e.target

/-- The chart in the numbered notation: the definitions, then a connection for
    each edge. -/
def toNumbered (c : Chart) (r : Registry) : Text :=
  Text.join ['\n'] (c.nodes.map (definitionLine r) ++ c.edges.map connectionLine)

/-! ## The chain notation -/

/-- The label of a node on one line. -/
def chainLabel (r : Registry) (id : Text) : Text :=
  Text.replace '\n' [' '] (r.labelFor id)

/-- The chain of an edge. -/
def chainLine (r : Registry) (e : Edge) : Text :=
  let label := EdgeLabel.normalize e.caption
  let arrow :=
    if label.isEmpty then [' ', '-', '>', ' '] else [' ', '-', '>', ' ', '|'] ++ label ++ ['|', ' ']
  chainLabel r e.source ++ arrow ++ chainLabel r e.target

/-- The nodes at which no edge starts or ends. -/
def isolated (c : Chart) : List Node :=
  c.nodes.filter fun n => !c.isConnected n.id

/-- The chart in the chain notation: a line for each edge, then the label of
    each node without edges. -/
def toChain (c : Chart) (r : Registry) : Text :=
  Text.join ['\n'] (c.edges.map (chainLine r) ++ c.isolated.map fun n => chainLabel r n.id)

/-- The chart in the notation that its ids call for. -/
def toText (c : Chart) (r : Registry) : Text :=
  match c.form with
  | .numbered => c.toNumbered r
  | .chain => c.toChain r

end Chart

end FlowScript
