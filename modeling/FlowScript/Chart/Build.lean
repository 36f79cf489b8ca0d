import FlowScript.Chart.Grid
import FlowScript.Registry
import FlowScript.Script.Chain

/-!
# Building a chart

A sketch becomes a chart by giving every node its id: the numbered id of its
token, or the id of its label. The ids and labels go into a fresh registry. A
number that is linked and never defined becomes a node labelled by its token,
marked as a placeholder; should an end of a link still be no node, it becomes a
placeholder too, labelled by what its id stands for.
-/

namespace FlowScript.Build

/-- A chart and the registry that goes with it. -/
structure Site where
  /-- The chart so far. -/
  chart : Chart
  /-- The registry so far. -/
  registry : Registry

/-- The metadata of a node that no text defines. -/
def placeholderMark : Metadata :=
  .single "placeholder".toList (.bool true)

/-- The site with one more node of the given id and label. -/
def Site.add (s : Site) (id label : Text) (metadata : Metadata) : Except Fault Site := do
  let chart ← s.chart.addNode { id, label := some label, metadata }
  return ⟨chart, s.registry.assign id label⟩

/-- The site with one more node, which is there already if a node has the id. -/
def Site.ensure (s : Site) (id label : Text) (metadata : Metadata) : Site :=
  match s.add id label metadata with
  | .ok s => s
  | .error _ => s

/-! ## Numbered sketches -/

/-- The tokens at the ends of links that no node has, each once, in order. -/
def undeclared (nodes : List NumberedNode) (links : List Link) : List Text :=
  ((links.flatMap fun l => [l.source, l.target]).eraseDups).filter fun token =>
    nodes.all fun n => n.token ≠ token

/-- The site with the defined nodes. -/
def addNumbered (s : Site) : List NumberedNode → Except Fault Site
  | [] => .ok s
  | n :: rest => do addNumbered (← s.add (Ident.numbered n.token) n.label .none) rest

/-- The site with a placeholder for each token. -/
def addPlaceholders (s : Site) : List Text → Except Fault Site
  | [] => .ok s
  | token :: rest => do
    addPlaceholders (← s.add (Ident.numbered token) token placeholderMark) rest

/-- The link with its ends as numbered ids. -/
def numberedLink (l : Link) : Link :=
  ⟨Ident.numbered l.source, Ident.numbered l.target, l.label⟩

/-! ## Labelled sketches -/

/-- The site in which a label has a node, and the id of that node. -/
def ensureLabel (s : Site) (label : Text) : Site × Text :=
  let (registry, id) := s.registry.resolve label
  match s.chart.addNode { id, label := some (Text.trim label) } with
  | .ok chart => (⟨chart, registry⟩, id)
  | .error _ => (⟨s.chart, registry⟩, id)

/-- The site in which all labels have nodes. -/
def ensureLabels (s : Site) (labels : List Text) : Site :=
  labels.foldl (fun s label => (ensureLabel s label).1) s

/-- The site in which the ends of the links have nodes, and the links between
    the ids of those. -/
def ensureLinks (s : Site) : List Link → Site × List Link
  | [] => (s, [])
  | l :: rest =>
    let (s, source) := ensureLabel s l.source
    let (s, target) := ensureLabel s l.target
    let (s, links) := ensureLinks s rest
    (s, ⟨source, target, l.label⟩ :: links)

/-- The labels that get ids in the order in which they do: those of the nodes, and
    those at the ends of the links. -/
def labelsOf : Sketch → List Text
  | .labelled labels links => labels ++ links.flatMap fun l => [l.source, l.target]
  | .blank | .numbered .. => []

/-! ## Any sketch -/

/-- The site with the nodes of a sketch, and its links between ids. -/
def addSketch (s : Site) : Sketch → Except Fault (Site × List Link)
  | .blank => .ok (s, [])
  | .numbered nodes links => do
    let s ← addNumbered s nodes
    let s ← addPlaceholders s (undeclared nodes links)
    return (s, links.map numberedLink)
  | .labelled labels links => .ok (ensureLinks (ensureLabels s labels) links)

/-- The ids at the ends of links that are no nodes, each once, in order. -/
def missingEnds (c : Chart) (links : List Link) : List Text :=
  ((links.flatMap fun l => [l.source, l.target]).eraseDups).filter fun id => !c.hasNode id

/-- The site in which every end of a link is a node. -/
def reconcile (s : Site) (links : List Link) : Site :=
  (missingEnds s.chart links).foldl (fun s id => s.ensure id (Ident.label id) placeholderMark) s

/-- The chart with an edge for each link. -/
def addLinks (c : Chart) : List Link → Except Fault Chart
  | [] => .ok c
  | l :: rest => do
    let (c, _) ← c.addEdge { source := l.source, target := l.target, label := l.label }
    addLinks c rest

/-- The empty chart that a reading is built into, which names its notation. -/
def groundFor (name : Option Text) : Reading → Chart
  | .recognized dialect _ _ =>
    { name, metadata := .single "dialect".toList (.string dialect) }
  | .notApplicable _ => { name }

/-- The sketch of a reading. -/
def sketchOf : Reading → Sketch
  | .recognized _ sketch _ => sketch
  | .notApplicable _ => .blank

/-- The chart and the registry of a reading, before any node has a place. -/
def assemble (name : Option Text) (r : Reading) : Except Fault Site := do
  let (s, links) ← addSketch ⟨groundFor name r, .empty⟩ (sketchOf r)
  let s := reconcile s links
  return { s with chart := ← addLinks s.chart links }

/-- The chart and the registry of a reading, with every node in its cell. -/
def build (grid : Grid) (name : Option Text) (r : Reading) : Except Fault Site := do
  let s ← assemble name r
  match grid.arrange s.chart with
  | (chart, none) => return { s with chart }
  | (_, some fault) => throw fault

/-- The name of a chart that is given none. -/
def defaultName : Text := "FlowChart".toList

end FlowScript.Build
