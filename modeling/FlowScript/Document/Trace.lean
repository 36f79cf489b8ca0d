import FlowScript.Document.Basic
import FlowScript.Log

/-!
# What documents log

The events of each operation, as a function of what it starts from. They are
kept apart from the operations, which do not depend on the log.
-/

namespace FlowScript.Trace

/-- The name of a chart or a document, and `None` for none. -/
def nameText (name : Option Text) : Text :=
  name.getD "None".toList

/-- The number of `things`. -/
def count {α : Type} (things : List α) (noun : String) : Text :=
  Text.ofNat things.length ++ ' ' :: noun.toList

/-! ## Reading and building -/

/-- The events of a reading that succeeds. -/
def reading : Reading → List Event
  | .recognized _ (.numbered nodes links) notes =>
    [⟨.debug, "flowtext.frontend.dsl".toList, "DSL parse: ".toList ++ count nodes "nodes, "
      ++ count links "edges, " ++ count notes "diagnostics"⟩]
  | .recognized _ (.labelled labels links) _ =>
    [⟨.debug, "flowtext.frontend.chain".toList, "Chain parse: ".toList ++ count labels "nodes, "
      ++ count links "edges"⟩]
  | _ => []

/-- The part of the program that builds charts. -/
def builder : Text := "flowtext.frontend.builder".toList

/-- The events of placeholders. -/
def placeholders : Sketch → List Event
  | .numbered nodes links =>
    (Build.undeclared nodes links).map fun token =>
      ⟨.debug, builder, "Materializing undeclared node ".toList ++ token⟩
  | _ => []

/-- The event of a chart that is complete. -/
def built (c : Chart) : Event :=
  ⟨.debug, builder, "Built ".toList ++ nameText c.name ++ ": ".toList ++ count c.nodes "nodes, "
    ++ count c.edges "edges"⟩

/-- The events of building a document from a text. -/
def build (d : Document) (s : Text) : List Event :=
  let r := Reading.ofText s
  let complete :=
    match d.build s with
    | (d, none) => [built d.chart]
    | (_, some _) => []
  reading r ++ placeholders (Build.sketchOf r) ++ complete

/-! ## The registry -/

/-- The event of an id that gives up its label to another. -/
def passedOn (r : Registry) (id : Text) : List Event :=
  match r.passedOn? id with
  | none => []
  | some (label, other) =>
    [⟨.debug, "flowtext.core.registry".toList, "Label ".toList ++ Text.quoted label
      ++ " now maps to ".toList ++ other⟩]

/-- The events of resolving a label. -/
def resolve (r : Registry) (label : Text) : List Event :=
  if (r.idFor? (Text.trim label)).isSome then [] else passedOn r (Ident.labelled label)

/-! ## Writing -/

/-- The event of writing a chart in the notation that its ids call for. -/
def written (c : Chart) : List Event :=
  [⟨.debug, "flowtext.backend.text".toList, "Exporting ".toList ++ nameText c.name ++ " as ".toList
    ++ c.form.name⟩]

/-! ## Editing -/

/-- A warning of a document. -/
def warning (message : String) (id : Text) (rest : String) : Event :=
  ⟨.warning, "flowtext.session".toList, message.toList ++ id ++ rest.toList⟩

/-- The events of changing the label of a node. -/
def relabelNode (d : Document) (id : Text) : List Event :=
  if d.chart.hasNode id then passedOn d.registry id
  else [warning "Label change for unknown node " id " ignored"]

/-- The events of changing the label of an edge. -/
def relabelEdge (d : Document) (id : Text) : List Event :=
  if (d.chart.edge? id).isSome then []
  else [warning "Label change for unknown edge " id " ignored"]

/-- The events of asking for a label of a node, which was changed if
    `applied`. -/
def editNode (d : Document) (id : Text) (applied : Bool) : List Event :=
  if d.chart.hasNode id then if applied then passedOn d.registry id else []
  else [warning "Edit requested for unknown node " id ""]

/-- The events of asking for a label of an edge. -/
def editEdge (d : Document) (id : Text) : List Event :=
  if (d.chart.edge? id).isSome then []
  else [warning "Edit requested for unknown edge " id ""]

/-- The events of adding a node. -/
def addNode (d : Document) (label : Text) : List Event :=
  match d.chart.form with
  | .chain => resolve d.registry label
  | .numbered =>
    match Document.nextToken d.chart with
    | .error _ => []
    | .ok token => passedOn d.registry (Ident.numbered token)

end FlowScript.Trace
