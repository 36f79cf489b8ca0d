import FlowScript.Chart.Build
import FlowScript.Export.Form

/-!
# Documents

A document is one flow that is being edited: the chart that is drawn, and the
registry of its ids and labels. It is built from a text, which replaces all of
it, and edited in place: labels change, nodes and edges are added. Its text
always shows those edits.

An edit that names no node or edge of the chart does nothing. A fault may leave
part of an edit behind: a node whose cell cannot be computed is in the chart
all the same, and a text whose chart cannot be laid out has filled the registry.

A label with halves in it has no id. Where one is asked for, building and adding
a node fail (`buildRaw`, `addNodeRaw`); the other operations take halves as they
come.
-/

namespace FlowScript

/-- A flow that is being edited. -/
structure Document where
  /-- The name of the document and of the charts that are built in it. -/
  name : Option Text
  /-- The grid on which nodes are placed. -/
  grid : Grid
  /-- The chart that is drawn. -/
  chart : Chart
  /-- The ids and labels of the chart. -/
  registry : Registry
  /-- How the last text was read. -/
  reading : Option Reading

/-- What became of a request to edit a label, which is an `α`. -/
structure EditOutcome (α : Type) where
  /-- The label was changed. -/
  applied : Bool
  /-- The label that was shown to the editor, if it was called. -/
  shown : Option α

namespace Document

open Text (Halves)

/-- The name of a document that is given none. -/
def defaultName : Text := "Untitled".toList

/-- A document without nodes. -/
def new (name : Option Text) (grid : Grid) : Document :=
  ⟨name, grid, { name }, .empty, none⟩

/-! ## Building -/

/-- The document built from a whole text, and the fault that kept the chart as it
    was, if any. -/
def build (d : Document) (s : Text) : Document × Option Fault :=
  let reading := Reading.ofText s
  let d := { d with reading := some reading, registry := .empty }
  match Build.assemble d.name reading with
  | .error fault => (d, some fault)
  | .ok site =>
    let d := { d with registry := site.registry }
    match d.grid.arrange site.chart with
    | (chart, none) => ({ d with chart }, none)
    | (_, some fault) => (d, some fault)

/-- The document built from a text that may hold halves. At the first label with
    one building ends: the labels before it are in the registry then, and the chart
    is as it was. -/
def buildRaw (d : Document) (h : Halves) (s : Text) : Document × Option Fault :=
  let reading := Reading.ofText s
  match Registry.empty.resolveAll h (Build.labelsOf (Build.sketchOf reading)) with
  | (registry, some fault) => ({ d with reading := some reading, registry }, some fault)
  | (_, none) => d.build s

/-! ## Showing -/

/-- The text of the document. -/
def text (d : Document) : Text :=
  d.chart.toText d.registry

/-- The ids of the nodes where an edge starts and ends. -/
def endpoints? (d : Document) (id : Text) : Option (Text × Text) :=
  (d.chart.edge? id).map fun e => (e.source, e.target)

/-! ## Labels -/

/-- The document with the label of a node changed, and whether there is such a
    node. -/
def relabelNode (d : Document) (id label : Text) : Document × Bool :=
  if d.chart.hasNode id then
    ({ d with
        chart := d.chart.modifyNode id fun n => { n with label := some label }
        registry := d.registry.assign id label }, true)
  else
    (d, false)

/-- The document with the label of an edge changed, and whether there is such an
    edge. -/
def relabelEdge (d : Document) (id label : Text) : Document × Bool :=
  match d.chart.edge? id with
  | none => (d, false)
  | some _ => ({ d with chart := d.chart.setEdgeLabel id (some (EdgeLabel.normalize label)) }, true)

/-- The document after `ask` was shown the label of a node and answered with a
    new one, or with none. -/
def editNode (d : Document) (id : Text) (ask : Text → Option Text) :
    Document × EditOutcome Text :=
  if d.chart.hasNode id then
    let shown := d.registry.labelFor id
    match ask shown with
    | none => (d, ⟨false, some shown⟩)
    | some label =>
      let (d, applied) := d.relabelNode id label
      (d, ⟨applied, some shown⟩)
  else
    (d, ⟨false, none⟩)

/-- The document after `ask` was shown the label of an edge and answered with a
    new one, or with none. -/
def editEdge (d : Document) (id : Text) (ask : Option Text → Option Text) :
    Document × EditOutcome (Option Text) :=
  match d.chart.edge? id with
  | none => (d, ⟨false, none⟩)
  | some e =>
    match ask e.label with
    | none => (d, ⟨false, some e.label⟩)
    | some label =>
      let (d, applied) := d.relabelEdge id label
      (d, ⟨applied, some e.label⟩)

/-! ## Adding -/

/-- The greatest number among the numbered ids, or zero. A token of too many
    digits is a fault. -/
def greatestToken : List Text → Except Fault Nat
  | [] => .ok 0
  | id :: rest =>
    let token := Ident.token id
    if Json.digitLimit < token.length then .error (.longNumeral token.length)
    else (greatestToken rest).map (max (Text.numeralValue token))

/-- The next number that no node has, as a token. -/
def nextToken (c : Chart) : Except Fault Text := do
  let token := Text.ofNat ((← greatestToken c.nodeIds) + 1)
  if Json.digitLimit < token.length then throw .longNumber
  return token

/-- The document with a node at the end of the chart and in the last cell, and
    that node or the fault that kept it out of the chart or its cell. -/
def append (d : Document) (n : Node) : Document × Except Fault Node :=
  match d.chart.addNode n with
  | .error fault => (d, .error fault)
  | .ok chart =>
    let count := chart.nodes.length
    match d.grid.place n (Int.ofNat count - 1) count with
    | .error fault => ({ d with chart }, .error fault)
    | .ok placed =>
      ({ d with chart := { chart with nodes := d.chart.nodes ++ [placed] } }, .ok placed)

/-- The document with a node of the given whole label. Where the chart is numbered the
    node gets the next number; elsewhere its id is that of its trimmed label,
    and a node that has it already is the answer. -/
def addNode (d : Document) (label : Text) : Document × Except Fault Node :=
  match d.chart.form with
  | .numbered =>
    match nextToken d.chart with
    | .error fault => (d, .error fault)
    | .ok token =>
      let id := Ident.numbered token
      { d with registry := d.registry.assign id label }.append { id, label := some label }
  | .chain =>
    let (registry, id) := d.registry.resolve label
    let d := { d with registry }
    match d.chart.node? id with
    | some n => (d, .ok n)
    | none => d.append { id, label := some (Text.trim label) }

/-- The document with a node of a label that may hold halves. Where the chart is
    numbered that does not matter. -/
def addNodeRaw (d : Document) (h : Halves) (label : Text) : Document × Except Fault Node :=
  match d.chart.form, d.registry.resolveRaw h label with
  | .chain, .error fault => (d, .error fault)
  | _, _ => d.addNode label

/-- The document with an edge of the given label. -/
def connect (d : Document) (source target label : Text) : Document × Except Fault Edge :=
  match d.chart.addEdge { source, target, label := EdgeLabel.normalize label } with
  | .error fault => (d, .error fault)
  | .ok (chart, e) => ({ d with chart }, .ok e)

/-! ## Histories -/

/-- Something that is done to a document. -/
inductive Action where
  /-- Build it from a text. -/
  | build (s : Text)
  /-- Change the label of a node. -/
  | relabelNode (id label : Text)
  /-- Change the label of an edge. -/
  | relabelEdge (id label : Text)
  /-- Ask for a new label of a node. -/
  | editNode (id : Text) (ask : Text → Option Text)
  /-- Ask for a new label of an edge. -/
  | editEdge (id : Text) (ask : Option Text → Option Text)
  /-- Add a node. -/
  | addNode (label : Text)
  /-- Add an edge. -/
  | connect (source target label : Text)

/-- The document after an action, whether or not it succeeds. -/
def act (d : Document) : Action → Document
  | .build s => (d.build s).1
  | .relabelNode id label => (d.relabelNode id label).1
  | .relabelEdge id label => (d.relabelEdge id label).1
  | .editNode id ask => (d.editNode id ask).1
  | .editEdge id ask => (d.editEdge id ask).1
  | .addNode label => (d.addNode label).1
  | .connect source target label => (d.connect source target label).1

/-- The document after a list of actions. -/
def run (d : Document) (actions : List Action) : Document :=
  actions.foldl act d

/-- The document after an action whose texts may hold halves, whether or not it
    succeeds. -/
def actRaw (h : Halves) (d : Document) : Action → Document
  | .build s => (d.buildRaw h s).1
  | .addNode label => (d.addNodeRaw h label).1
  | a => d.act a

/-- The document after a list of actions whose texts may hold halves. -/
def runRaw (d : Document) (h : Halves) (actions : List Action) : Document :=
  actions.foldl (actRaw h) d

end Document

end FlowScript
