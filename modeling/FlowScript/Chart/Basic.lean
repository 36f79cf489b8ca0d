import FlowScript.Fault
import FlowScript.Table

/-!
# Charts

A chart has nodes, which are told apart by their ids, and edges between them.
Edges have ids too, and an index says at which place of the edge list an id
stands. An edge that is added without an id gets `e` and a number: a counter
that skips the ids that are taken.

Adding a node or an edge either gives the new chart or a fault, and a fault
leaves the chart as it was.
-/

namespace FlowScript

/-- What else is known of a thing: a value that says something, or an empty
    object. -/
structure Metadata where
  /-- The value. -/
  value : Json
  /-- It says something, or it is the empty object. -/
  substantial_or_empty : value.isSubstantial = true ∨ value = .object []

namespace Metadata

/-- Nothing else is known. -/
def none : Metadata := ⟨.object [], .inr rfl⟩

/-- The metadata that a value stands for: a value that says nothing counts as
    the empty object. -/
def of (v : Json) : Metadata :=
  if h : v.isSubstantial = true then ⟨v, .inl h⟩ else none

/-- Metadata with one member. -/
def single (name : Text) (v : Json) : Metadata :=
  ⟨.object [(name, v)], .inl rfl⟩

/-- The value of metadata stands for the same metadata. -/
@[simp]
theorem of_value (m : Metadata) : of m.value = m := by
  obtain ⟨v, h | rfl⟩ := m
  · simp [of, h]
  · rfl

end Metadata

/-- A node and where it is drawn. -/
structure Node where
  /-- The id, which no other node of the chart has. -/
  id : Text
  /-- The label; a loaded chart may lack it. -/
  label : Option Text
  /-- The left end. -/
  x : Option Number := some (.float 0)
  /-- The upper end. -/
  y : Option Number := some (.float 0)
  /-- The width. -/
  width : Option Number := some (.float 0)
  /-- The height. -/
  height : Option Number := some (.float 0)
  /-- What else is known of the node. -/
  metadata : Metadata := .none

/-- An edge between two nodes. -/
structure Edge where
  /-- The id, which no other edge of the chart has. -/
  id : Text
  /-- The id of the node where it starts. -/
  source : Text
  /-- The id of the node where it ends. -/
  target : Text
  /-- The label, which is empty on an edge that is added without one. It may be
      taken away altogether. -/
  label : Option Text
  /-- What else is known of the edge. -/
  metadata : Metadata := .none

/-- What is written on the edge: nothing if the label has been taken away. -/
def Edge.caption (e : Edge) : Text :=
  e.label.getD []

/-- An edge that is to be added, whose id may be left to the chart. -/
structure NewEdge where
  /-- The id, if it is given. -/
  id? : Option Text := none
  /-- The id of the node where it starts. -/
  source : Text
  /-- The id of the node where it ends. -/
  target : Text
  /-- The label; empty if there is none. -/
  label : Text := []
  /-- What else is known of the edge. -/
  metadata : Metadata := .none

/-- The new edge under the given id. -/
def NewEdge.withId (e : NewEdge) (id : Text) : Edge :=
  ⟨id, e.source, e.target, some e.label, e.metadata⟩

/-- A named graph. -/
structure Chart where
  /-- The name; a loaded chart may lack it. -/
  name : Option Text
  /-- What else is known of the chart. -/
  metadata : Metadata := .none
  /-- The nodes, in the order in which they were added. -/
  nodes : List Node := []
  /-- The edges, in the order in which they were added. -/
  edges : List Edge := []
  /-- The place of each edge in the list, by its id. -/
  places : Table Nat := []
  /-- The least number that the next automatic id may have. -/
  nextEdge : Nat := 0

/-- The automatic id with the number `k`. -/
def edgeId (k : Nat) : Text :=
  'e' :: Text.ofNat k

namespace Chart

/-! ## Looking up -/

/-- The node with the id. -/
def node? (c : Chart) (id : Text) : Option Node :=
  c.nodes.find? fun n => n.id = id

/-- A node with the id is in the chart. -/
def hasNode (c : Chart) (id : Text) : Bool :=
  (c.node? id).isSome

/-- The edge with the id. -/
def edge? (c : Chart) (id : Text) : Option Edge := do
  c.edges[← Table.get? c.places id]?

/-- The ids of the nodes, in order. -/
def nodeIds (c : Chart) : List Text :=
  c.nodes.map Node.id

/-- The ids of the edges, in order. -/
def edgeIds (c : Chart) : List Text :=
  c.edges.map Edge.id

/-- Some edge starts or ends at the node. -/
def isConnected (c : Chart) (id : Text) : Bool :=
  c.edges.any fun e => e.source = id || e.target = id

/-- The ids at which edges start or end, in the order of code points. -/
def connectedIds (c : Chart) : List Text :=
  ((c.edges.flatMap fun e => [e.source, e.target]).eraseDups).mergeSort Text.le

/-! ## Adding -/

/-- The chart with one more node. -/
def addNode (c : Chart) (n : Node) : Except Fault Chart :=
  if c.hasNode n.id then .error (.nodeExists n.id)
  else .ok { c with nodes := c.nodes ++ [n] }

/-- The first number from `k` on whose automatic id is not taken. One more
    step than there are ids always finds it. -/
def freeNumber (places : Table Nat) : (steps k : Nat) → Nat
  | 0, k => k
  | steps + 1, k =>
    if Table.contains places (edgeId k) then freeNumber places steps (k + 1) else k

/-- The number of the next automatic id. -/
def nextNumber (c : Chart) : Nat :=
  freeNumber c.places (c.places.length + 1) c.nextEdge

/-- The chart with an edge at the end of the list and in the index. -/
def pushEdge (c : Chart) (e : Edge) : Chart :=
  { c with edges := c.edges ++ [e], places := Table.put c.places e.id c.edges.length }

/-- The chart with one more edge, and that edge. -/
def addEdge (c : Chart) (e : NewEdge) : Except Fault (Chart × Edge) :=
  if !c.hasNode e.source then .error (.sourceMissing e.source)
  else if !c.hasNode e.target then .error (.targetMissing e.target)
  else
    match e.id? with
    | none =>
      let edge := e.withId (edgeId c.nextNumber)
      .ok ({ c with nextEdge := c.nextNumber + 1 }.pushEdge edge, edge)
    | some id =>
      if Table.contains c.places id then .error (.edgeExists id)
      else .ok (c.pushEdge (e.withId id), e.withId id)

/-! ## Changing labels -/

/-- The chart with the node of the id changed. -/
def modifyNode (c : Chart) (id : Text) (change : Node → Node) : Chart :=
  { c with nodes := c.nodes.map fun n => if n.id = id then change n else n }

/-- The chart with the edge at a place of the list changed. -/
def modifyEdgeAt (c : Chart) (place : Nat) (change : Edge → Edge) : Chart :=
  { c with edges := c.edges.modify place change }

/-- The chart with the label of a node set. -/
def setNodeLabel (c : Chart) (id : Text) (label : Option Text) : Except Fault Chart :=
  if c.hasNode id then .ok (c.modifyNode id fun n => { n with label := label })
  else .error (.unknownNode id)

/-- The chart with the label of an edge set. -/
def setEdgeLabel (c : Chart) (id : Text) (label : Option Text) : Chart :=
  match Table.get? c.places id with
  | none => c
  | some place => c.modifyEdgeAt place fun e => { e with label := label }

/-- The chart with the label of the edge at `index` set; a negative index counts
    from the end. -/
def setEdgeLabelAt (c : Chart) (index : Int) (label : Option Text) : Except Fault Chart :=
  let place := if index < 0 then index + Int.ofNat c.edges.length else index
  if 0 ≤ place && place < Int.ofNat c.edges.length then
    .ok (c.modifyEdgeAt place.toNat fun e => { e with label := label })
  else
    .error .noSuchEdge

end Chart

/-! ## Summaries -/

/-- A label, and `None` for none. -/
def labelText (label : Option Text) : Text :=
  label.getD "None".toList

/-- The node in a few words. -/
def Node.summary (n : Node) : Text :=
  "<Node id=".toList ++ n.id ++ " label='".toList ++ labelText n.label ++ "'>".toList

/-- The edge in a few words. -/
def Edge.summary (e : Edge) : Text :=
  "<Edge ".toList ++ e.source ++ " -> ".toList ++ e.target ++ " label='".toList
    ++ labelText e.label ++ "'>".toList

end FlowScript
