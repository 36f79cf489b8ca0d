import FlowScript.Chart.Basic

/-!
# The payload of a chart

A chart as a JSON value: its nodes with their places, its edges, and for each
node the ids of the edges that come in and go out. These two tables follow from
the edges, so loading a chart ignores them.
-/

namespace FlowScript

/-! ## Writing -/

/-- The value of a coordinate or a size. -/
def measureJson (n : Option Number) : Json :=
  (n.map Json.number).getD .null

/-- The value of a node. -/
def Node.toJson (n : Node) : Json :=
  .object [("id".toList, .string n.id), ("label".toList, .ofText? n.label),
    ("x".toList, measureJson n.x), ("y".toList, measureJson n.y),
    ("width".toList, measureJson n.width), ("height".toList, measureJson n.height),
    ("metadata".toList, n.metadata.value)]

/-- The value of an edge. -/
def Edge.toJson (e : Edge) : Json :=
  .object [("id".toList, .string e.id), ("source".toList, .string e.source),
    ("target".toList, .string e.target), ("label".toList, .ofText? e.label),
    ("metadata".toList, e.metadata.value)]

/-- The ids of edges under the node that `endpoint` picks, the nodes in the
    order in which they come and the edges of each in order. -/
def edgeLookup (endpoint : Edge → Text) (edges : List Edge) : Table (List Text) :=
  edges.foldl
    (fun t e => Table.put t (endpoint e) ((Table.get? t (endpoint e)).getD [] ++ [e.id])) []

/-- The value of a table of edge ids. -/
def lookupJson (t : Table (List Text)) : Json :=
  .object (t.map fun (node, edges) => (node, .array (edges.map .string)))

namespace Chart

/-- The ids of the edges that end at each node. -/
def incoming (c : Chart) : Table (List Text) :=
  edgeLookup Edge.target c.edges

/-- The ids of the edges that start at each node. -/
def outgoing (c : Chart) : Table (List Text) :=
  edgeLookup Edge.source c.edges

/-- The payload of a chart. -/
def toJson (c : Chart) : Json :=
  .object [("name".toList, .ofText? c.name), ("metadata".toList, c.metadata.value),
    ("nodes".toList, .array (c.nodes.map Node.toJson)),
    ("edges".toList, .array (c.edges.map Edge.toJson)),
    ("graph".toList, .object [("incomingEdges".toList, lookupJson c.incoming),
      ("outgoingEdges".toList, lookupJson c.outgoing)])]

/-- The payload as text, which fails on an integer of too many digits. -/
def toJsonText (c : Chart) (spread : Json.Spread) : Except Fault Text :=
  if c.toJson.exceedsDigits then .error .longNumber else .ok (c.toJson.text spread)

/-- The spread that payloads are written in: indented by two spaces. -/
def payloadSpread : Json.Spread := .indented [' ', ' ']

end Chart

/-! ## Reading -/

/-- The name of a loaded chart whose payload has none. -/
def loadedName : Text := "LoadedFlowChart".toList

/-- The members of an entry in the list of nodes or edges. -/
def entryMembers : Json → Except Fault (List (Text × Json))
  | .object members => .ok members
  | v => .error (.notAnEntry (.of v))

/-- A member that has to be there and to be a text. -/
def requiredText (name : Text) (members : List (Text × Json)) : Except Fault Text :=
  match Table.get? members name with
  | none => .error (.missingMember name)
  | some (.string s) => .ok s
  | some _ => .error (.unfitMember name)

/-- A member that is a text or null, with a value for when it is not there. -/
def optionalText (name : Text) (absent : Option Text) (members : List (Text × Json)) :
    Except Fault (Option Text) :=
  match Table.get? members name with
  | none => .ok absent
  | some .null => .ok none
  | some (.string s) => .ok (some s)
  | some _ => .error (.unfitMember name)

/-- A member that is a number or null, and zero when it is not there. -/
def measureMember (name : Text) (members : List (Text × Json)) :
    Except Fault (Option Number) :=
  match Table.get? members name with
  | none => .ok (some (.float 0))
  | some .null => .ok none
  | some (.number n) => .ok (some n)
  | some _ => .error (.unfitMember name)

/-- The metadata among the members. -/
def metadataMember (members : List (Text × Json)) : Metadata :=
  .of ((Table.get? members "metadata".toList).getD .null)

/-- The node that an entry describes. -/
def Node.ofJson (v : Json) : Except Fault Node := do
  let members ← entryMembers v
  return {
    id := ← requiredText "id".toList members
    label := ← optionalText "label".toList (some []) members
    x := ← measureMember "x".toList members
    y := ← measureMember "y".toList members
    width := ← measureMember "width".toList members
    height := ← measureMember "height".toList members
    metadata := metadataMember members }

/-- The edge that an entry describes. A label that says nothing is empty. -/
def NewEdge.ofJson (v : Json) : Except Fault NewEdge := do
  let members ← entryMembers v
  let source ← requiredText "source".toList members
  let target ← requiredText "target".toList members
  let label ←
    match Table.get? members "label".toList with
    | some (.string s) => pure s
    | some v => if v.isSubstantial then throw (.unfitMember "label".toList) else pure []
    | none => pure []
  let id? ← optionalText "id".toList none members
  return { id?, source, target, label, metadata := metadataMember members }

/-- The entries of the member `name`: none if it is not there. The members of an
    object and the characters of a string stand for entries that are texts. -/
def entries (name : Text) (members : List (Text × Json)) : Except Fault (List Json) :=
  match Table.get? members name with
  | none => .ok []
  | some (.array vs) => .ok vs
  | some (.object ms) => .ok (ms.map fun (key, _) => .string key)
  | some (.string s) => .ok (s.map fun c => .string [c])
  | some v => .error (.notAList (.of v))

namespace Chart

/-- The chart with the nodes that the entries describe, added in order. -/
def addNodes (c : Chart) : List Json → Except Fault Chart
  | [] => .ok c
  | v :: rest => do
    let c ← c.addNode (← Node.ofJson v)
    c.addNodes rest

/-- The chart with the edges that the entries describe, added in order. -/
def addEdges (c : Chart) : List Json → Except Fault Chart
  | [] => .ok c
  | v :: rest => do
    let (c, _) ← c.addEdge (← NewEdge.ofJson v)
    c.addEdges rest

/-- The chart of a payload: all nodes first, then the edges. -/
def ofJson : Json → Except Fault Chart
  | .object members => do
    let name ← optionalText "name".toList (some loadedName) members
    let empty : Chart := { name, metadata := metadataMember members }
    let c ← empty.addNodes (← entries "nodes".toList members)
    c.addEdges (← entries "edges".toList members)
  | v => .error (.notAnObject (.of v))

/-- The fault of a text that is no JSON. -/
def jsonFault (s : Text) : Json.Failure → Fault
  | .problem what left => .notJson what (.of s left)
  | .longNumeral digits => .longNumeral digits

/-- The chart of a payload in a text. -/
def ofJsonText (s : Text) : Except Fault Chart := do
  let v ← (Json.read s).mapError (jsonFault s)
  ofJson v

end Chart

end FlowScript
