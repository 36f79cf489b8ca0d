import FlowScript.Chart.Basic

/-!
# Writing to a chart

A chart that is kept in one place is written to bit by bit: an edge that is
added moves the counter on, goes into the list of edges and then into the
index. A fault ends an addition where it stands and takes back nothing that has
been written. The checks come first, so there is nothing to take back.
-/

namespace FlowScript

/-- A program that writes to a chart and may end in a fault, which leaves the
    chart as it has been written so far. -/
abbrev Write := ExceptT Fault (StateM Chart)

namespace Write

variable {α : Type}

/-- What comes of a program on a chart, and the chart after it. -/
def perform (w : Write α) (c : Chart) : Except Fault α × Chart :=
  ((ExceptT.run w).run c).run

/-- Add a node. -/
def node (n : Node) : Write Node := do
  if (← get).hasNode n.id then throw (.nodeExists n.id)
  modify fun c => { c with nodes := c.nodes ++ [n] }
  return n

/-- Move the counter on as long as the id of its number is taken, which is asked
    at most `steps` times. -/
def skipTaken : (steps : Nat) → Write Unit
  | 0 => return
  | steps + 1 => do
    let c ← get
    if Table.contains c.places (edgeId c.nextEdge) then
      set { c with nextEdge := c.nextEdge + 1 }
      skipTaken steps

/-- Use up the first number whose id is not taken, for that id. -/
def automaticId : Write Text := do
  skipTaken ((← get).places.length + 1)
  let k := (← get).nextEdge
  modify fun c => { c with nextEdge := k + 1 }
  return edgeId k

/-- An id that is given, if it is not taken. -/
def givenId (id : Text) : Write Text := do
  if Table.contains (← get).places id then throw (.edgeExists id)
  return id

/-- Add an edge. -/
def edge (e : NewEdge) : Write Edge := do
  if !(← get).hasNode e.source then throw (.sourceMissing e.source)
  if !(← get).hasNode e.target then throw (.targetMissing e.target)
  let id ←
    match e.id? with
    | none => automaticId
    | some id => givenId id
  let place := (← get).edges.length
  modify fun c => { c with edges := c.edges ++ [e.withId id] }
  modify fun c => { c with places := Table.put c.places id place }
  return e.withId id

end Write

/-! ## Histories -/

/-- Something that is added to a chart. -/
inductive Addition where
  /-- A node. -/
  | node (n : Node)
  /-- An edge. -/
  | edge (e : NewEdge)

/-- Add a node or an edge. -/
def Addition.write : Addition → Write Unit
  | .node n => do
    let _ ← Write.node n
    return
  | .edge e => do
    let _ ← Write.edge e
    return

/-- The chart after a list of additions, whether or not they succeed. -/
def Chart.addAll (c : Chart) (additions : List Addition) : Chart :=
  additions.foldl (fun c a => (a.write.perform c).2) c

/-- Add a node or an edge, and give it back as it has been added. -/
def Addition.give : Addition → Write (Node ⊕ Edge)
  | .node n => do return .inl (← Write.node n)
  | .edge e => do return .inr (← Write.edge e)

/-- What comes of each of a list of additions, one made after the other: what
    has been added, or why nothing has. -/
def Chart.outcomes (c : Chart) : List Addition → List (Except Fault (Node ⊕ Edge))
  | [] => []
  | a :: rest => (a.give.perform c).1 :: Chart.outcomes (a.give.perform c).2 rest

end FlowScript
