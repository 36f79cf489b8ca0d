import FlowScript.Chart.Basic

/-!
# Mermaid

A chart as a Mermaid flowchart. Nodes are called `N0`, `N1` and so on in their
order, because ids may hold dashes, which Mermaid takes for parts of arrows.
Quotes, parentheses and pipes in labels are written by their codes, and line
feeds as line breaks.
-/

namespace FlowScript.Mermaid

/-- A character inside a label. -/
def sanitizeChar (c : Char) : Text :=
  if c = '"' then "#quot;".toList
  else if c = '(' then "#40;".toList
  else if c = ')' then "#41;".toList
  else if c = '|' then "#124;".toList
  else if c = '\n' then "<br/>".toList
  else [c]

/-- A text inside a label. -/
def sanitize (s : Text) : Text :=
  s.flatMap sanitizeChar

/-- The name of the node at a place of the chart. -/
def nameAt (place : Nat) : Text :=
  'N' :: Text.ofNat place

/-- The name of the node with the id. -/
def nameOf (c : Chart) (id : Text) : Text :=
  nameAt (c.nodeIds.idxOf id)

/-- The line of a node, the one at a place of the chart. -/
def nodeLine (place : Nat) (label : Text) : Text :=
  "    ".toList ++ nameAt place ++ "[\"".toList ++ sanitize label ++ "\"]".toList

/-- The line of an edge between the nodes of the given names. -/
def edgeLine (source target label : Text) : Text :=
  let arrow :=
    if label.isEmpty then " --> ".toList
    else " -- ".toList ++ sanitize label ++ " --> ".toList
  "    ".toList ++ source ++ arrow ++ target

/-- The lines of the nodes, the first of which is at `place`. -/
def nodeLines : (place : Nat) → List Node → Except Fault (List Text)
  | _, [] => .ok []
  | place, n :: rest =>
    match n.label with
    | none => .error (.nullText "replace".toList)
    | some label => (nodeLines (place + 1) rest).map (nodeLine place label :: ·)

/-- The chart as a Mermaid flowchart that runs in the given direction. -/
def write (c : Chart) (direction : Text) : Except Fault Text := do
  let nodes ← nodeLines 0 c.nodes
  let edges := c.edges.map fun e => edgeLine (nameOf c e.source) (nameOf c e.target) e.caption
  return Text.join ['\n'] (("graph ".toList ++ direction) :: (nodes ++ edges))

/-- The direction from top to bottom. -/
def downward : Text := "TD".toList

end FlowScript.Mermaid
