import FlowScript.Script.Sketch
import FlowScript.Text.Digit

/-!
# The numbered notation

```
1.Start
2.Check input
validate every field
3.Done
1->2->|ok|3
```

A line of digits, a point and a label defines a node. Any other line with an
arrow connects nodes, and may stand anywhere. Every other line goes on with the
label of the node that was defined last, on a line of its own. A second
definition of a node replaces its label.
-/

namespace FlowScript.Numbered

open Text (InkedLine)

/-- What an inked line is. -/
inductive LineKind where
  /-- It defines the node `token`. -/
  | definition (token label : Text)
  /-- It connects nodes. -/
  | connection
  /-- It goes on with a label. -/
  | continuation
  deriving DecidableEq

/-- The kind of a trimmed line. -/
def LineKind.ofText (line : Text) : LineKind :=
  match Text.spanDigits line with
  | (d :: digits, '.' :: label) => .definition (d :: digits) (Text.trim label)
  | _ => if Arrow.occursIn line then .connection else .continuation

/-- What looks wrong with a hop of a connection. -/
def hopComplaints (h : Hop) : List Complaint :=
  h.complaint.toList ++
    if !h.hasTarget then [.emptyHop]
    else if Text.isNumeral h.target then []
    else [.notNumeric h.target]

/-- A label with one more line. -/
def extend (label line : Text) : Text :=
  if label.isEmpty then line else label ++ '\n' :: line

/-- What has been read so far. -/
structure Draft where
  /-- The nodes, in the order of their first definitions. -/
  nodes : List NumberedNode
  /-- The token of the node that was defined last. -/
  current : Option Text
  /-- The links, in order. -/
  links : List Link
  /-- The notes, in order. -/
  notes : List Note

namespace Draft

/-- Nothing has been read. -/
def empty : Draft := ⟨[], none, [], []⟩

/-- A node with the token is defined. -/
def defines (d : Draft) (token : Text) : Bool :=
  d.nodes.any fun n => n.token = token

/-- The draft with the label of the node `token` changed. -/
def relabel (d : Draft) (token : Text) (change : Text → Text) : Draft :=
  { d with
    nodes := d.nodes.map fun n =>
      if n.token = token then { n with label := change n.label } else n }

/-- The draft with one more note. -/
def note (d : Draft) (line : InkedLine) (complaint : Complaint) : Draft :=
  { d with notes := d.notes ++ [⟨line.number, complaint, line.text⟩] }

/-- The draft after a definition. -/
def define (d : Draft) (line : InkedLine) (token label : Text) : Draft :=
  let d := { d with current := some token }
  if d.defines token then
    (d.note line (.redefined token)).relabel token fun _ => label
  else
    { d with nodes := d.nodes ++ [⟨token, label⟩] }

/-- The draft after a connection. -/
def connect (d : Draft) (line : InkedLine) : Draft :=
  let hops := Hop.ofLine line.text
  let complaints := hops.flatMap hopComplaints
  { d with
    links := d.links ++ Link.ofHops (hops.filter Hop.hasTarget)
    notes := d.notes ++ complaints.map fun c => ⟨line.number, c, line.text⟩ }

/-- The draft after a line that goes on with a label. -/
def proceed (d : Draft) (line : InkedLine) : Draft :=
  match d.current with
  | none => d.note line .beforeDefinitions
  | some token => d.relabel token fun label => extend label line.text

/-- The draft after one more line. -/
def read (d : Draft) (line : InkedLine) : Draft :=
  match LineKind.ofText line.text with
  | .definition token label => d.define line token label
  | .connection => d.connect line
  | .continuation => d.proceed line

end Draft

/-- The draft of a whole text. -/
def draft (s : Text) : Draft :=
  (Text.inkedLines s).foldl Draft.read Draft.empty

/-- A text read in the numbered notation, which needs a definition. -/
def read (s : Text) : Reading :=
  let d := draft s
  if d.nodes.isEmpty then .notApplicable .noDefinitions
  else .recognized numberedDialect (.numbered d.nodes d.links) d.notes

end FlowScript.Numbered
