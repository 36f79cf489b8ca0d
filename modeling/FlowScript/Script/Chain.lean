import FlowScript.Script.Numbered

/-!
# The chain notation, and reading a text

```
Start -> Check input -> Done
Check input -> |retry| Start
```

Every line is a chain of labels joined by arrows. Equal labels are the same
node, so a label that comes on several lines is one node.

A chain may be wrapped, that is, go on over several lines. A line that ends with
an arrow is joined to the next line that is not blank, and a line that starts
with an arrow to the one before.

A text is read in the numbered notation if that applies, and in the chain
notation if it does not.
-/

namespace FlowScript

open Text (InkedLine)

/-! ## Wrapped lines -/

namespace Wrap

/-- Two inked lines in a row belong to one chain. -/
def joins (a b : InkedLine) : Bool :=
  Arrow.closes a.text || Arrow.opens b.text

/-- The groups of inked lines that belong together. -/
def groups (s : Text) : List (List InkedLine) :=
  (Text.inkedLines s).splitBy joins

/-- A group as one line, which has the number of the first. -/
def unwrap (group : List InkedLine) : InkedLine :=
  ⟨(group.head?.map InkedLine.number).getD 0, Text.join [' '] (group.map InkedLine.text)⟩

/-- The chains of a text, each on one line. -/
def unwrappedLines (s : Text) : List InkedLine :=
  (groups s).map unwrap

end Wrap

/-! ## Chains -/

namespace Chain

/-- The hops of a chain that lead to something. -/
def hops (line : InkedLine) : List Hop :=
  (Hop.ofLine line.text).filter Hop.hasTarget

/-- The edge label in front of the first node of a chain, which has no source. -/
def strayLabel (hops : List Hop) : List Complaint :=
  match hops with
  | [] => []
  | h :: _ => if h.label.isEmpty then [] else [.labelWithoutSource h.label]

/-- The notes on a chain. -/
def notes (line : InkedLine) : List Note :=
  let complaints := (Hop.ofLine line.text).filterMap Hop.complaint ++ strayLabel (hops line)
  complaints.map fun c => ⟨line.number, c, line.text⟩

/-- The labels of chains, each at its first place. -/
def labels (lines : List InkedLine) : List Text :=
  (lines.flatMap fun line => (hops line).map Hop.target).eraseDups

/-- The links of chains, in order. -/
def links (lines : List InkedLine) : List Link :=
  lines.flatMap fun line => Link.ofHops (hops line)

/-- A text read in the chain notation, which needs an arrow and two labels that
    differ. -/
def read (s : Text) : Reading :=
  if !Arrow.occursIn s then .notApplicable .noArrow
  else
    let lines := Wrap.unwrappedLines s
    if (labels lines).length < 2 then .notApplicable .tooFewLabels
    else
      .recognized chainDialect (.labelled (labels lines) (links lines)) (lines.flatMap notes)

end Chain

/-! ## Either notation -/

namespace Reading

/-- A text read in the first notation that applies. -/
def ofText (s : Text) : Reading :=
  if Text.isBlankText s then .notApplicable .emptyInput
  else
    match Numbered.read s with
    | .recognized dialect sketch notes => .recognized dialect sketch notes
    | .notApplicable numbered =>
      match Chain.read s with
      | .recognized dialect sketch notes => .recognized dialect sketch notes
      | .notApplicable chain => .notApplicable (.neither numbered chain)

/-- The notes of a reading. -/
def notes : Reading → List Note
  | .recognized _ _ notes => notes
  | .notApplicable _ => []

end Reading

end FlowScript
