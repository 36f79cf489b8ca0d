import FlowScript.Text.Line

/-!
# Arrows and edge labels

An arrow is one or more dashes and a `>`, or the character `→`. Splitting a
text at its arrows gives the segments between them; each arrow takes all the
dashes that lead up to its tip, so no segment in front of a dashed arrow ends
with a dash.

The label of an edge is written between pipes on one line, in front of what an
arrow leads to. Any text is made fit for that place: its lines are trimmed and
joined by spaces, pipes become slashes and arrows become `=>`.
-/

namespace FlowScript

namespace Arrow

/-- The text goes on with dashes, or none, and the tip of an arrow. -/
def isTail : Text → Bool
  | '>' :: _ => true
  | '-' :: rest => isTail rest
  | _ => false

/-- The text begins with an arrow. -/
def opens : Text → Bool
  | '→' :: _ => true
  | '-' :: rest => isTail rest
  | _ => false

/-- The text ends with an arrow. -/
def closes (s : Text) : Bool :=
  match s.reverse with
  | '→' :: _ => true
  | '>' :: '-' :: _ => true
  | _ => false

/-- There is an arrow in the text. -/
def occursIn : Text → Bool
  | [] => false
  | '→' :: _ => true
  | '-' :: '>' :: _ => true
  | _ :: rest => occursIn rest

/-- The segments between the arrows of a text; without an arrow, the text. -/
def split : Text → List Text
  | [] => [[]]
  | '→' :: rest => [] :: split rest
  | '-' :: '>' :: rest => [] :: split rest
  | '-' :: rest =>
    -- a dash in front of a dashed arrow is part of that arrow
    if isTail rest then split rest else Text.consFirst '-' (split rest)
  | c :: rest => Text.consFirst c (split rest)

/-- The text with `new` in the place of each arrow. -/
def replace (new s : Text) : Text :=
  Text.join new (split s)

end Arrow

namespace EdgeLabel

/-- The inked lines of a text on one line. -/
def flatten (s : Text) : Text :=
  Text.join [' '] ((Text.inkedLines s).map Text.InkedLine.text)

/-- The text as an edge label. -/
def normalize (s : Text) : Text :=
  Text.trim (Arrow.replace ['=', '>'] (Text.replace '|' ['/'] (flatten s)))

end EdgeLabel

end FlowScript
