import FlowScript.Chart.Basic
import FlowScript.Text.LetterCase

/-!
# DOT

A chart as a digraph in the DOT language, with boxes for nodes and labels on
edges. A name is written bare if it is an identifier or a numeral and no
keyword, as it is if it is markup between angle brackets, and otherwise between
quotes. In the name of an edge's end a colon separates the node from its port.

On request nodes are pinned to the cells of the grid: from pixels to points,
and turned over, since DOT counts upwards.
-/

namespace FlowScript.Dot

/-! ## Names -/

/-- A letter or an underscore, of the ASCII range. -/
def isWordStart (c : Char) : Bool :=
  c.isAlpha || c == '_'

/-- An ASCII letter, digit or underscore. -/
def isWordChar (c : Char) : Bool :=
  c.isAlphanum || c == '_'

/-- The text is an identifier. -/
def isWord : Text → Bool
  | [] => false
  | c :: rest => isWordStart c && rest.all isWordChar

/-- The text is digits with perhaps a point: digits and an optional fraction,
    or a point and digits. -/
def isUnsigned (s : Text) : Bool :=
  let whole := s.takeWhile Char.isDigit
  match s.dropWhile Char.isDigit with
  | [] => !whole.isEmpty
  | '.' :: fraction => fraction.all Char.isDigit && !(whole.isEmpty && fraction.isEmpty)
  | _ => false

/-- The text is a numeral, perhaps negative. -/
def isNumeral : Text → Bool
  | '-' :: rest => isUnsigned rest
  | s => isUnsigned s

/-- The text without one last line feed. -/
def dropLastLineFeed (s : Text) : Text :=
  match s.reverse with
  | '\n' :: rest => rest.reverse
  | _ => s

/-- The words that mean something in the language. -/
def keywords : List Text :=
  ["node".toList, "edge".toList, "graph".toList, "digraph".toList, "subgraph".toList,
    "strict".toList]

/-- The text may be written bare. -/
def isBare (s : Text) : Bool :=
  let core := dropLastLineFeed s
  (isWord core || isNumeral core) && !keywords.contains (Text.lower s)

/-- The text is markup: between angle brackets, or with a last line feed after
    the closing one. -/
def isMarkup (s : Text) : Bool :=
  s.head? == some '<' && 2 ≤ (dropLastLineFeed s).length
    && (dropLastLineFeed s).getLast? == some '>'

/-- The text with each quote escaped by a backslash, unless an odd number of
    backslashes in front of it does so already; `odd` says so of those in front
    of the text. -/
def escapeQuotes : (odd : Bool) → Text → Text
  | _, [] => []
  | odd, c :: rest =>
    if c = '\\' then c :: escapeQuotes (!odd) rest
    else if c = '"' then
      if odd then c :: escapeQuotes false rest else '\\' :: c :: escapeQuotes false rest
    else c :: escapeQuotes false rest

/-- A name or a label as it is written. -/
def quote (s : Text) : Text :=
  if isMarkup s || isBare s then s else '"' :: (escapeQuotes false s ++ ['"'])

/-- The end of an edge: a node, and after a first colon its port, and after a
    second one its compass point, which is always bare. -/
def quoteEnd (s : Text) : Text :=
  let (node, rest) := (Text.cut? ':' s).getD (s, [])
  let (port, compass) := (Text.cut? ':' rest).getD (rest, [])
  let point := if compass.isEmpty then [] else ':' :: compass
  if rest.isEmpty then quote node else quote node ++ ':' :: (quote port ++ point)

/-! ## Positions -/

/-- The points in a pixel. -/
def pointsPerPixel : Float := 0.75

/-- A coordinate in points. -/
def scaled (n : Number) : Except Fault Text :=
  match n.toFloat? with
  | none => .error .tooLarge
  | some x => .ok (Number.briefText (x * pointsPerPixel))

/-- The pinned position of a node. -/
def position (n : Node) : Except Fault Text := do
  let some x := n.x | throw .nullAbscissa
  let left ← scaled x
  let some y := n.y | throw .nullOrdinate
  let top ← scaled y.neg
  return left ++ ',' :: (top ++ ['!'])

/-! ## Statements -/

/-- The statement of a node; line feeds in the label are written as escapes. -/
def nodeStatement (pinned : Bool) (n : Node) : Except Fault Text := do
  let pos ← if pinned then (position n).map fun p => "pos=".toList ++ quote p ++ [' '] else pure []
  let some label := n.label | throw (.nullText "replace".toList)
  return '\t' :: (quote n.id ++ " [label=".toList ++ quote (Text.replace '\n' ['\\', 'n'] label)
    ++ ' ' :: (pos ++ "shape=box]\n".toList))

/-- The attributes of an edge: its label, even an empty one. -/
def edgeAttributes (label : Option Text) : Text :=
  match label with
  | none => []
  | some label => " [label=".toList ++ quote label ++ [']']

/-- The statement of an edge. -/
def edgeStatement (e : Edge) : Text :=
  '\t' :: (quoteEnd e.source ++ " -> ".toList ++ quoteEnd e.target ++ edgeAttributes e.label
    ++ ['\n'])

/-- The attribute of the rank direction, if there is one. -/
def rankAttribute (rankdir : Option Text) : Text :=
  match rankdir with
  | none => []
  | some rankdir => "rankdir=".toList ++ quote rankdir

/-- The lines in front of the statements: the name in a comment, the opening
    and the rank direction, whose line is there without it too. -/
def opening (name : Text) (rankdir : Option Text) : Text :=
  let title := if name.isEmpty then [] else quote name ++ [' ']
  let comment := if name.isEmpty then [] else "// ".toList ++ name ++ ['\n']
  comment ++ "digraph ".toList ++ title ++ "\x7b\n".toList
    ++ '\t' :: (rankAttribute rankdir ++ ['\n'])

/-- The chart as a digraph with the given rank direction, with the nodes pinned
    to their cells if `pinned`. -/
def write (c : Chart) (rankdir : Option Text) (pinned : Bool) : Except Fault Text := do
  let nodes ← c.nodes.mapM (nodeStatement pinned)
  return opening (c.name.getD []) rankdir ++ nodes.flatten ++ c.edges.flatMap edgeStatement
    ++ "\x7d\n".toList

/-- The rank direction from top to bottom. -/
def downward : Text := "TB".toList

end FlowScript.Dot
