import FlowScript.Chart.Payload
import FlowScript.Document.Basic
import FlowScript.Export.Dot
import FlowScript.Export.Mermaid
import FlowScript.Text.Alphanumeric

/-!
# Formats

The formats that a document is written in, by name, and the file that a
document of a given name goes into.
-/

namespace FlowScript

/-- A format to write a document in. -/
inductive Format where
  /-- The notation that the ids call for. -/
  | auto
  /-- The numbered notation. -/
  | numbered
  /-- The chain notation. -/
  | chain
  /-- A Mermaid flowchart. -/
  | mermaid
  /-- A digraph in DOT. -/
  | dot
  /-- The payload. -/
  | json
  deriving DecidableEq

namespace Format

/-- The names of the formats; DOT has two. -/
def names : List (Text × Format) :=
  [("auto".toList, auto), ("dsl".toList, numbered), ("chain".toList, chain),
    ("mermaid".toList, mermaid), ("graphviz".toList, dot), ("dot".toList, dot),
    ("json".toList, json)]

/-- The format of a name. -/
def ofName (name : Text) : Except Fault Format :=
  match names.lookup name with
  | some f => .ok f
  | none => .error (.unknownFormat name (names.map Prod.fst))

/-- What a file name ends in for a document in the format. -/
def extension (d : Document) : Format → Text
  | auto => '.' :: d.chart.form.name
  | numbered => ".dsl".toList
  | chain => ".chain".toList
  | mermaid => ".mmd".toList
  | dot => ".dot".toList
  | json => ".json".toList

/-- A document in the format. -/
def render (d : Document) : Format → Except Fault Text
  | auto => .ok d.text
  | numbered => .ok (d.chart.toNumbered d.registry)
  | chain => .ok (d.chart.toChain d.registry)
  | mermaid => Mermaid.write d.chart Mermaid.downward
  | dot => Dot.write d.chart (some Dot.downward) false
  | json => d.chart.toJsonText Chart.payloadSpread

/-- A character of a document's name that may stand in a file name. -/
def isFileChar (c : Char) : Bool :=
  Text.isAlphanumeric c || c == '_'

/-- A document's name as a file name: in lower case, with underscores for spaces
    and slashes, and without anything else but letters and numbers. -/
def fileStem (name : Text) : Text :=
  let s := Text.replace '/' ['_'] (Text.replace ' ' ['_'] (Text.lower name))
  match s.filter isFileChar with
  | [] => "flow".toList
  | stem => stem

/-- The name of the file that a document goes into. -/
def fileName (d : Document) (f : Format) : Except Fault Text :=
  match d.name with
  | none => .error (.nullText "lower".toList)
  | some name => .ok (fileStem name ++ f.extension d)

/-- What a file holds: the document and a line feed. -/
def fileText (d : Document) (f : Format) : Except Fault Text :=
  (f.render d).map (· ++ ['\n'])

end Format

end FlowScript
