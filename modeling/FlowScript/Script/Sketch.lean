import FlowScript.Script.Hop

/-!
# What is read from a text

A text is read as a sketch: nodes and links as they are written, before any
node has an id. The numbered notation gives nodes with number tokens, the chain
notation labels. If neither applies, the reading says why.
-/

namespace FlowScript

/-- A node of the numbered notation. -/
structure NumberedNode where
  /-- The number token as it is written. -/
  token : Text
  /-- The label, of one or more lines. -/
  label : Text
  deriving DecidableEq

/-- The nodes and links of a text. -/
inductive Sketch where
  /-- Nothing is drawn. -/
  | blank
  /-- Numbered nodes, and links between their tokens. -/
  | numbered (nodes : List NumberedNode) (links : List Link)
  /-- Labels in the order in which they come, and links between them. -/
  | labelled (labels : List Text) (links : List Link)
  deriving DecidableEq

/-- Why a text is in no notation. -/
inductive Reason where
  /-- There is no ink. -/
  | emptyInput
  /-- No numbered definition. -/
  | noDefinitions
  /-- No arrow. -/
  | noArrow
  /-- A chain needs two labels that differ. -/
  | tooFewLabels
  /-- One reason against the numbered notation, one against the chain. -/
  | neither (numbered chain : Reason)
  deriving DecidableEq

/-- The name of the numbered notation. -/
def numberedDialect : Text := "dsl".toList

/-- The name of the chain notation. -/
def chainDialect : Text := "chain".toList

/-- The reason in words. -/
def Reason.message : Reason → Text
  | emptyInput => "empty input".toList
  | noDefinitions => "no node definitions".toList
  | noArrow => "no arrow found".toList
  | tooFewLabels => "fewer than two distinct labels".toList
  | neither numbered chain =>
    numberedDialect ++ ": ".toList ++ numbered.message ++ "; ".toList ++ chainDialect
      ++ ": ".toList ++ chain.message

/-- The outcome of reading a text. -/
inductive Reading where
  /-- The text is in the notation `dialect`. -/
  | recognized (dialect : Text) (sketch : Sketch) (notes : List Note)
  /-- The text is not in the notation, or in none. -/
  | notApplicable (reason : Reason)
  deriving DecidableEq

end FlowScript
