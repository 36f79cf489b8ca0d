import FlowScript.Text.Quoted

/-!
# Notes on a text

Reading a flow text never fails. What looks wrong is noted, with the line it
stands on, and the best reading is kept.
-/

namespace FlowScript

/-- What looks wrong on a line. -/
inductive Complaint where
  /-- A hop that opens with a pipe and has no second one. -/
  | malformedLabel (hop : Text)
  /-- Nothing between two arrows. -/
  | emptyHop
  /-- A connection to something that is no number token. -/
  | notNumeric (target : Text)
  /-- A second definition of a number token. -/
  | redefined (token : Text)
  /-- Text that no definition precedes. -/
  | beforeDefinitions
  /-- An edge label in front of the first node of a chain. -/
  | labelWithoutSource (label : Text)
  deriving DecidableEq

/-- The complaint in words. -/
def Complaint.message : Complaint → Text
  | malformedLabel hop => "malformed edge label in hop ".toList ++ Text.quoted hop
  | emptyHop => "empty hop dropped".toList
  | notNumeric target => "non-numeric node reference ".toList ++ Text.quoted target
  | redefined token => "node ".toList ++ token ++ " redefined".toList
  | beforeDefinitions => "text before the first node definition ignored".toList
  | labelWithoutSource label =>
    "edge label ".toList ++ Text.quoted label ++ " has no source".toList

/-- A complaint about a line. -/
structure Note where
  /-- The number of the line, or of the first of several joined ones. -/
  line : Nat
  /-- What looks wrong. -/
  complaint : Complaint
  /-- The trimmed text of the line, or of the joined ones. -/
  text : Text
  deriving DecidableEq

/-- The note in words. -/
def Note.message (n : Note) : Text :=
  "line ".toList ++ Text.ofNat n.line ++ ": ".toList ++ n.complaint.message

end FlowScript
