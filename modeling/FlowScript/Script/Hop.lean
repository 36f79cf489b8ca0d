import FlowScript.Script.Arrow
import FlowScript.Script.Note

/-!
# Hops and links

A hop is one segment of a line that is split at its arrows: a target, perhaps
with the label of the edge that leads to it, as in `|label| target`. Two hops
in a row make a link, which is labelled by the second.
-/

namespace FlowScript

/-- One segment between arrows. -/
structure Hop where
  /-- The label of the edge into the target; empty if there is none. -/
  label : Text
  /-- The target; empty if there is none. -/
  target : Text
  /-- What looks wrong with the segment. -/
  complaint : Option Complaint
  deriving DecidableEq

/-- The hop that a segment holds. A segment that opens with a pipe and has no
    second one is a bare target. -/
def Hop.ofSegment (segment : Text) : Hop :=
  match Text.trim segment with
  | '|' :: rest =>
    match Text.cut? '|' rest with
    | some (label, target) => ⟨Text.trim label, Text.trim target, none⟩
    | none => ⟨[], Text.trim rest, some (.malformedLabel ('|' :: rest))⟩
  | target => ⟨[], target, none⟩

/-- The hops of a line. -/
def Hop.ofLine (line : Text) : List Hop :=
  (Arrow.split line).map Hop.ofSegment

/-- The hop leads to something. -/
def Hop.hasTarget (h : Hop) : Bool :=
  !h.target.isEmpty

/-- An edge as it is written: between tokens or labels. -/
structure Link where
  /-- Where the edge starts. -/
  source : Text
  /-- Where the edge ends. -/
  target : Text
  /-- The label of the edge; empty if there is none. -/
  label : Text
  deriving DecidableEq

/-- The links between neighbouring hops. -/
def Link.ofHops (hops : List Hop) : List Link :=
  List.zipWith (fun a b => ⟨a.target, b.target, b.label⟩) hops hops.tail

end FlowScript
