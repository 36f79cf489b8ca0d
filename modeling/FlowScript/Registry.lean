import FlowScript.Ident
import FlowScript.Table

/-!
# The registry of ids and labels

Two tables, each kept in step with the other: the label of each id, in the order
in which the ids came, and for each label in use one id that holds it. Several ids may
hold the same label; the label then belongs to the one that got it last, and
falls to the first other holder when that one gives it up.

The order of the ids is that of their labels' table and decides who inherits a
label. The order of the other table means nothing: it is only looked into by
label.
-/

namespace FlowScript

/-- The labels of ids and the ids of labels. -/
structure Registry where
  /-- The label of each id. -/
  labels : Table Text
  /-- The id that each label belongs to, in no order that means anything. -/
  ids : Table Text

namespace Registry

open Text (Halves)

/-- The registry without entries. -/
def empty : Registry := ⟨[], []⟩

/-- The label of an id; empty for an id that is not there. -/
def labelFor (r : Registry) (id : Text) : Text :=
  (Table.get? r.labels id).getD []

/-- The id that a label belongs to. -/
def idFor? (r : Registry) (label : Text) : Option Text :=
  Table.get? r.ids label

/-- The id is in the registry. -/
def contains (r : Registry) (id : Text) : Bool :=
  Table.contains r.labels id

/-- The first id other than `id` that holds `label`. -/
def otherHolder? (r : Registry) (id label : Text) : Option Text :=
  (r.labels.find? fun (other, held) => other ≠ id ∧ held = label).map Prod.fst

/-- The label that belongs to `id`, if the label that it holds does. -/
def owned? (r : Registry) (id : Text) : Option Text :=
  match Table.get? r.labels id with
  | none => none
  | some label => if Table.get? r.ids label = some id then some label else none

/-- The registry in which `id` has given up the label that belongs to it. A
    label that is inherited keeps its place, which means nothing. -/
def unlink (r : Registry) (id : Text) : Registry :=
  match r.owned? id with
  | none => r
  | some label =>
    match r.otherHolder? id label with
    | none => { r with ids := Table.erase r.ids label }
    | some other => { r with ids := Table.put r.ids label other }

/-- The registry in which `id` holds `label` and the label belongs to it. -/
def assign (r : Registry) (id label : Text) : Registry :=
  let r := r.unlink id
  ⟨Table.put r.labels id label, Table.put r.ids label id⟩

/-- The registry without `id`. -/
def remove (r : Registry) (id : Text) : Registry :=
  let r := r.unlink id
  { r with labels := Table.erase r.labels id }

/-- The id of a whole label, trimmed: the one that it belongs to, or else the id
    made from the label, which is registered. -/
def resolve (r : Registry) (label : Text) : Registry × Text :=
  let label := Text.trim label
  match r.idFor? label with
  | some id => (r, id)
  | none => (r.assign (Ident.labelled label) label, Ident.labelled label)

/-- The id of a label that may hold halves, with which it has an id only if it
    belongs to one. -/
def resolveRaw (r : Registry) (h : Halves) (label : Text) : Except Fault (Registry × Text) :=
  let label := Text.trim label
  match r.idFor? label with
  | some id => .ok (r, id)
  | none => (Ident.labelledRaw h label).map fun id => (r.assign id label, id)

/-- The registry in which labels have been resolved one after the other, and the
    fault at which that ended, if it did before the last of them. -/
def resolveAll (r : Registry) (h : Halves) : List Text → Registry × Option Fault
  | [] => (r, none)
  | label :: rest =>
    match r.resolveRaw h label with
    | .ok (r, _) => r.resolveAll h rest
    | .error fault => (r, some fault)

/-- The label that passes to another id when `id` gives it up, and that id. -/
def passedOn? (r : Registry) (id : Text) : Option (Text × Text) := do
  let label ← r.owned? id
  let other ← r.otherHolder? id label
  return (label, other)

/-! ## Histories -/

/-- Something that is done to a registry. -/
inductive Action where
  /-- Resolve a label. -/
  | resolve (label : Text)
  /-- Assign a label to an id. -/
  | assign (id label : Text)
  /-- Remove an id. -/
  | remove (id : Text)
  /-- Remove all ids. -/
  | clear

/-- The registry after an action. -/
def act (r : Registry) : Action → Registry
  | .resolve label => (r.resolve label).1
  | .assign id label => r.assign id label
  | .remove id => r.remove id
  | .clear => empty

/-- The registry after a list of actions. -/
def run (r : Registry) (actions : List Action) : Registry :=
  actions.foldl act r

/-- The registry after an action whose label may hold halves; a fault leaves it as
    it was. -/
def actRaw (h : Halves) (r : Registry) : Action → Registry
  | .resolve label =>
    match r.resolveRaw h label with
    | .ok (r, _) => r
    | .error _ => r
  | a => r.act a

/-- The registry after a list of actions whose labels may hold halves. -/
def runRaw (r : Registry) (h : Halves) (actions : List Action) : Registry :=
  actions.foldl (actRaw h) r

end Registry

end FlowScript
