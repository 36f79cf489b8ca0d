import FlowScript.Document.Basic
import FlowScript.Proofs.Chart.Build
import FlowScript.Proofs.Chart.Grid

/-!
# Adding a node to a document

A numbered chart gives a new node the number after the greatest one, whose id
is free (`of_nextToken`). Elsewhere the id comes from the label, and a node
may have it already although the label belongs to no id: the label is then
*revived*, and goes to the id of that node without showing on the node. It may
also be that the label belongs to an id that no node has, if the registry is
not in step with the nodes; the new node then takes that id.

`addNode_cases` says all that adding a node can do to a document: nothing, a new
node at the end, with an id of its own or one that was there, or the revival of
a label.
-/

namespace FlowScript.Document

variable {c : Chart} {d : Document} {n : Node} {id label token : Text} {ids : List Text}

/-! ## The next number -/

theorem le_greatestToken {greatest : Nat} (h : greatestToken ids = .ok greatest) :
    ∀ id ∈ ids, Text.numeralValue (Ident.token id) ≤ greatest := by
  induction ids generalizing greatest with
  | nil => simp
  | cons id rest ih =>
    rw [greatestToken] at h
    split at h
    · cases h
    · cases hrest : greatestToken rest with
      | error fault =>
        rw [hrest] at h
        cases h
      | ok least =>
        rw [hrest] at h
        obtain rfl := Except.ok.inj h
        rw [List.forall_mem_cons]
        exact ⟨Nat.le_max_left _ _,
          fun other ho => (ih hrest other ho).trans (Nat.le_max_right _ _)⟩

/-- The next number is the token of an id that no node has. -/
theorem of_nextToken (h : nextToken c = .ok token) :
    Text.isNumeral token = true ∧ Ident.numbered token ∉ c.nodeIds := by
  rw [nextToken] at h
  cases hg : greatestToken c.nodeIds with
  | error fault =>
    rw [hg] at h
    cases h
  | ok greatest =>
    rw [hg] at h
    simp only [bind, Except.bind] at h
    split at h
    · cases h
    obtain rfl := Except.ok.inj h
    refine ⟨Text.isNumeral_ofNat _, fun hmem => ?_⟩
    -- A node with that token would have a number above the greatest one.
    have hle := le_greatestToken hg _ hmem
    rw [Ident.token_numbered (Text.isNumeral_ofNat _), Text.numeralValue_ofNat] at hle
    exact Nat.not_succ_le_self _ hle

/-! ## The node and its cell -/

/-- A node with a new id comes last, in its cell or in none. -/
theorem append_of_not_mem (h : n.id ∉ d.chart.nodeIds) :
    ∃ m : Node, m.unplaced = n.unplaced ∧
      (d.append n).1 = { d with chart := { d.chart with nodes := d.chart.nodes ++ [m] } } := by
  rw [append, Chart.addNode_of_not_mem h]
  simp only
  cases hplace : d.grid.place n (Int.ofNat (d.chart.nodes ++ [n]).length - 1)
      (d.chart.nodes ++ [n]).length with
  | error fault => exact ⟨n, rfl, rfl⟩
  | ok placed => exact ⟨placed, Grid.unplaced_place hplace, rfl⟩

/-- A node with a new id for which there is a cell comes last, in that cell. -/
theorem append_of_place {m : Node} (h : n.id ∉ d.chart.nodeIds)
    (hplace : d.grid.place n d.chart.nodes.length (d.chart.nodes.length + 1 : Nat) = .ok m) :
    d.append n = ({ d with chart := { d.chart with nodes := d.chart.nodes ++ [m] } }, .ok m) := by
  have hlast : Int.ofNat (d.chart.nodes.length + 1) - 1 = d.chart.nodes.length := by
    rw [Int.ofNat_eq_natCast]
    omega
  rw [append, Chart.addNode_of_not_mem h]
  simp only [List.length_append, List.length_singleton, hlast, hplace]

/-! ## Adding -/

/-- The label belongs to no id, and a node has the id that is made from it. -/
def Revives (d : Document) (label : Text) : Prop :=
  d.chart.form = .chain ∧ d.registry.idFor? (Text.trim label) = none ∧
    d.chart.hasNode (Ident.labelled label) = true

instance (d : Document) (label : Text) : Decidable (d.Revives label) :=
  inferInstanceAs (Decidable (_ ∧ _ ∧ _))

/-- The document with a node of the label at the end, under a new id. -/
structure Gains (d : Document) (id label : Text) (d' : Document) : Prop where
  /-- The id is new. -/
  fresh : id ∉ d.chart.nodeIds
  /-- The id suits the notation of the chart. -/
  numbered : d.chart.form = .numbered → Ident.isNumbered id = true
  /-- The id is on one line. -/
  unbroken : Text.Unbroken id
  /-- A node with the id and the label has been added, and registered. -/
  gained : ∃ n : Node, n.id = id ∧ n.label = some label ∧
    d' = { d with
      chart := { d.chart with nodes := d.chart.nodes ++ [n] }
      registry := d.registry.assign id label }

/-- The document with a node at the end that takes the id to which its label
    belongs. -/
structure Adopts (d : Document) (id label : Text) (d' : Document) : Prop where
  /-- The chart is not numbered. -/
  chain : d.chart.form = .chain
  /-- The label belongs to the id. -/
  owner : d.registry.idFor? label = some id
  /-- No node had the id. -/
  fresh : id ∉ d.chart.nodeIds
  /-- A node with the id and the label has been added. -/
  adopted : ∃ n : Node, n.id = id ∧ n.label = some label ∧
    d' = { d with chart := { d.chart with nodes := d.chart.nodes ++ [n] } }

theorem gains_append (hfresh : id ∉ d.chart.nodeIds)
    (hnum : d.chart.form = .numbered → Ident.isNumbered id = true) (hunbroken : Text.Unbroken id)
    (label : Text) : d.Gains id label
      (append { d with registry := d.registry.assign id label } { id, label := some label }).1 := by
  obtain ⟨m, hm, heq⟩ := append_of_not_mem (d := { d with registry := d.registry.assign id label })
    (n := { id, label := some label }) hfresh
  refine ⟨hfresh, hnum, hunbroken, m, congrArg Node.id hm, congrArg Node.label hm, ?_⟩
  rw [heq]

theorem adopts_append (hform : d.chart.form = .chain) (howner : d.registry.idFor? label = some id)
    (hfresh : id ∉ d.chart.nodeIds) :
    d.Adopts id label (d.append { id, label := some label }).1 := by
  obtain ⟨m, hm, heq⟩ := append_of_not_mem (n := { id, label := some label }) hfresh
  exact ⟨hform, howner, hfresh, m, congrArg Node.id hm, congrArg Node.label hm, heq⟩

/-- Adding a node does nothing, or adds one, or revives a label. -/
theorem addNode_cases (d : Document) (label : Text) :
    (¬d.Revives label ∧ ((d.addNode label).1 = d ∨
      (∃ id l, d.Gains id l (d.addNode label).1) ∨ ∃ id l, d.Adopts id l (d.addNode label).1)) ∨
    (d.Revives label ∧ (d.addNode label).1 =
      { d with registry := d.registry.assign (Ident.labelled label) (Text.trim label) }) := by
  rw [addNode]
  cases hform : d.chart.form with
  | numbered =>
    have hnot : ¬d.Revives label := fun h => absurd (hform.symm.trans h.1) (by decide)
    refine .inl ⟨hnot, ?_⟩
    simp only
    cases htoken : nextToken d.chart with
    | error fault => exact .inl rfl
    | ok token =>
      obtain ⟨hnum, hfresh⟩ := of_nextToken htoken
      exact .inr (.inl ⟨_, _, gains_append hfresh (fun _ => Ident.isNumbered_numbered hnum)
        (Ident.unbroken_numbered (Text.isNumeral_inked hnum).unbroken) label⟩)
  | chain =>
    simp only
    cases hid : d.registry.idFor? (Text.trim label) with
    | some id =>
      have hnot : ¬d.Revives label := fun h => by
        rw [h.2.1] at hid
        cases hid
      refine .inl ⟨hnot, ?_⟩
      -- The node that has the id of the label is the answer, or gets added.
      rw [Registry.resolve_of_idFor? hid]
      simp only
      cases hnode : d.chart.node? id with
      | some n => exact .inl rfl
      | none =>
        have hhas : d.chart.hasNode id = false := by
          rw [Chart.hasNode, hnode]
          rfl
        exact .inr (.inr ⟨_, _, adopts_append hform hid (Chart.hasNode_eq_false_iff.1 hhas)⟩)
    | none =>
      -- The label goes to the id that is made from it. If a node has that id all
      -- the same, it is the answer and keeps the label that it shows.
      rw [Registry.resolve_of_idFor?_eq_none hid, Ident.labelled_trim]
      simp only
      cases hnode : d.chart.node? (Ident.labelled label) with
      | some n =>
        refine .inr ⟨⟨hform, hid, ?_⟩, rfl⟩
        rw [Chart.hasNode, hnode]
        rfl
      | none =>
        have hhas : d.chart.hasNode (Ident.labelled label) = false := by
          rw [Chart.hasNode, hnode]
          rfl
        refine .inl ⟨fun h => ?_, .inr (.inl ⟨_, _, gains_append
          (Chart.hasNode_eq_false_iff.1 hhas) (fun hnum => absurd (hform.symm.trans hnum)
            (by decide)) (Ident.unbroken_labelled label) (Text.trim label)⟩)⟩
        rw [h.2.2] at hhas
        cases hhas

end FlowScript.Document
