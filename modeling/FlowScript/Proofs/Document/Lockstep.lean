import FlowScript.Proofs.Document.Invariant

/-!
# Labels of nodes and of the registry

A node has its label twice, on the node and in the registry. Building,
relabelling and adding nodes write both, but reviving a label writes only the
registry: the label goes to the id that is made from it, and the node with that
id, which has been relabelled before, keeps what it shows. From then on the
node is *stale*, until it is relabelled or everything is built anew.

* `label_eq_iff_not_stale`: after any history, the nodes that show what the
  registry holds are those that are not stale;
* `revived_label_not_shown`: a history of three actions after which a node is
  stale.
-/

namespace FlowScript.Document

open Build (sketchOf)

variable {d d' : Document} {stale : List Text} {n : Node} {id label s : Text}

/-- The ids of the stale nodes after an action. -/
def staleAfter (d : Document) (stale : List Text) : Action → List Text
  | .build _ => []
  | .relabelNode id _ => stale.filter fun other => other ≠ id
  | .editNode id ask =>
    if (d.editNode id ask).2.applied then stale.filter fun other => other ≠ id else stale
  | .addNode label => if d.Revives label then Ident.labelled label :: stale else stale
  | .relabelEdge .. | .editEdge .. | .connect .. => stale

/-- The ids of the stale nodes after a list of actions. -/
def staleFrom (d : Document) (stale : List Text) : List Action → List Text
  | [] => stale
  | a :: rest => (d.act a).staleFrom (d.staleAfter stale a) rest

/-- The stale nodes are those that do not show what the registry holds. -/
structure InStep (d : Document) (stale : List Text) : Prop where
  /-- Stale ids are those of nodes. -/
  subset : stale ⊆ d.chart.nodeIds
  /-- The nodes that are not stale show what the registry holds. -/
  current : ∀ n ∈ d.chart.nodes, n.id ∉ stale → n.label = some (d.registry.labelFor n.id)
  /-- Stale nodes show something else. -/
  behind : ∀ n ∈ d.chart.nodes, n.id ∈ stale → n.label ≠ some (d.registry.labelFor n.id)
  /-- The registry holds, for a stale node, the label that its id is made from. -/
  revived : ∀ id ∈ stale, ∃ label, id = Ident.labelled label ∧
    d.registry.labelFor id = Text.trim label

theorem inStep_new (name : Option Text) (grid : Grid) : InStep (new name grid) [] where
  subset _ h := absurd h List.not_mem_nil
  current _ h := absurd h List.not_mem_nil
  behind _ h := absurd h List.not_mem_nil
  revived _ h := absurd h List.not_mem_nil

/-! ## Building -/

theorem label_of_mem_plan {sketch : Sketch} (h : n ∈ sketch.plan) : n.label = some n.caption := by
  cases sketch with
  | blank => cases h
  | numbered nodes links =>
    rcases List.mem_append.1 h with h | h
    · obtain ⟨m, -, rfl⟩ := List.mem_map.1 h
      rfl
    · obtain ⟨token, -, rfl⟩ := List.mem_map.1 h
      rfl
  | labelled labels links =>
    obtain ⟨l, -, rfl⟩ := List.mem_map.1 h
    rfl

/-- The registry holds the labels of the nodes that have been built. -/
theorem Built.labelFor (h : Built d s) (hn : n ∈ d.chart.nodes) :
    n.label = some (d.registry.labelFor n.id) := by
  have hplan : n.unplaced ∈ (sketchOf (Reading.ofText s)).plan :=
    h.nodes ▸ List.mem_map_of_mem hn
  have hheld : d.registry.labelFor n.id = n.caption := by
    rw [h.registry]
    exact Registry.labelFor_enroll (n := n.unplaced)
      (Build.nodup_plan (wellFormed_sketchOf s)) hplan
  rw [hheld]
  exact label_of_mem_plan (n := n.unplaced) hplan

theorem Built.inStep (h : Built d s) : InStep d [] where
  subset _ h := absurd h List.not_mem_nil
  current _ hn _ := h.labelFor hn
  behind _ _ h := absurd h List.not_mem_nil
  revived _ h := absurd h List.not_mem_nil

/-! ## Changing labels -/

/-- Edits of edges concern neither nodes nor registry. -/
theorem InStep.relink (h : d.InStep stale) (ls : List Link) : (d.relink ls).InStep stale :=
  ⟨h.subset, h.current, h.behind, h.revived⟩

/-- A node that is relabelled is in step again. -/
theorem InStep.relabelNode (h : d.InStep stale) (id label : Text) :
    (d.relabelNode id label).1.InStep (stale.filter fun other => other ≠ id) := by
  have hfilter {other : Text} :
      (other ∈ stale.filter fun o => o ≠ id) ↔ other ∈ stale ∧ other ≠ id := by
    simp
  rw [Document.relabelNode]
  split
  · -- A node of the new chart is the one that is relabelled or an old one.
    have hnode {n : Node}
        (hn : n ∈ (d.chart.modifyNode id fun n => { n with label := some label }).nodes) :
        (n.id = id ∧ n.label = some label) ∨ (n.id ≠ id ∧ n ∈ d.chart.nodes) := by
      obtain ⟨m, hm, rfl⟩ := List.mem_map.1 hn
      by_cases hid : m.id = id
      · rw [if_pos hid]
        exact .inl ⟨hid, rfl⟩
      · rw [if_neg hid]
        exact .inr ⟨hid, hm⟩
    -- The node that is relabelled is in step, and for all others nothing changes.
    refine ⟨fun other ho => ?_, fun n hn hns => ?_, fun n hn hns => ?_, fun other ho => ?_⟩
    · show other ∈ (d.chart.modifyNode id _).nodeIds
      rw [Chart.nodeIds_modifyNode]
      · exact h.subset (hfilter.1 ho).1
      · exact fun _ => rfl
    · rcases hnode hn with ⟨hid, hlabel⟩ | ⟨hid, hmem⟩
      · rw [hlabel, hid, Registry.labelFor_assign_self]
      · rw [Registry.labelFor_assign_of_ne hid]
        exact h.current n hmem fun hs => hns (hfilter.2 ⟨hs, hid⟩)
    · obtain ⟨hs, hid⟩ := hfilter.1 hns
      rcases hnode hn with ⟨heq, -⟩ | ⟨-, hmem⟩
      · exact absurd heq hid
      · rw [Registry.labelFor_assign_of_ne hid]
        exact h.behind n hmem hs
    · obtain ⟨hs, hid⟩ := hfilter.1 ho
      rw [Registry.labelFor_assign_of_ne hid]
      exact h.revived other hs
  · next hid =>
    -- There is no such node, so there is no such stale one.
    have hid : id ∉ d.chart.nodeIds := fun hmem => hid (Chart.hasNode_iff.2 hmem)
    have hsame : (stale.filter fun other => other ≠ id) = stale :=
      List.filter_eq_self.2 fun other ho => by
        simpa using fun heq : other = id => hid (heq ▸ h.subset ho)
    rwa [hsame]

theorem InStep.editNode (h : d.InStep stale) (id : Text) (ask : Text → Option Text) :
    (d.editNode id ask).1.InStep (d.staleAfter stale (.editNode id ask)) := by
  rw [staleAfter, Document.editNode]
  by_cases hid : d.chart.hasNode id = true
  · rw [if_pos hid]
    cases hask : ask (d.registry.labelFor id) with
    | none =>
      simp only [hask]
      exact h
    | some label =>
      have happlied : (d.relabelNode id label).2 = true := by rw [Document.relabelNode, if_pos hid]
      simp only [hask, happlied, if_true]
      exact h.relabelNode id label
  · rw [if_neg hid]
    exact h

/-! ## Adding nodes -/

/-- A label that a node has in the registry belongs to an id. -/
theorem Sound.idFor?_labelFor (h : d.Sound) (hid : id ∈ d.chart.nodeIds) :
    d.registry.idFor? (d.registry.labelFor id) ≠ none := by
  rw [← h.keys, ← Table.isSome_get?_iff, Option.isSome_iff_exists] at hid
  obtain ⟨label, hget⟩ := hid
  rw [Registry.labelFor_of_get? hget]
  exact Option.isSome_iff_ne_none.1 (h.paired.owned id label hget)

theorem InStep.gain (h : d.InStep stale) (hgain : d.Gains id label d') : d'.InStep stale := by
  obtain ⟨m, hid, hlabel, rfl⟩ := hgain.gained
  have hstale {other : Text} (ho : other ∈ stale) : other ≠ id := fun heq =>
    hgain.fresh (heq ▸ h.subset ho)
  refine ⟨fun other ho => ?_, fun n hn hns => ?_, fun n hn hns => ?_, fun other ho => ?_⟩
  · exact List.mem_map.2 <| (List.mem_map.1 (h.subset ho)).imp fun n hn =>
      ⟨List.mem_append_left _ hn.1, hn.2⟩
  · rcases List.mem_append.1 hn with hn | hn
    · have hne : n.id ≠ id := fun heq => hgain.fresh (heq ▸ List.mem_map_of_mem hn)
      rw [Registry.labelFor_assign_of_ne hne]
      exact h.current n hn hns
    · rw [List.mem_singleton.1 hn, hid, Registry.labelFor_assign_self, hlabel]
  · rcases List.mem_append.1 hn with hn | hn
    · rw [Registry.labelFor_assign_of_ne (hstale hns)]
      exact h.behind n hn hns
    · exact absurd ((congrArg Node.id (List.mem_singleton.1 hn)).trans hid) (hstale hns)
  · rw [Registry.labelFor_assign_of_ne (hstale ho)]
    exact h.revived other ho

/-- The node whose label is revived was in step before, and is not afterwards. -/
theorem InStep.revive (h : d.InStep stale) (hd : d.Sound) (hrev : d.Revives label) :
    InStep { d with registry := d.registry.assign (Ident.labelled label) (Text.trim label) }
      (Ident.labelled label :: stale) := by
  obtain ⟨-, hnone, hhas⟩ := hrev
  have hmem := Chart.hasNode_iff.1 hhas
  -- The registry held another label for the node, as this one belonged to no id.
  have hheld : d.registry.labelFor (Ident.labelled label) ≠ Text.trim label := fun heq =>
    hd.idFor?_labelFor hmem (heq ▸ hnone)
  -- So the node was not stale: what the registry holds for a stale node is the
  -- label that its id is made from.
  have hfresh : Ident.labelled label ∉ stale := fun hs => by
    obtain ⟨other, hid, hlabel⟩ := h.revived _ hs
    exact hheld (hlabel.trans (Ident.trim_eq_of_labelled_eq hid).symm)
  refine ⟨List.cons_subset.2 ⟨hmem, h.subset⟩, fun n hn hns => ?_, fun n hn hns => ?_,
    fun other ho => ?_⟩
  · rw [List.mem_cons, not_or] at hns
    rw [Registry.labelFor_assign_of_ne hns.1]
    exact h.current n hn hns.2
  · by_cases hid : n.id = Ident.labelled label
    · rw [hid, Registry.labelFor_assign_self, h.current n hn (hid ▸ hfresh), hid]
      exact fun heq => hheld (Option.some.inj heq)
    · rw [Registry.labelFor_assign_of_ne hid]
      exact h.behind n hn ((List.mem_cons.1 hns).resolve_left hid)
  · by_cases hid : other = Ident.labelled label
    · exact ⟨label, hid, by rw [hid, Registry.labelFor_assign_self]⟩
    · rw [Registry.labelFor_assign_of_ne hid]
      exact h.revived other ((List.mem_cons.1 ho).resolve_left hid)

theorem InStep.addNode (h : d.InStep stale) (hd : d.Sound) (label : Text) :
    (d.addNode label).1.InStep (d.staleAfter stale (.addNode label)) := by
  rw [staleAfter]
  rcases d.addNode_cases label with
    ⟨hnot, heq | ⟨id, l, hgain⟩ | ⟨id, l, hadopt⟩⟩ | ⟨hrev, heq⟩
  · rwa [if_neg hnot, heq]
  · rw [if_neg hnot]
    exact h.gain hgain
  · exact absurd hadopt hd.not_adopts
  · rw [if_pos hrev, heq]
    exact h.revive hd hrev

/-! ## Histories -/

theorem InStep.act (h : d.InStep stale) (hd : d.Sound) (hgrid : d.grid = {}) {a : Action}
    (ha : a.Fits) : (d.act a).InStep (d.staleAfter stale a) := by
  have hedges (hedits : a.EditsEdges) : (d.act a).InStep stale := by
    obtain ⟨ls, hact, -⟩ := hd.exists_act hedits
    exact hact ▸ h.relink ls
  cases a with
  | build s => exact (of_build (build_default_eq_none hgrid ha)).inStep
  | relabelNode id label => exact h.relabelNode id label
  | editNode id ask => exact h.editNode id ask
  | addNode label => exact h.addNode hd label
  | relabelEdge | editEdge | connect => exact hedges trivial

theorem InStep.run (h : d.InStep stale) (hd : d.Sound) (hgrid : d.grid = {})
    {actions : List Action} (hactions : ∀ a ∈ actions, a.Fits) :
    (d.run actions).InStep (d.staleFrom stale actions) := by
  induction actions generalizing d stale with
  | nil => exact h
  | cons a rest ih =>
    rw [List.forall_mem_cons] at hactions
    obtain ⟨hsound, hgrid'⟩ := hd.act hgrid hactions.1
    exact ih (h.act hd hgrid hactions.1) hsound hgrid' hactions.2

/-- After any history of a new document on the default grid, the nodes that show
    what the registry holds are those that are not stale. -/
theorem label_eq_iff_not_stale (name : Option Text) (actions : List Action)
    (hactions : ∀ a ∈ actions, a.Fits) :
    ∀ n ∈ ((new name {}).run actions).chart.nodes,
      n.label = some (((new name {}).run actions).registry.labelFor n.id) ↔
        n.id ∉ (new name {}).staleFrom [] actions := by
  intro n hn
  have h := (inStep_new name {}).run (sound_new name {}) rfl hactions
  exact ⟨fun heq hs => h.behind n hn hs heq, h.current n hn⟩

/-- A node that is relabelled and whose old label is added is stale, and the
    other node is not. -/
theorem stale_after_revival :
    let actions : List Action := [.build "a -> b".toList, .relabelNode "t_YQ".toList "c".toList,
      .addNode "a".toList]
    (∀ a ∈ actions, a.Fits) ∧ (new none {}).staleFrom [] actions = ["t_YQ".toList] ∧
      ∀ n ∈ ((new none {}).run actions).chart.nodes,
        n.label = some (((new none {}).run actions).registry.labelFor n.id) ↔
          n.id ∉ (new none {}).staleFrom [] actions := by
  intro actions
  have hfits : ∀ a ∈ actions, a.Fits := by simp [actions, Action.Fits, sizeLimit]
  exact ⟨hfits, by decide +kernel, label_eq_iff_not_stale none actions hfits⟩

/-- After the revival of a label a node does not show what the registry holds. -/
theorem revived_label_not_shown :
    ∃ n ∈ ((new none {}).run [.build "a -> b".toList, .relabelNode "t_YQ".toList "c".toList,
        .addNode "a".toList]).chart.nodes,
      n.label = some "c".toList ∧
        ((new none {}).run [.build "a -> b".toList, .relabelNode "t_YQ".toList "c".toList,
          .addNode "a".toList]).registry.labelFor n.id = "a".toList := by
  decide +kernel

end FlowScript.Document
