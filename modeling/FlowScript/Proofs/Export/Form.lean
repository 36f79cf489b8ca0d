import FlowScript.Export.Form
import FlowScript.Proofs.Chart.Linked
import FlowScript.Proofs.Script.EdgeLabel

/-!
# What the text of a chart depends on

The ids of the nodes decide on the notation (`form_congr`), and with the edges
and the registry they decide on the text (`toText_congr`): the labels on the
nodes and their places do not matter.
-/

namespace FlowScript.Chart

variable {c c' : Chart} {id : Text} {ls : List Link}

/-! ## The notation -/

theorem form_eq_numbered_iff :
    c.form = .numbered ↔ ∀ id ∈ c.nodeIds, Ident.isNumbered id = true := by
  simp only [form, nodeIds, List.all_eq_true, List.forall_mem_map]
  split
  · next h => exact iff_of_true rfl h
  · next h => exact iff_of_false (by decide) h

theorem form_eq_chain_iff : c.form = .chain ↔ c.form ≠ .numbered := by
  cases c.form <;> simp

/-- The ids of the nodes decide on the notation. -/
theorem form_congr (h : c'.nodeIds = c.nodeIds) : c'.form = c.form := by
  have hiff : c'.form = .numbered ↔ c.form = .numbered := by
    rw [form_eq_numbered_iff, form_eq_numbered_iff, h]
  cases hc : c.form with
  | numbered => exact hiff.2 hc
  | chain =>
    rw [form_eq_chain_iff] at hc ⊢
    exact mt hiff.1 hc

/-- One more node does not change the notation, unless it is the first that is
    not numbered. -/
theorem form_append (h : c'.nodeIds = c.nodeIds ++ [id])
    (hid : c.form = .numbered → Ident.isNumbered id = true) : c'.form = c.form := by
  cases hc : c.form with
  | numbered =>
    rw [form_eq_numbered_iff] at hc ⊢
    rw [h, List.forall_mem_append, List.forall_mem_singleton]
    exact ⟨hc, hid (form_eq_numbered_iff.2 hc)⟩
  | chain =>
    rw [form_eq_chain_iff, ne_eq, form_eq_numbered_iff] at hc ⊢
    rw [h, List.forall_mem_append]
    exact fun hall => hc hall.1

/-! ## The text -/

theorem map_definitionLine (r : Registry) (c : Chart) : c.nodes.map (definitionLine r) =
    c.nodeIds.map fun id => Ident.token id ++ '.' :: r.labelFor id := by
  rw [nodeIds, List.map_map]
  rfl

/-- The nodes without edges, by their ids. -/
theorem map_id_isolated (c : Chart) :
    c.isolated.map Node.id = c.nodeIds.filter fun id => !c.isConnected id := by
  rw [isolated, nodeIds, List.filter_map]
  rfl

theorem map_chainLabel_isolated (r : Registry) (c : Chart) :
    (c.isolated.map fun n => chainLabel r n.id) =
      (c.nodeIds.filter fun id => !c.isConnected id).map (chainLabel r) := by
  rw [← map_id_isolated, List.map_map]
  rfl

/-- The places and labels of the nodes do not matter for the text. -/
theorem toText_congr (r : Registry) (hids : c'.nodeIds = c.nodeIds) (hedges : c'.edges = c.edges) :
    c'.toText r = c.toText r := by
  have hnum : c'.toNumbered r = c.toNumbered r := by
    rw [toNumbered, map_definitionLine, hids, hedges, ← map_definitionLine, ← toNumbered]
  have hconnected : c'.isConnected = c.isConnected := by
    funext id
    rw [isConnected, hedges, ← isConnected]
  have hchain : c'.toChain r = c.toChain r := by
    rw [toChain, map_chainLabel_isolated, hids, hedges, hconnected, ← map_chainLabel_isolated,
      ← toChain]
  rw [toText, form_congr hids, hnum, hchain, ← toText]

/-- What is written for edges that are numbered in order is written for their
    links. -/
theorem map_edgesOf {α : Type} {f : Edge → α} {g : Link → α}
    (h : ∀ i, ∀ l ∈ ls, f (edgeAt i l) = g l) : (edgesOf ls).map f = ls.map g := by
  rw [edgesOf]
  refine List.ext_getElem (by simp) fun i h₁ h₂ => ?_
  simp only [List.getElem_map, List.getElem_mapIdx]
  exact h i _ (List.getElem_mem _)

end FlowScript.Chart
