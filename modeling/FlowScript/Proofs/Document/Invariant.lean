import FlowScript.Proofs.Document.AddNode
import FlowScript.Proofs.Document.Build
import FlowScript.Proofs.Export.Form

/-!
# What holds of a document at any time

A document is *wired* when its edges are numbered in order, join nodes and have
clean labels. It is *sound* when the registry fits too: its ids are those of the
nodes, in order, and its tables are paired. A new document is sound and every
action keeps it so (`Sound.act`), whether or not it succeeds, as long as texts
that are built fit into a memory (`Action.Fits`).

What an action can do to a wired document, but for building, is said once
(`Change`, `Wired.change`); whatever is kept is kept by each such change.

* `Sound.run`: a document is sound after any history;
* `Wired.exists_run`: edits of edges change the edges and nothing else;
* `Wired.form_run`: nothing but building changes the notation in which the
  chart is written.
-/

namespace FlowScript

variable {d : Document} {id label s : Text} {ls : List Link}

namespace Document

/-! ## Soundness -/

/-- The edges of a document are in order. -/
structure Wired (d : Document) : Prop where
  /-- The edges are numbered in order. -/
  linked : d.chart.linked d.chart.links = d.chart
  /-- Edges join nodes. -/
  ends : ∀ l ∈ d.chart.links, l.source ∈ d.chart.nodeIds ∧ l.target ∈ d.chart.nodeIds
  /-- The labels of edges can be written. -/
  clean : ∀ l ∈ d.chart.links, EdgeLabel.Clean l.label

/-- The parts of a document fit together. -/
structure Sound (d : Document) : Prop extends Wired d where
  /-- The registry has the ids of the nodes, in order. -/
  keys : Table.keys d.registry.labels = d.chart.nodeIds
  /-- The tables of the registry fit together. -/
  paired : d.registry.Paired

/-- The edges of a document join nodes. -/
theorem Wired.mem_nodeIds_of_mem_edges (h : d.Wired) :
    ∀ e ∈ d.chart.edges, e.source ∈ d.chart.nodeIds ∧ e.target ∈ d.chart.nodeIds :=
  fun e he => h.ends e.link (List.mem_map_of_mem he)

theorem sound_new (name : Option Text) (grid : Grid) : Sound (new name grid) where
  linked := rfl
  ends _ h := absurd h List.not_mem_nil
  clean _ h := absurd h List.not_mem_nil
  keys := rfl
  paired := Registry.paired_empty

/-- A document that has been built is sound. -/
theorem Built.sound (h : Built d s) : d.Sound where
  keys := by
    rw [h.registry, Registry.keys_enroll (Build.nodup_plan (wellFormed_sketchOf s)), h.nodeIds_eq]
  paired := h.registry ▸ Registry.paired_empty.enroll _
  linked := by rw [h.links_eq, h.linked]
  ends l hl := by
    rw [h.nodeIds_eq]
    exact Build.mem_plan_of_mem_wiring (wellFormed_sketchOf s) (h.links_eq ▸ hl)
  clean l hl := clean_of_mem_wiring (h.links_eq ▸ hl)

/-! ## Edits of edges -/

/-- The document with other links, numbered in order. -/
def relink (d : Document) (ls : List Link) : Document :=
  { d with chart := d.chart.linked ls }

/-- Links that a document can have. -/
structure Fits (d : Document) (ls : List Link) : Prop where
  /-- They join nodes. -/
  ends : ∀ l ∈ ls, l.source ∈ d.chart.nodeIds ∧ l.target ∈ d.chart.nodeIds
  /-- Their labels can be written. -/
  clean : ∀ l ∈ ls, EdgeLabel.Clean l.label

theorem wired_relink (hls : d.Fits ls) : (d.relink ls).Wired where
  linked := by
    rw [Document.relink, Chart.links_linked]
    rfl
  ends := by
    rw [Document.relink, Chart.links_linked]
    exact hls.ends
  clean := by
    rw [Document.relink, Chart.links_linked]
    exact hls.clean

theorem Wired.relink_self (h : d.Wired) : d.relink d.chart.links = d := by
  rw [Document.relink, h.linked]

theorem Wired.fits (h : d.Wired) : d.Fits d.chart.links :=
  ⟨h.ends, h.clean⟩

/-- Changing the label of one link. -/
theorem Fits.modify (h : d.Fits ls) {i : Nat} (hlabel : EdgeLabel.Clean label) :
    d.Fits (ls.modify i fun l => { l with label := label }) := by
  have hmem : ∀ l ∈ ls.modify i fun l => { l with label := label },
      ∃ m ∈ ls, l = m ∨ l = { m with label := label } := by
    intro l hl
    obtain ⟨j, hj⟩ := List.mem_iff_getElem?.1 hl
    rw [List.getElem?_modify] at hj
    obtain ⟨m, hm, rfl⟩ := Option.map_eq_some_iff.1 hj
    refine ⟨m, List.mem_of_getElem? hm, ?_⟩
    -- The link at place `i` has the new label, any other the old one.
    split
    · exact .inr rfl
    · exact .inl rfl
  refine ⟨fun l hl => ?_, fun l hl => ?_⟩
  · obtain ⟨m, hm, rfl | rfl⟩ := hmem l hl
    · exact h.ends _ hm
    · exact h.ends m hm
  · obtain ⟨m, hm, rfl | rfl⟩ := hmem l hl
    · exact h.clean _ hm
    · exact hlabel

/-- A new label of an edge is a new label of a link. -/
theorem Wired.exists_relabelEdge (h : d.Wired) (id label : Text) :
    ∃ ls, (d.relabelEdge id label).1 = d.relink ls ∧ d.Fits ls := by
  rw [relabelEdge]
  cases he : d.chart.edge? id with
  | none => exact ⟨d.chart.links, h.relink_self.symm, h.fits⟩
  | some e =>
    -- The edge is one of those that are numbered in order, and so is a link.
    rw [← h.linked] at he
    obtain ⟨i, hi, rfl, -⟩ := Chart.of_edge?_linked he
    have hset := Chart.setEdgeLabel_linked (c := d.chart) hi (EdgeLabel.normalize label)
    rw [h.linked] at hset
    refine ⟨d.chart.links.modify i fun l => { l with label := EdgeLabel.normalize label }, ?_,
      h.fits.modify (EdgeLabel.clean_normalize label)⟩
    simp only [hset]
    rfl

theorem Wired.exists_editEdge (h : d.Wired) (id : Text) (ask : Option Text → Option Text) :
    ∃ ls, (d.editEdge id ask).1 = d.relink ls ∧ d.Fits ls := by
  have hself : ∃ ls, d = d.relink ls ∧ d.Fits ls := ⟨d.chart.links, h.relink_self.symm, h.fits⟩
  rw [editEdge]
  split
  · exact hself
  · next e he =>
    split
    · exact hself
    · next label hask => exact h.exists_relabelEdge id label

/-- A new edge is one more link, unless an end is missing. -/
theorem Wired.exists_connect (h : d.Wired) (source target label : Text) :
    ∃ ls, (d.connect source target label).1 = d.relink ls ∧ d.Fits ls := by
  have hself : ∃ ls, d = d.relink ls ∧ d.Fits ls := ⟨d.chart.links, h.relink_self.symm, h.fits⟩
  by_cases hends : source ∈ d.chart.nodeIds ∧ target ∈ d.chart.nodeIds
  · have hadd := Chart.addEdge_linked d.chart.links ⟨source, target, EdgeLabel.normalize label⟩
      hends.1 hends.2
    rw [h.linked] at hadd
    refine ⟨d.chart.links ++ [⟨source, target, EdgeLabel.normalize label⟩], ?_, ?_, ?_⟩
    · rw [connect]
      simp only at hadd
      simp only [hadd]
      rfl
    · rw [List.forall_mem_append, List.forall_mem_singleton]
      exact ⟨h.ends, hends⟩
    · rw [List.forall_mem_append, List.forall_mem_singleton]
      exact ⟨h.clean, EdgeLabel.clean_normalize label⟩
  · -- An end is missing, and the fault leaves the chart as it was.
    obtain ⟨fault, hfault⟩ := Chart.addEdge_of_not_mem (c := d.chart)
      (e := { source, target, label := EdgeLabel.normalize label }) hends
    rw [connect, hfault]
    exact hself

/-! ## What an action can do -/

/-- What becomes of a document in an action that does not build it. -/
inductive Change (d : Document) : Document → Prop where
  /-- The edges change, and nothing else. -/
  | relinked {ls : List Link} : d.Fits ls → Change d (d.relink ls)
  /-- A node gets a label. -/
  | relabelled {id label : Text} : id ∈ d.chart.nodeIds → Change d (d.relabelNode id label).1
  /-- A node is added. -/
  | gained {id label : Text} {d' : Document} : d.Gains id label d' → Change d d'
  /-- A node is added, under an id that the registry had. -/
  | adopted {id label : Text} {d' : Document} : d.Adopts id label d' → Change d d'
  /-- A label is revived. -/
  | revived {label : Text} : d.Revives label → Change d { d with
      registry := d.registry.assign (Ident.labelled label) (Text.trim label) }

theorem Wired.unchanged (h : d.Wired) : Change d d := by
  have hself := Change.relinked h.fits
  rwa [h.relink_self] at hself

theorem Wired.change_relabelNode (h : d.Wired) (id label : Text) :
    Change d (d.relabelNode id label).1 := by
  by_cases hid : d.chart.hasNode id = true
  · exact .relabelled (Chart.hasNode_iff.1 hid)
  · rw [relabelNode, if_neg hid]
    exact h.unchanged

theorem Wired.change_editNode (h : d.Wired) (id : Text) (ask : Text → Option Text) :
    Change d (d.editNode id ask).1 := by
  rw [editNode]
  split
  · simp only
    split
    · exact h.unchanged
    · next label _ => exact h.change_relabelNode id label
  · exact h.unchanged

theorem Wired.change_addNode (h : d.Wired) (label : Text) : Change d (d.addNode label).1 := by
  rcases d.addNode_cases label with
    ⟨-, heq | ⟨id, l, hgain⟩ | ⟨id, l, hadopt⟩⟩ | ⟨hrev, heq⟩
  · rw [heq]
    exact h.unchanged
  · exact .gained hgain
  · exact .adopted hadopt
  · rw [heq]
    exact .revived hrev

/-- The action builds the document from a text. -/
def Action.Builds : Action → Prop
  | .build _ => True
  | _ => False

/-- The action changes edges only. -/
def Action.EditsEdges : Action → Prop
  | .relabelEdge .. | .editEdge .. | .connect .. => True
  | _ => False

/-- Edits of edges change the links and nothing else. -/
theorem Wired.exists_act (h : d.Wired) {a : Action} (ha : a.EditsEdges) :
    ∃ ls, d.act a = d.relink ls ∧ d.Fits ls := by
  cases a with
  | relabelEdge id label => exact h.exists_relabelEdge id label
  | editEdge id ask => exact h.exists_editEdge id ask
  | connect source target label => exact h.exists_connect source target label
  | build | relabelNode | editNode | addNode => cases ha

/-- All that an action can do but for building. -/
theorem Wired.change (h : d.Wired) {a : Action} (ha : ¬a.Builds) : Change d (d.act a) := by
  have hedges (hedits : a.EditsEdges) : Change d (d.act a) := by
    obtain ⟨ls, hact, hls⟩ := h.exists_act hedits
    exact hact ▸ .relinked hls
  cases a with
  | build s => exact absurd trivial ha
  | relabelNode id label => exact h.change_relabelNode id label
  | editNode id ask => exact h.change_editNode id ask
  | addNode label => exact h.change_addNode label
  | relabelEdge | editEdge | connect => exact hedges trivial

/-! ## What a change keeps -/

variable {d' : Document}

theorem nodeIds_relabelNode (d : Document) (id label : Text) :
    (d.relabelNode id label).1.chart.nodeIds = d.chart.nodeIds := by
  rw [relabelNode]
  split
  · exact Chart.nodeIds_modifyNode fun _ => rfl
  · rfl

theorem grid_relabelNode (d : Document) (id label : Text) :
    (d.relabelNode id label).1.grid = d.grid := by
  rw [relabelNode]
  split <;> rfl

theorem Change.grid_eq (h : Change d d') : d'.grid = d.grid := by
  cases h with
  | relinked => rfl
  | relabelled => exact grid_relabelNode d _ _
  | gained hgain =>
    obtain ⟨n, -, -, rfl⟩ := hgain.gained
    rfl
  | adopted hadopt =>
    obtain ⟨n, -, -, rfl⟩ := hadopt.adopted
    rfl
  | revived => rfl

theorem Change.form_eq (h : Change d d') : d'.chart.form = d.chart.form := by
  cases h with
  | relinked => rfl
  | relabelled => exact Chart.form_congr (nodeIds_relabelNode d _ _)
  | gained hgain =>
    obtain ⟨n, rfl, -, rfl⟩ := hgain.gained
    exact Chart.form_append List.map_append hgain.numbered
  | adopted hadopt =>
    obtain ⟨n, rfl, -, rfl⟩ := hadopt.adopted
    exact Chart.form_append List.map_append fun hnum => absurd (hadopt.chain.symm.trans hnum)
      (by decide)
  | revived => rfl

/-- The registry gives a label to the id of a node, or is left alone. -/
theorem Change.registry_cases (h : Change d d') : d'.registry = d.registry ∨
    ∃ id ∈ d'.chart.nodeIds, ∃ label, d'.registry = d.registry.assign id label := by
  cases h with
  | relinked => exact .inl rfl
  | @relabelled id label hid =>
    refine .inr ⟨id, ?_, label, ?_⟩
    · rwa [nodeIds_relabelNode]
    · rw [relabelNode, if_pos (Chart.hasNode_iff.2 hid)]
  | gained hgain =>
    obtain ⟨n, rfl, -, rfl⟩ := hgain.gained
    exact .inr ⟨n.id, List.mem_map_of_mem (List.mem_append_right _ List.mem_cons_self), _, rfl⟩
  | adopted hadopt =>
    obtain ⟨n, -, -, rfl⟩ := hadopt.adopted
    exact .inl rfl
  | revived hrev => exact .inr ⟨_, Chart.hasNode_iff.1 hrev.2.2, _, rfl⟩

theorem Change.paired (h : Change d d') (hd : d.registry.Paired) : d'.registry.Paired := by
  rcases h.registry_cases with heq | ⟨id, -, label, heq⟩
  · rwa [heq]
  · rw [heq]
    exact hd.assign id label

/-- The chart gets at most one more node, whose id is on one line or was in the
    registry. -/
theorem Change.nodeIds_cases (h : Change d d') : d'.chart.nodeIds = d.chart.nodeIds ∨
    ∃ id ∉ d.chart.nodeIds, d'.chart.nodeIds = d.chart.nodeIds ++ [id] ∧
      (Text.Unbroken id ∨ ∃ label, d.registry.idFor? label = some id) := by
  cases h with
  | relinked | revived => exact .inl rfl
  | relabelled => exact .inl (nodeIds_relabelNode d _ _)
  | gained hgain =>
    obtain ⟨n, rfl, -, rfl⟩ := hgain.gained
    exact .inr ⟨n.id, hgain.fresh, List.map_append, .inl hgain.unbroken⟩
  | adopted hadopt =>
    obtain ⟨n, rfl, -, rfl⟩ := hadopt.adopted
    exact .inr ⟨n.id, hadopt.fresh, List.map_append, .inr ⟨_, hadopt.owner⟩⟩

theorem Change.nodeIds_subset (h : Change d d') : d.chart.nodeIds ⊆ d'.chart.nodeIds := by
  rcases h.nodeIds_cases with heq | ⟨id, -, heq, -⟩
  · rw [heq]
    exact fun _ hid => hid
  · rw [heq]
    exact List.subset_append_left _ _

/-- The edges are in order whatever the labels, and however many nodes there
    are. -/
theorem Wired.congr (h : d.Wired) {nodes : List Node} (hids : d.chart.nodeIds ⊆ nodes.map Node.id)
    (r : Registry) : Wired { d with chart := { d.chart with nodes }, registry := r } where
  linked := by
    conv_rhs => rw [← h.linked]
    rfl
  ends l hl := ⟨hids (h.ends l hl).1, hids (h.ends l hl).2⟩
  clean := h.clean

/-- A change keeps the edges in order. -/
theorem Wired.of_change (h : d.Wired) (hd : Change d d') : d'.Wired := by
  have hsub := hd.nodeIds_subset
  cases hd with
  | relinked hls => exact wired_relink hls
  | relabelled hid =>
    rw [relabelNode, if_pos (Chart.hasNode_iff.2 hid)] at hsub ⊢
    exact h.congr hsub _
  | gained hgain =>
    obtain ⟨n, -, -, rfl⟩ := hgain.gained
    exact h.congr hsub _
  | adopted hadopt =>
    obtain ⟨n, -, -, rfl⟩ := hadopt.adopted
    exact h.congr hsub _
  | revived => exact h.congr hsub _

/-- No label of a sound document belongs to an id that no node has. -/
theorem Sound.not_adopts (h : d.Sound) : ¬d.Adopts id label d' := fun hadopt =>
  hadopt.fresh (h.keys ▸ Table.mem_keys_of_get? (h.paired.holds _ _ hadopt.owner))

/-- A change keeps a document sound. -/
theorem Sound.of_change (h : d.Sound) (hd : Change d d') : d'.Sound where
  toWired := h.toWired.of_change hd
  keys := by
    cases hd with
    | relinked => exact h.keys
    | relabelled hid =>
      rw [nodeIds_relabelNode, relabelNode, if_pos (Chart.hasNode_iff.2 hid), ← h.keys]
      exact Registry.keys_labels_assign_of_mem (h.keys ▸ hid)
    | gained hgain =>
      obtain ⟨n, rfl, -, rfl⟩ := hgain.gained
      have hids : (d.chart.nodes ++ [n]).map Node.id = d.chart.nodeIds ++ [n.id] :=
        List.map_append
      -- The new id comes last in the registry as in the chart.
      rw [Chart.nodeIds, hids, ← h.keys]
      exact Registry.keys_labels_assign_of_not_mem (h.keys ▸ hgain.fresh)
    | adopted hadopt => exact absurd hadopt h.not_adopts
    | revived hrev =>
      have hid := Chart.hasNode_iff.1 hrev.2.2
      exact (Registry.keys_labels_assign_of_mem (h.keys ▸ hid)).trans h.keys
  paired := hd.paired h.paired

/-! ## Histories -/

/-- A text that the action builds fits into a memory. -/
def Action.Fits : Action → Prop
  | .build s => s.length < sizeLimit
  | _ => True

/-- Every action keeps a document sound, and its grid. -/
theorem Sound.act (h : d.Sound) (hgrid : d.grid = {}) {a : Action} (ha : a.Fits) :
    (d.act a).Sound ∧ (d.act a).grid = {} := by
  by_cases hb : a.Builds
  · cases a with
    | build s =>
      exact ⟨(of_build (build_default_eq_none hgrid ha)).sound, (grid_build d s).trans hgrid⟩
    | relabelNode | relabelEdge | editNode | editEdge | addNode | connect => cases hb
  · have hchange := h.change hb
    exact ⟨h.of_change hchange, hchange.grid_eq.trans hgrid⟩

/-- A document on the default grid is sound after any history. -/
theorem Sound.run (h : d.Sound) (hgrid : d.grid = {}) {actions : List Action}
    (hactions : ∀ a ∈ actions, a.Fits) : (d.run actions).Sound := by
  induction actions generalizing d with
  | nil => exact h
  | cons a rest ih =>
    rw [List.forall_mem_cons] at hactions
    obtain ⟨hsound, hgrid⟩ := h.act hgrid hactions.1
    exact ih hsound hgrid hactions.2

/-- Edits of edges change the links and nothing else, however many they are. -/
theorem Wired.exists_run (h : d.Wired) {edits : List Action} (hedits : ∀ a ∈ edits, a.EditsEdges) :
    ∃ ls, d.run edits = d.relink ls ∧ d.Fits ls := by
  induction edits generalizing d with
  | nil => exact ⟨d.chart.links, h.relink_self.symm, h.fits⟩
  | cons a rest ih =>
    rw [List.forall_mem_cons] at hedits
    obtain ⟨ls, hact, hls⟩ := h.exists_act hedits.1
    obtain ⟨ms, hrun, hms⟩ := ih (wired_relink hls) hedits.2
    refine ⟨ms, ?_, hms.ends, hms.clean⟩
    rw [Document.run, List.foldl_cons, hact]
    exact hrun

/-- Nothing but building changes the notation of the chart. -/
theorem Wired.form_run (h : d.Wired) {edits : List Action} (hedits : ∀ a ∈ edits, ¬a.Builds) :
    (d.run edits).chart.form = d.chart.form := by
  induction edits generalizing d with
  | nil => rfl
  | cons a rest ih =>
    rw [List.forall_mem_cons] at hedits
    have hchange := h.change hedits.1
    exact (ih (h.of_change hchange) hedits.2).trans hchange.form_eq

end Document

end FlowScript
