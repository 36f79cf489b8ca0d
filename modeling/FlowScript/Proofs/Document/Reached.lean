import FlowScript.Proofs.Document.Invariant

/-!
# What holds of a document on any grid

A grid that cannot take all nodes of a text makes the building of it fail. The
chart then stays, but the registry has been filled with the nodes of the text,
so the two are no longer in step and the document is not sound. It is *tidy*
all the same: the edges are in order, nodes have distinct ids that are on one
line, the tables of the registry are paired, and what the registry has beyond
the nodes can be written.

* `of_mem_plan`: the nodes of a text have ids that are made from tokens or labels,
  and labels that can be written;
* `Tidy.run`: a document is tidy after any history, on whatever grid.
-/

namespace FlowScript

open Build (sketchOf)

variable {d d' : Document} {n : Node} {id label s : Text}

/-- The ids of the nodes of a text are made from tokens or labels, and their labels
    can be written. -/
theorem of_mem_plan (h : n ∈ (sketchOf (Reading.ofText s)).plan) :
    Ident.Made n.id ∧ Numbered.Writable n.caption := by
  cases hr : Reading.ofText s with
  | notApplicable reason =>
    rw [hr] at h
    cases h
  | recognized dialect sketch notes =>
    rw [hr] at h
    rcases Reading.read_of_ofText hr with hn | ⟨-, hc⟩
    · obtain ⟨nodes, links, -, rfl, -, hw, -⟩ := Numbered.wellFormed_of_read hn
      rcases List.mem_append.1 h with h | h
      · obtain ⟨m, hm, rfl⟩ := List.mem_map.1 h
        exact ⟨.inl ⟨m.token, (Text.isNumeral_inked (hw.numeral m hm)).unbroken, rfl⟩,
          hw.writable m hm⟩
      · -- A placeholder is labelled by its token, which is the end of a link.
        obtain ⟨token, htoken, rfl⟩ := List.mem_map.1 h
        have hinked : Text.Inked token := by
          obtain ⟨⟨l, hl, rfl | rfl⟩, -⟩ := Build.mem_undeclared.1 htoken
          · exact (hw.links l hl).source.toInked
          · exact (hw.links l hl).target.toInked
        exact ⟨.inl ⟨token, hinked.unbroken, rfl⟩, .line hinked⟩
    · obtain ⟨labels, links, -, rfl, -, hw, -⟩ := Chain.wellFormed_of_read hc
      obtain ⟨l, hl, rfl⟩ := List.mem_map.1 h
      exact ⟨.inr ⟨l, rfl⟩, .line (hw.target l hl).toInked⟩

namespace Document

/-- The ids of the nodes of a text are made from tokens or labels. -/
theorem Built.made (h : Built d s) (hid : id ∈ d.chart.nodeIds) : Ident.Made id := by
  rw [h.nodeIds_eq] at hid
  obtain ⟨n, hn, rfl⟩ := List.mem_map.1 hid
  exact (of_mem_plan hn).1

/-- The labels of a document that has been built can be written. -/
theorem Built.writable_labelFor (h : Built d s) (hid : id ∈ d.chart.nodeIds) :
    Numbered.Writable (d.registry.labelFor id) := by
  rw [h.nodeIds_eq] at hid
  obtain ⟨n, hn, rfl⟩ := List.mem_map.1 hid
  rw [h.registry, Registry.labelFor_enroll (Build.nodup_plan (wellFormed_sketchOf s)) hn]
  exact (of_mem_plan hn).2

/-- What holds of a document on any grid. -/
structure Tidy (d : Document) : Prop extends Wired d where
  /-- No two nodes have the same id. -/
  nodup : d.chart.nodeIds.Nodup
  /-- The tables of the registry fit together. -/
  paired : d.registry.Paired
  /-- The ids of the nodes are on one line. -/
  unbroken : ∀ id ∈ d.chart.nodeIds, Text.Unbroken id
  /-- So are the ids that the registry has. -/
  known : ∀ id ∈ Table.keys d.registry.labels, Text.Unbroken id
  /-- The labels of ids that no node has can be written. -/
  strays : ∀ id label, Table.get? d.registry.labels id = some label → id ∉ d.chart.nodeIds →
    Numbered.Writable label

theorem tidy_new (name : Option Text) (grid : Grid) : Tidy (new name grid) where
  toWired := (sound_new name grid).toWired
  nodup := List.nodup_nil
  paired := Registry.paired_empty
  unbroken _ h := absurd h List.not_mem_nil
  known _ h := absurd h List.not_mem_nil
  strays _ _ h := nomatch h

/-! ## Building -/

/-- Whether or not it succeeds, building fills the registry with the nodes of the
    text. -/
theorem registry_build (d : Document) (s : Text) : (d.build s).1.registry =
    Registry.empty.enroll (sketchOf (Reading.ofText s)).plan := by
  rw [build_eq]

/-- All that the registry holds after building is that of a node of the text. -/
theorem of_get?_build (h : Table.get? (d.build s).1.registry.labels id = some label) :
    Text.Unbroken id ∧ Numbered.Writable label := by
  have hmem := Table.mem_of_get? h
  rw [registry_build, Registry.labels_enroll (r := .empty)
    (Build.nodup_plan (wellFormed_sketchOf s))] at hmem
  obtain ⟨n, hn, heq⟩ := List.mem_map.1 hmem
  obtain ⟨rfl, rfl⟩ := Prod.mk.inj heq
  exact (of_mem_plan hn).imp_left Ident.Made.unbroken

theorem Wired.of_chart_eq (h : d.Wired) (heq : d'.chart = d.chart) : d'.Wired where
  linked := heq ▸ h.linked
  ends := heq ▸ h.ends
  clean := heq ▸ h.clean

theorem Tidy.build (h : d.Tidy) (s : Text) : (d.build s).1.Tidy := by
  -- The chart is that of the text or, after a fault, the one from before.
  have hchart : (d.build s).1.Wired ∧ (d.build s).1.chart.nodeIds.Nodup ∧
      ∀ id ∈ (d.build s).1.chart.nodeIds, Text.Unbroken id := by
    by_cases hbuild : (d.build s).2 = none
    · have hbuilt := of_build hbuild
      refine ⟨hbuilt.sound.toWired, ?_, ?_⟩
      · rw [hbuilt.nodeIds_eq]
        exact Build.nodup_plan (wellFormed_sketchOf s)
      · exact fun id hid => (hbuilt.made hid).unbroken
    · have hsame := chart_build_of_fault hbuild
      refine ⟨h.toWired.of_chart_eq hsame, ?_, ?_⟩
      · rw [hsame]
        exact h.nodup
      · rw [hsame]
        exact h.unbroken
  exact
    { toWired := hchart.1
      nodup := hchart.2.1
      paired := registry_build d s ▸ Registry.paired_empty.enroll _
      unbroken := hchart.2.2
      known := fun id hid => by
        obtain ⟨label, hget⟩ := Option.isSome_iff_exists.1 (Table.isSome_get?_iff.2 hid)
        exact (of_get?_build hget).1
      strays := fun _ _ hget _ => (of_get?_build hget).2 }

/-! ## Changes -/

/-- What the registry holds after a change it held before, but for the label of a
    node. -/
theorem Change.of_get? (h : Change d d') (hget : Table.get? d'.registry.labels id = some label) :
    id ∈ d'.chart.nodeIds ∨ Table.get? d.registry.labels id = some label := by
  rcases h.registry_cases with heq | ⟨other, hother, l, heq⟩
  · exact .inr (heq ▸ hget)
  · by_cases hid : id = other
    · exact .inl (hid ▸ hother)
    · rw [heq, Registry.labels_assign, Table.get?_put_of_ne _ _ hid] at hget
      exact .inr hget

theorem Tidy.unbroken_of_change (h : d.Tidy) (hd : Change d d') :
    ∀ id ∈ d'.chart.nodeIds, Text.Unbroken id := by
  rcases hd.nodeIds_cases with heq | ⟨new, -, heq, hnew⟩
  · rw [heq]
    exact h.unbroken
  · rw [heq, List.forall_mem_append, List.forall_mem_singleton]
    refine ⟨h.unbroken, hnew.elim id fun ⟨label, howner⟩ => ?_⟩
    exact h.known new (Table.mem_keys_of_get? (h.paired.holds _ _ howner))

/-- A change keeps a document tidy. -/
theorem Tidy.of_change (h : d.Tidy) (hd : Change d d') : d'.Tidy where
  toWired := h.toWired.of_change hd
  nodup := by
    rcases hd.nodeIds_cases with heq | ⟨new, hfresh, heq, -⟩
    · rw [heq]
      exact h.nodup
    · rw [heq, ← List.concat_eq_append]
      exact h.nodup.concat hfresh
  paired := hd.paired h.paired
  unbroken := h.unbroken_of_change hd
  known id hid := by
    obtain ⟨label, hget⟩ := Option.isSome_iff_exists.1 (Table.isSome_get?_iff.2 hid)
    rcases hd.of_get? hget with hmem | hget
    · exact h.unbroken_of_change hd id hmem
    · exact h.known id (Table.mem_keys_of_get? hget)
  strays id label hget hid :=
    h.strays id label ((hd.of_get? hget).resolve_left hid) fun hmem =>
      hid (hd.nodeIds_subset hmem)

/-! ## Histories -/

/-- Every action keeps a document tidy. -/
theorem Tidy.act (h : d.Tidy) (a : Action) : (d.act a).Tidy := by
  by_cases hb : a.Builds
  · cases a with
    | build s => exact h.build s
    | relabelNode | relabelEdge | editNode | editEdge | addNode | connect => cases hb
  · exact h.of_change (h.change hb)

/-- A document is tidy after any history. -/
theorem Tidy.run (h : d.Tidy) (actions : List Action) : (d.run actions).Tidy := by
  induction actions generalizing d with
  | nil => exact h
  | cons a rest ih => exact ih (h.act a)

/-- No action changes the grid. -/
theorem Wired.grid_act (h : d.Wired) (a : Action) : (d.act a).grid = d.grid := by
  by_cases hb : a.Builds
  · cases a with
    | build s => exact grid_build d s
    | relabelNode | relabelEdge | editNode | editEdge | addNode | connect => cases hb
  · exact (h.change hb).grid_eq

theorem Tidy.grid_run (h : d.Tidy) (actions : List Action) : (d.run actions).grid = d.grid := by
  induction actions generalizing d with
  | nil => rfl
  | cons a rest ih => exact (ih (h.act a)).trans (h.grid_act a)

end Document

end FlowScript
