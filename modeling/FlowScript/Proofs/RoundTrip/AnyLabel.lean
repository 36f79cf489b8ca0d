import FlowScript.Proofs.Document.Reached
import FlowScript.Proofs.RoundTrip.Numbered
import FlowScript.Proofs.Script.AnyLabel

/-!
# Numbered documents with edited labels

A numbered document may come from any history, so its nodes may have any labels
and its registry may hold more than the nodes. Its text is written definitions
and connections all the same (`Tidy.outlines`).

* `build_text_keeps_structure`: building the text again brings back all nodes,
  and all edges behind those that the labels may bring about;
* `build_text_iff_representable`: the labels and edges are the same again iff
  all labels of the registry are `Representable`. That they need be is due to
  the reader, which only gives labels that can be written (`of_mem_plan`).
-/

namespace FlowScript

open Build (sketchOf numberedLink)
open Numbered (Representable tokenLink)
open Text (isNumeral)

namespace Document

variable {d again : Document} {s id : Text} {n : NumberedNode} {nodes : List NumberedNode}
  {ls : List Link}

/-! ## The outline of a document -/

/-- The ids of the nodes, in order, with the labels that the registry holds. -/
def labelling (d : Document) : List (Text × Text) :=
  d.chart.nodeIds.map fun id => (id, d.registry.labelFor id)

/-- The ends and labels of the edges, in order. -/
def drawing (d : Document) : List (Text × Text × Option Text) :=
  d.chart.edges.map fun e => (e.source, e.target, e.label)

/-- The nodes of a numbered document, with the labels that the registry holds. -/
def outline (d : Document) : List NumberedNode :=
  d.chart.nodeIds.map fun id => ⟨Ident.token id, d.registry.labelFor id⟩

/-- The nodes of a numbered document have the ids of numerals. -/
theorem Tidy.of_mem_nodeIds (h : d.Tidy) (hform : d.chart.form = .numbered)
    (hid : id ∈ d.chart.nodeIds) :
    isNumeral (Ident.token id) = true ∧ Ident.numbered (Ident.token id) = id := by
  obtain ⟨token, hnum, rfl⟩ := Ident.exists_numeral_of_isNumbered
    (Chart.form_eq_numbered_iff.1 hform id hid) (h.unbroken id hid)
  rw [Ident.token_numbered hnum]
  exact ⟨hnum, rfl⟩

/-- Whatever its labels are, a numbered document is written as its outline and
    its links. -/
theorem Tidy.outlines (h : d.Tidy) (hform : d.chart.form = .numbered) :
    d.Outlines d.outline d.chart.links where
  nodup := by
    rw [outline, List.map_map]
    refine h.nodup.map_on fun id hid other hother heq => ?_
    rw [← (h.of_mem_nodeIds hform hid).2, ← (h.of_mem_nodeIds hform hother).2]
    exact congrArg Ident.numbered heq
  numeral n hn := by
    obtain ⟨id, hid, rfl⟩ := List.mem_map.1 hn
    exact (h.of_mem_nodeIds hform hid).1
  nodeIds_eq := by
    rw [outline, List.map_map]
    refine (List.map_id _).symm.trans (List.map_congr_left fun id hid => ?_)
    exact (h.of_mem_nodeIds hform hid).2.symm
  labelFor n hn := by
    obtain ⟨id, hid, rfl⟩ := List.mem_map.1 hn
    rw [(h.of_mem_nodeIds hform hid).2]
  edges := congrArg Chart.edges h.linked.symm
  ends := h.ends
  clean := h.clean

/-- The labels of the outline can be written iff all can that the registry
    holds. -/
theorem Tidy.writable_outline_iff (h : d.Tidy) : (∀ n ∈ d.outline, Numbered.Writable n.label) ↔
    ∀ entry ∈ d.registry.labels, Representable entry.2 := by
  constructor
  · rintro hw ⟨id, label⟩ hentry
    have hget := Table.get?_of_mem h.paired.nodup hentry
    rw [← Numbered.writable_iff_representable]
    by_cases hid : id ∈ d.chart.nodeIds
    · have hlabel := hw _ (List.mem_map_of_mem hid)
      rwa [Registry.labelFor_of_get? hget] at hlabel
    · exact h.strays id label hget hid
  · intro hrep n hn
    obtain ⟨id, -, rfl⟩ := List.mem_map.1 hn
    rw [Numbered.writable_iff_representable, Registry.labelFor]
    -- An id that the registry does not have has no label.
    cases hget : Table.get? d.registry.labels id with
    | none => exact .inl rfl
    | some label => exact hrep _ (Table.mem_of_get? hget)

/-! ## The structure -/

/-- Edges that are numbered in order draw their links. -/
theorem Wired.drawing_eq (h : d.Wired) :
    d.drawing = d.chart.links.map fun l => (l.source, l.target, some l.label) := by
  rw [drawing, ← h.linked, Chart.edges_linked, Chart.links_linked]
  exact Chart.map_edgesOf fun i l _ => rfl

/-- The text of a document with nodes is numbered, defines all of them and ends
    with the links. -/
theorem Outlines.exists_sketch_text (h : d.Outlines nodes ls) (hne : nodes ≠ []) :
    ∃ nodes' links' notes, Reading.ofText d.text = .recognized numberedDialect
        (.numbered nodes' (links' ++ ls.map tokenLink)) notes ∧
      ∀ n ∈ nodes, n.token ∈ nodes'.map NumberedNode.token := by
  obtain ⟨nodes', links', notes, hread, htokens⟩ :=
    Numbered.read_write_any h.numeral h.connects hne
  refine ⟨nodes', links', notes, ?_, htokens⟩
  rw [h.text_eq_write]
  exact Reading.ofText_of_read (Numbered.isBlankText_write hne _) hread

/-- After any history, and whatever the labels are, the text of a numbered
    document that has nodes is read as numbered. What is built from it has all
    these nodes, and its edges end with those of the document. -/
theorem build_text_keeps_structure (name name' : Option Text) (grid : Grid)
    (actions : List Action) (hform : ((new name grid).run actions).chart.form = .numbered)
    (hne : ((new name grid).run actions).chart.nodes ≠ []) :
    let d := (new name grid).run actions
    let again := (new name' {}).build d.text
    (∃ sketch notes, Reading.ofText d.text = .recognized numberedDialect sketch notes) ∧
      (d.text.length < sizeLimit → again.2 = none ∧
        d.chart.nodeIds ⊆ again.1.chart.nodeIds ∧ d.drawing <:+ again.1.drawing) := by
  intro d again
  have h : d.Tidy := (tidy_new name grid).run actions
  have hout := h.outlines hform
  have hnodes : d.outline ≠ [] := by
    simpa [outline, Chart.nodeIds] using hne
  obtain ⟨nodes', links', notes, hread, htokens⟩ := hout.exists_sketch_text hnodes
  refine ⟨⟨_, notes, hread⟩, fun hfits => ?_⟩
  have hagain : again.2 = none := build_default_eq_none rfl hfits
  have hbuilt : Built again.1 d.text := of_build hagain
  refine ⟨hagain, fun id hid => ?_, ?_⟩
  · obtain ⟨n, hn, rfl, -⟩ := hout.exists_token hid
    rw [hbuilt.nodeIds_eq, hread, sketchOf, Build.map_id_plan_numbered]
    exact List.mem_map_of_mem (List.mem_append_left _ (htokens n hn))
  · have hlinks : again.1.chart.links = links'.map numberedLink ++ d.chart.links := by
      rw [hbuilt.links_eq, hread, sketchOf, Sketch.wiring, List.map_append, hout.map_numberedLink]
    rw [h.toWired.drawing_eq, hbuilt.sound.toWired.drawing_eq, hlinks]
    exact (List.suffix_append _ _).map _

/-- A label that defines a node and connects it brings in both, and nothing of
    the document is lost. -/
theorem build_text_keeps_structure_of_injected :
    let actions : List Action :=
      [.build "1.A\n2.B\n1->2".toList, .relabelNode "n_1".toList "x\n7.y\n7->|z|1\r".toList]
    let text := "1.x\n7.y\n7->|z|1\r\n2.B\n1->2".toList
    ((new none {}).run actions).chart.form = .numbered ∧
      ((new none {}).run actions).chart.nodes ≠ [] ∧
      ((new none {}).run actions).text = text ∧ text.length < sizeLimit ∧
      ((new none {}).build text).1.chart.nodeIds =
        ["n_1".toList, "n_7".toList, "n_2".toList] ∧
      ((new none {}).run actions).chart.nodeIds ⊆ ((new none {}).build text).1.chart.nodeIds ∧
      ((new none {}).run actions).drawing <:+ ((new none {}).build text).1.drawing := by
  intro actions text
  have hform : ((new none {}).run actions).chart.form = .numbered := by decide +kernel
  have hne : ((new none {}).run actions).chart.nodes ≠ [] := by decide +kernel
  have htext : ((new none {}).run actions).text = text := by decide +kernel
  have hfits : text.length < sizeLimit := by decide +kernel
  obtain ⟨-, hkeeps⟩ := build_text_keeps_structure none none {} actions hform hne
  rw [htext] at hkeeps
  obtain ⟨-, hids, hedges⟩ := hkeeps hfits
  exact ⟨hform, hne, htext, hfits, by decide +kernel, hids, hedges⟩

/-! ## The labels -/

/-- Labels that come back from a text can be written. -/
theorem Built.writable_outline (hagain : Built again s) (heq : again.labelling = d.labelling) :
    ∀ n ∈ d.outline, Numbered.Writable n.label := by
  intro n hn
  obtain ⟨id, hid, rfl⟩ := List.mem_map.1 hn
  have hentry : (id, d.registry.labelFor id) ∈ again.labelling := by
    rw [heq]
    exact List.mem_map_of_mem hid
  obtain ⟨other, hother, hpair⟩ := List.mem_map.1 hentry
  obtain ⟨rfl, hlabel⟩ := Prod.mk.inj hpair
  rw [← hlabel]
  exact hagain.writable_labelFor hother

/-- What is built from the text of a document without nodes has none. -/
theorem Outlines.of_built_text_nil (h : d.Outlines [] ls) (hagain : Built again d.text) :
    d.chart.nodeIds = [] ∧ d.chart.edges = [] ∧
      again.chart.nodeIds = [] ∧ again.chart.edges = [] := by
  have hids : d.chart.nodeIds = [] := h.nodeIds_eq
  have hls : ls = [] := List.eq_nil_iff_forall_not_mem.2 fun l hl => by
    have hsource := (h.ends l hl).1
    rw [hids] at hsource
    cases hsource
  have htext : d.text = [] := by rw [h.text_eq_write, hls]; rfl
  rw [hagain.nodeIds_eq, hagain.edges_eq, h.edges, hls, htext]
  exact ⟨hids, rfl, rfl, rfl⟩

/-- A document whose labels can be written comes back from its text. -/
theorem Outlines.same_of_built_text (h : d.Outlines d.outline d.chart.links)
    (hw : ∀ n ∈ d.outline, Numbered.Writable n.label) (hagain : Built again d.text) :
    again.labelling = d.labelling ∧ again.drawing = d.drawing := by
  by_cases hnil : d.outline = []
  · rw [hnil] at h
    obtain ⟨hids, hedges, hids', hedges'⟩ := h.of_built_text_nil hagain
    rw [labelling, labelling, drawing, drawing, hids, hedges, hids', hedges']
    exact ⟨rfl, rfl⟩
  · have hlegible : d.Legible d.outline d.chart.links := ⟨h, hnil, hw⟩
    obtain ⟨hids, hlabels, hedges⟩ := hlegible.of_built_text hagain
    rw [labelling, drawing, hids, hedges]
    refine ⟨List.map_congr_left fun id hid => ?_, rfl⟩
    rw [hlabels id hid]

/-- After any history, the text of a numbered document is built again into the
    same ids, labels and edges iff all labels that the registry holds are
    representable. -/
theorem build_text_iff_representable (name name' : Option Text) (grid : Grid)
    (actions : List Action) (hform : ((new name grid).run actions).chart.form = .numbered)
    (hfits : ((new name grid).run actions).text.length < sizeLimit) :
    let d := (new name grid).run actions
    let again := (new name' {}).build d.text
    again.2 = none ∧
      (again.1.labelling = d.labelling ∧ again.1.drawing = d.drawing ↔
        ∀ entry ∈ d.registry.labels, Representable entry.2) := by
  intro d again
  have h : d.Tidy := (tidy_new name grid).run actions
  have hout := h.outlines hform
  have hagain : again.2 = none := build_default_eq_none rfl hfits
  have hbuilt : Built again.1 d.text := of_build hagain
  refine ⟨hagain, ?_⟩
  rw [← h.writable_outline_iff]
  exact ⟨fun hsame => hbuilt.writable_outline hsame.1,
    fun hw => hout.same_of_built_text hw hbuilt⟩

/-- A label of two lines comes back. With an arrow on the second line it is not
    representable, and something does not. -/
theorem build_text_iff_representable_of_two_lines :
    let kept : List Action := [.build "1.A".toList, .relabelNode "n_1".toList "x->\ny".toList]
    let lost : List Action := [.build "1.A".toList, .relabelNode "n_1".toList "x\n->y".toList]
    let again (actions : List Action) := ((new none {}).build ((new none {}).run actions).text).1
    (((new none {}).run kept).chart.form = .numbered ∧
        ((new none {}).run kept).text.length < sizeLimit ∧
        ((new none {}).run lost).chart.form = .numbered ∧
        ((new none {}).run lost).text.length < sizeLimit) ∧
      ((again kept).labelling = ((new none {}).run kept).labelling ∧
        (again kept).drawing = ((new none {}).run kept).drawing) ∧
      ¬((again lost).labelling = ((new none {}).run lost).labelling ∧
        (again lost).drawing = ((new none {}).run lost).drawing) := by
  intro kept lost again
  have hform : ((new none {}).run kept).chart.form = .numbered := by decide +kernel
  have hform' : ((new none {}).run lost).chart.form = .numbered := by decide +kernel
  have hfits : ((new none {}).run kept).text.length < sizeLimit := by decide +kernel
  have hfits' : ((new none {}).run lost).text.length < sizeLimit := by decide +kernel
  have hrep : ∀ entry ∈ ((new none {}).run kept).registry.labels, Representable entry.2 := by
    decide +kernel
  have hnot : ¬∀ entry ∈ ((new none {}).run lost).registry.labels, Representable entry.2 := by
    decide +kernel
  exact ⟨⟨hform, hfits, hform', hfits'⟩,
    (build_text_iff_representable none none {} kept hform hfits).2.2 hrep,
    mt (build_text_iff_representable none none {} lost hform' hfits').2.1 hnot⟩

end Document

end FlowScript
