import FlowScript.Proofs.Document.Invariant
import FlowScript.Proofs.Script.NumberedText

/-!
# Round trip of numbered documents

The text of a numbered document is written definitions and connections, of the
nodes and links that it `Outlines` (`Outlines.text_eq_write`). If the labels can
be written they are read back as they are (`Legible`).

A document that is built from numbered text stays numbered under edits of its
edges (`Built.isNumbered`). All its nodes can be defined, a placeholder by its
number: building the text again gives the same ids, labels, edges and registry,
without a note, and the same text (`build_text_of_numbered`).
-/

namespace FlowScript

open Build (sketchOf undeclared definedNode placeholderNode numberedLink)
open Text (isNumeral)

variable {d d₁ : Document} {s token : Text} {nodes : List NumberedNode} {links ls : List Link}
  {l : Link}

namespace Numbered

/-- The nodes of a numbered text, all of them defined: a number that is linked
    and never defined by a placeholder that it labels. -/
def definitions (nodes : List NumberedNode) (links : List Link) : List NumberedNode :=
  nodes ++ (undeclared nodes links).map fun token => ⟨token, token⟩

theorem map_token_definitions (nodes : List NumberedNode) (links : List Link) :
    (definitions nodes links).map NumberedNode.token =
      nodes.map NumberedNode.token ++ undeclared nodes links := by
  simp [definitions, Function.comp_def]

/-- The planned nodes are those that are defined, with their labels. -/
theorem map_plan {α : Type} (f : Text → Option Text → α) (nodes : List NumberedNode)
    (links : List Link) : ((Sketch.numbered nodes links).plan.map fun n => f n.id n.label) =
      (definitions nodes links).map fun n => f (Ident.numbered n.token) (some n.label) := by
  simp only [Sketch.plan, definitions, List.map_append, List.map_map]
  rfl

/-- Only numerals have numbered ids, also among the placeholders. -/
theorem isNumeral_of_mem_undeclared (h : WellFormed nodes links)
    (hids : ∀ id ∈ (Sketch.numbered nodes links).plan.map Node.id, Ident.isNumbered id = true)
    (htoken : token ∈ undeclared nodes links) : isNumeral token = true := by
  have hunbroken : Text.Unbroken token := by
    obtain ⟨⟨l, hl, rfl | rfl⟩, -⟩ := Build.mem_undeclared.1 htoken
    · exact (h.links l hl).source.unbroken
    · exact (h.links l hl).target.unbroken
  rw [← Ident.isNumbered_numbered_iff hunbroken]
  refine hids _ ?_
  rw [Build.map_id_plan_numbered]
  exact List.mem_map_of_mem (List.mem_append_right _ htoken)

/-- If all planned ids are numbered, all nodes can be written. -/
theorem wellFormed_definitions (h : WellFormed nodes links)
    (hids : ∀ id ∈ (Sketch.numbered nodes links).plan.map Node.id, Ident.isNumbered id = true) :
    WellFormed (definitions nodes links) [] where
  nodup := by
    have hnodup : (Sketch.numbered nodes links).WellFormed := h.nodup
    have hplan := Build.nodup_plan hnodup
    rw [Build.map_id_plan_numbered] at hplan
    rw [map_token_definitions]
    exact hplan.of_map
  numeral n hn := by
    rcases List.mem_append.1 hn with hn | hn
    · exact h.numeral n hn
    · obtain ⟨token, htoken, rfl⟩ := List.mem_map.1 hn
      exact isNumeral_of_mem_undeclared h hids htoken
  writable n hn := by
    rcases List.mem_append.1 hn with hn | hn
    · exact h.writable n hn
    · obtain ⟨token, htoken, rfl⟩ := List.mem_map.1 hn
      exact writable_of_isNumeral (isNumeral_of_mem_undeclared h hids htoken)
  links _ h := absurd h List.not_mem_nil

/-- The link between ids as one between their tokens. -/
def tokenLink (l : Link) : Link :=
  ⟨Ident.token l.source, Ident.token l.target, l.label⟩

end Numbered

open Numbered (definitions tokenLink)

namespace Document

/-- The document has nodes of these numerals and labels, and these links. -/
structure Outlines (d : Document) (nodes : List NumberedNode) (ls : List Link) : Prop where
  /-- No two nodes have the same token. -/
  nodup : (nodes.map NumberedNode.token).Nodup
  /-- Tokens are numerals. -/
  numeral : ∀ n ∈ nodes, isNumeral n.token = true
  /-- The chart has the nodes, in order. -/
  nodeIds_eq : d.chart.nodeIds = nodes.map fun n => Ident.numbered n.token
  /-- The registry holds their labels. -/
  labelFor : ∀ n ∈ nodes, d.registry.labelFor (Ident.numbered n.token) = n.label
  /-- The edges draw the links. -/
  edges : d.chart.edges = Chart.edgesOf ls
  /-- The links join nodes. -/
  ends : ∀ l ∈ ls, l.source ∈ d.chart.nodeIds ∧ l.target ∈ d.chart.nodeIds
  /-- Their labels can be written. -/
  clean : ∀ l ∈ ls, EdgeLabel.Clean l.label

/-- The document has some nodes, and their labels can be written. -/
structure Legible (d : Document) (nodes : List NumberedNode) (ls : List Link) : Prop
    extends Outlines d nodes ls where
  /-- There are some nodes. -/
  ne_nil : nodes ≠ []
  /-- The labels can be written. -/
  writable : ∀ n ∈ nodes, Numbered.Writable n.label

/-- What is known of a document that was built from numbered text and whose edges
    have been edited. -/
structure IsNumbered (d : Document) (nodes : List NumberedNode) (ls : List Link) : Prop
    extends Legible d nodes ls where
  /-- The nodes show their labels. -/
  shown : (d.chart.nodes.map fun n => (n.id, n.label)) =
    nodes.map fun n => (Ident.numbered n.token, some n.label)
  /-- The registry has just the nodes, entered in order. -/
  registered : d.registry = Registry.empty.enroll (nodes.map definedNode)

namespace Outlines

variable (h : d.Outlines nodes ls)

include h

theorem exists_token {id : Text} (hid : id ∈ d.chart.nodeIds) :
    ∃ n ∈ nodes, id = Ident.numbered n.token ∧ Ident.token id = n.token := by
  rw [h.nodeIds_eq] at hid
  obtain ⟨n, hn, rfl⟩ := List.mem_map.1 hid
  exact ⟨n, hn, rfl, Ident.token_numbered (h.numeral n hn)⟩

/-- A link joins the ids of two tokens. -/
theorem exists_tokenLink (hl : l ∈ ls) : ∃ m ∈ nodes, ∃ n ∈ nodes,
    l = ⟨Ident.numbered m.token, Ident.numbered n.token, l.label⟩ ∧
      tokenLink l = ⟨m.token, n.token, l.label⟩ := by
  obtain ⟨m, hm, hms, hsource⟩ := h.exists_token (h.ends l hl).1
  obtain ⟨n, hn, hnt, htarget⟩ := h.exists_token (h.ends l hl).2
  refine ⟨m, hm, n, hn, ?_, ?_⟩
  · rw [← hms, ← hnt]
  · rw [tokenLink, hsource, htarget]

theorem connects : ∀ l ∈ ls.map tokenLink, Numbered.Connects l := by
  intro l hl
  obtain ⟨k, hk, rfl⟩ := List.mem_map.1 hl
  obtain ⟨m, hm, n, hn, -, htoken⟩ := h.exists_tokenLink hk
  rw [htoken]
  exact ⟨h.numeral m hm, h.numeral n hn, h.clean k hk⟩

/-- Links between tokens are links between ids again. -/
theorem map_numberedLink : (ls.map tokenLink).map numberedLink = ls := by
  rw [List.map_map]
  refine (List.map_congr_left (g := id) fun l hl => ?_).trans (List.map_id ls)
  obtain ⟨m, -, n, -, hlink, htoken⟩ := h.exists_tokenLink hl
  rw [Function.comp, htoken]
  exact hlink.symm

theorem form_eq : d.chart.form = .numbered := by
  rw [Chart.form_eq_numbered_iff]
  intro id hid
  obtain ⟨n, hn, rfl, -⟩ := h.exists_token hid
  exact Ident.isNumbered_numbered (h.numeral n hn)

/-- Each node is written as a definition. -/
theorem map_definitionLine : d.chart.nodes.map (Chart.definitionLine d.registry) =
    nodes.map Numbered.definition := by
  rw [Chart.map_definitionLine, h.nodeIds_eq, List.map_map]
  refine List.map_congr_left fun n hn => ?_
  simp only [Function.comp, h.labelFor n hn, Ident.token_numbered (h.numeral n hn)]
  rfl

/-- Each edge is written as the connection of the tokens of its ends. -/
theorem map_connectionLine : d.chart.edges.map Chart.connectionLine =
    (ls.map tokenLink).map Numbered.connection := by
  rw [h.edges, List.map_map]
  refine Chart.map_edgesOf fun i l hl => ?_
  -- The label of the edge is clean already.
  have hlabel : EdgeLabel.normalize (Chart.edgeAt i l).caption = l.label :=
    (h.clean l hl).normalize_eq
  rw [Chart.connectionLine, hlabel]
  rfl

/-- The text of a numbered document is written definitions and connections. -/
theorem text_eq_write : d.text = Numbered.write nodes (ls.map tokenLink) := by
  rw [text, Chart.toText, h.form_eq]
  simp only [Chart.toNumbered, h.map_definitionLine, h.map_connectionLine]
  rfl

end Outlines

namespace Legible

variable (h : d.Legible nodes ls)

include h

/-- The text is read as it is meant, without a note. -/
theorem ofText_text : Reading.ofText d.text =
    .recognized numberedDialect (.numbered nodes (ls.map tokenLink)) [] := by
  have hdefined : Numbered.WellFormed nodes [] :=
    ⟨h.nodup, h.numeral, h.writable, fun _ hl => absurd hl List.not_mem_nil⟩
  rw [h.text_eq_write]
  exact Reading.ofText_of_read (Numbered.isBlankText_write h.ne_nil _)
    (Numbered.read_write hdefined h.connects h.ne_nil)

/-- Read again, the text plans just the nodes that there are. -/
theorem plan_text : (sketchOf (Reading.ofText d.text)).plan = nodes.map definedNode := by
  have hund : undeclared nodes (ls.map tokenLink) = [] := by
    refine Build.undeclared_eq_nil fun l hl => ?_
    obtain ⟨k, hk, rfl⟩ := List.mem_map.1 hl
    obtain ⟨m, hm, n, hn, -, htoken⟩ := h.exists_tokenLink hk
    rw [htoken]
    exact ⟨List.mem_map_of_mem hm, List.mem_map_of_mem hn⟩
  rw [h.ofText_text, sketchOf, Sketch.plan, hund, List.map_nil, List.append_nil]

theorem wiring_text : (sketchOf (Reading.ofText d.text)).wiring = ls := by
  rw [h.ofText_text, sketchOf, Sketch.wiring, h.map_numberedLink]

/-- What is built from the text has the same ids, labels and edges. -/
theorem of_built_text {again : Document} (hagain : Built again d.text) :
    again.chart.nodeIds = d.chart.nodeIds ∧
      (∀ id ∈ d.chart.nodeIds, again.registry.labelFor id = d.registry.labelFor id) ∧
      again.chart.edges = d.chart.edges := by
  refine ⟨?_, fun id hid => ?_, ?_⟩
  · rw [hagain.nodeIds_eq, h.plan_text, h.nodeIds_eq, List.map_map]
    rfl
  · obtain ⟨n, hn, rfl, -⟩ := h.exists_token hid
    have hplan : definedNode n ∈ (sketchOf (Reading.ofText d.text)).plan := by
      rw [h.plan_text]
      exact List.mem_map_of_mem hn
    rw [h.labelFor n hn, hagain.registry]
    exact Registry.labelFor_enroll (Build.nodup_plan (wellFormed_sketchOf d.text)) hplan
  · rw [hagain.edges_eq, h.wiring_text, h.edges]

end Legible

namespace IsNumbered

variable (h : d.IsNumbered nodes ls)

include h

/-- What is built from the text shows the same, and has the same edges and
    registry. -/
theorem same_of_built_text {again : Document} (hagain : Built again d.text) :
    (again.chart.nodes.map fun n => (n.id, n.label)) =
        (d.chart.nodes.map fun n => (n.id, n.label)) ∧
      again.chart.edges = d.chart.edges ∧ again.registry = d.registry := by
  refine ⟨?_, (h.of_built_text hagain).2.2, ?_⟩
  · rw [hagain.shown_eq, h.plan_text, h.shown, List.map_map]
    rfl
  · rw [hagain.registry, h.plan_text, h.registered]

end IsNumbered

/-- A document that is built from numbered text, with numbered ids only, stays
    numbered under edits of its edges. -/
theorem Built.isNumbered (hd : Built d s) {notes : List Note}
    (hread : Reading.ofText s = .recognized numberedDialect (.numbered nodes links) notes)
    (hform : d.chart.form = .numbered) {edits : List Action}
    (hedits : ∀ a ∈ edits, a.EditsEdges) :
    ∃ ls, (d.run edits).IsNumbered (definitions nodes links) ls := by
  obtain ⟨_, _, -, hsketch, hne, hwf, -⟩ :=
    Numbered.wellFormed_of_read (Reading.read_of_ofText_numbered hread)
  obtain ⟨rfl, rfl⟩ := Sketch.numbered.inj hsketch
  obtain ⟨ls, hrun, hls⟩ := hd.sound.exists_run hedits
  have hplan : (sketchOf (Reading.ofText s)).plan = (Sketch.numbered nodes links).plan := by
    rw [hread, sketchOf]
  have hids : ∀ id ∈ (Sketch.numbered nodes links).plan.map Node.id,
      Ident.isNumbered id = true := by
    rw [← hplan, ← hd.nodeIds_eq]
    exact Chart.form_eq_numbered_iff.1 hform
  have hdefined := Numbered.wellFormed_definitions hwf hids
  have hnodup : (((definitions nodes links).map definedNode).map Node.id).Nodup := by
    have hinj := hdefined.nodup.map fun _ _ => Ident.numbered_injective
    rw [List.map_map] at hinj ⊢
    exact hinj
  -- The nodes and the registry are those of the plan, and edits of edges leave
  -- them alone.
  have hshown : (d.chart.nodes.map fun n => (n.id, n.label)) =
      (definitions nodes links).map fun n => (Ident.numbered n.token, some n.label) := by
    rw [hd.shown_eq, hplan, Numbered.map_plan Prod.mk]
  have hregistry : d.registry =
      Registry.empty.enroll ((definitions nodes links).map definedNode) := by
    rw [hd.registry, hplan]
    refine Registry.enroll_congr .empty ?_
    rw [List.map_map]
    exact Numbered.map_plan (fun id label => (id, label.getD [])) nodes links
  refine ⟨ls, ?_⟩
  rw [hrun]
  exact
    { nodup := hdefined.nodup
      numeral := hdefined.numeral
      nodeIds_eq := by
        have hfst := congrArg (List.map Prod.fst) hshown
        rw [List.map_map, List.map_map] at hfst
        exact hfst
      labelFor := fun n hn => by
        rw [relink, hregistry]
        exact Registry.labelFor_enroll hnodup (List.mem_map_of_mem hn)
      edges := rfl
      ends := hls.ends
      clean := hls.clean
      ne_nil := by simp [definitions, hne]
      writable := hdefined.writable
      shown := hshown
      registered := hregistry }

/-- The text of a document that was built from numbered text, with numbered ids
    only, and whose edges have been edited, is built again into the same nodes,
    edges and registry. It is read without a note, and written again as it is. -/
theorem build_text_of_numbered (d₀ : Document) (name : Option Text) (s : Text) (sketch : Sketch)
    (notes : List Note) (edits : List Action)
    (hread : Reading.ofText s = .recognized numberedDialect sketch notes)
    (hbuild : (d₀.build s).2 = none) (hform : (d₀.build s).1.chart.form = .numbered)
    (hedits : ∀ a ∈ edits, a.EditsEdges) :
    let d := (d₀.build s).1.run edits
    let again := (new name d₀.grid).build d.text
    again.2 = none ∧
      (again.1.chart.nodes.map fun n => (n.id, n.label)) =
        (d.chart.nodes.map fun n => (n.id, n.label)) ∧
      again.1.chart.edges = d.chart.edges ∧ again.1.registry = d.registry ∧
      (∃ sketch, Reading.ofText d.text = .recognized numberedDialect sketch []) ∧
      again.1.text = d.text := by
  intro d again
  obtain ⟨nodes, links, -, rfl, -⟩ :=
    Numbered.wellFormed_of_read (Reading.read_of_ofText_numbered hread)
  obtain ⟨ls, hd⟩ := (of_build hbuild).isNumbered hread hform hedits
  -- The grid takes as many nodes as before, whatever they are.
  have hagain : again.2 = none := by
    refine build_eq_none_of_length hbuild rfl ?_
    have hplan := congrArg List.length (Numbered.map_plan Prod.mk nodes links)
    rw [hd.plan_text, hread, sketchOf, List.length_map]
    simpa using hplan.symm
  obtain ⟨hnodes, hedges, hregistry⟩ := hd.same_of_built_text (of_build hagain)
  refine ⟨hagain, hnodes, hedges, hregistry, ⟨_, hd.ofText_text⟩, ?_⟩
  have hids : again.1.chart.nodeIds = d.chart.nodeIds := by
    have hfst := congrArg (List.map Prod.fst) hnodes
    rw [List.map_map, List.map_map] at hfst
    exact hfst
  rw [text, hregistry, Chart.toText_congr _ hids hedges, ← text]

/-- A label of two lines, a placeholder and an edge that is added come back. -/
theorem build_text_of_numbered_with_placeholder :
    let d₀ := new none {}
    let s := "1.Start\nhere\n1->|go|3".toList
    let edits : List Action := [.connect "n_3".toList "n_1".toList "a|b->c".toList]
    (d₀.build s).2 = none ∧ (d₀.build s).1.chart.form = .numbered ∧
      ((d₀.build s).1.run edits).text = "1.Start\nhere\n3.3\n1->|go|3\n3->|a/b=>c|1".toList ∧
      ((new none d₀.grid).build ((d₀.build s).1.run edits).text).1.text =
        ((d₀.build s).1.run edits).text := by
  intro d₀ s edits
  have hread : Reading.ofText s = .recognized numberedDialect
      (.numbered [⟨['1'], "Start\nhere".toList⟩] [⟨['1'], ['3'], "go".toList⟩]) [] := by
    decide +kernel
  have hbuild : (d₀.build s).2 = none := by decide +kernel
  have hform : (d₀.build s).1.chart.form = .numbered := by decide +kernel
  obtain ⟨-, -, -, -, -, htext⟩ := build_text_of_numbered d₀ none s _ _ edits hread hbuild hform
    (by simp [edits, Action.EditsEdges])
  exact ⟨hbuild, hform, by decide +kernel, htext⟩

end Document

end FlowScript
