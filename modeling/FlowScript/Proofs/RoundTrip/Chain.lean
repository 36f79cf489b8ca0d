import FlowScript.Proofs.Document.Invariant
import FlowScript.Proofs.Script.ChainText

/-!
# Round trip of chains

A document that is built from chains shows distinct labels, each by the id that
is made from it, and stays so under edits of its edges. Its text has a line for
each edge and one for each isolated node (`text_eq_write`). Which labels are
then read is a matter of how labels begin: the chart comes back, but for the
order of its nodes, just when it is `Chart.Plain`
(`build_text_of_chain`).
-/

namespace FlowScript

open Build (sketchOf labelNode labelledLink)
open Text (Trimmed)

variable {c : Chart} {d : Document} {s : Text} {labels : List Text} {links ls : List Link}
  {l : Link} {n : Node}

namespace Chart

/-- An edge starts at the node. -/
def IsSource (c : Chart) (n : Node) : Prop :=
  ∃ e ∈ c.edges, e.source = n.id

/-- An edge without a label ends at the node. -/
def IsBareTarget (c : Chart) (n : Node) : Prop :=
  ∃ e ∈ c.edges, e.target = n.id ∧ e.label = some []

/-- No edge starts or ends at the node. -/
def IsIsolated (c : Chart) (n : Node) : Prop :=
  ∀ e ∈ c.edges, e.source ≠ n.id ∧ e.target ≠ n.id

/-- A chart that can be read back from its chains. -/
structure Plain (c : Chart) : Prop where
  /-- There is an edge. -/
  linked : c.edges ≠ []
  /-- Where a pipe would be taken for that of an edge label there is none. -/
  unpiped : ∀ n ∈ c.nodes, c.IsSource n ∨ c.IsIsolated n ∨ c.IsBareTarget n →
    n.caption.head? ≠ some '|'
  /-- Where a line begins with a label, that does not open like a definition. -/
  undefined : ∀ n ∈ c.nodes, c.IsSource n ∨ c.IsIsolated n →
    ¬Numbered.OpensDefinition n.caption

instance (c : Chart) (n : Node) : Decidable (c.IsSource n) :=
  List.decidableBEx _ c.edges

instance (c : Chart) (n : Node) : Decidable (c.IsBareTarget n) :=
  List.decidableBEx _ c.edges

instance (c : Chart) (n : Node) : Decidable (c.IsIsolated n) :=
  List.decidableBAll _ c.edges

instance (c : Chart) : Decidable c.Plain :=
  decidable_of_iff
    (c.edges.length ≠ 0 ∧
      (∀ n ∈ c.nodes, c.IsSource n ∨ c.IsIsolated n ∨ c.IsBareTarget n →
        n.caption.head? ≠ some '|') ∧
      ∀ n ∈ c.nodes, c.IsSource n ∨ c.IsIsolated n → ¬Numbered.OpensDefinition n.caption)
    ⟨fun h => ⟨fun hnil => h.1 (congrArg List.length hnil), h.2.1, h.2.2⟩,
      fun h => ⟨fun hlen => h.linked (List.length_eq_zero_iff.1 hlen), h.unpiped, h.undefined⟩⟩

/-- The charts show the same nodes, in any order, and the same edges in the same
    order. -/
structure Agrees (c' c : Chart) : Prop where
  /-- The nodes have the same ids and labels. -/
  nodes : ∀ shown, (shown ∈ c'.nodes.map fun n => (n.id, n.label)) ↔
    shown ∈ c.nodes.map fun n => (n.id, n.label)
  /-- The edges have the same ends and labels. -/
  edges : (c'.edges.map fun e => (e.source, e.target, e.label)) =
    c.edges.map fun e => (e.source, e.target, e.label)

theorem exists_mem_edgesOf (h : l ∈ ls) :
    ∃ e ∈ edgesOf ls, e.source = l.source ∧ e.target = l.target ∧ e.label = some l.label := by
  obtain ⟨i, hi, rfl⟩ := List.mem_iff_getElem.1 h
  exact ⟨edgeAt i ls[i], List.mem_mapIdx.2 ⟨i, hi, rfl⟩, rfl, rfl, rfl⟩

/-- Edges with the same ends and labels draw the same links. -/
theorem eq_of_map_edgesOf {ms : List Link}
    (h : ((edgesOf ms).map fun e => (e.source, e.target, e.label)) =
      (edgesOf ls).map fun e => (e.source, e.target, e.label)) : ms = ls := by
  have hdrawn (ls : List Link) : ((edgesOf ls).map fun e => (e.source, e.target, e.label)) =
      ls.map fun l => (l.source, l.target, some l.label) :=
    map_edgesOf fun _ _ _ => rfl
  rw [hdrawn, hdrawn] at h
  refine List.map_injective_iff.2 ?_ h
  rintro ⟨a, b, l⟩ ⟨a', b', l'⟩ heq
  simpa using heq

end Chart

namespace Document

/-- What is known of a document that was built from chains and whose edges have
    been edited. -/
structure IsChained (d : Document) (labels : List Text) (ls : List Link) : Prop where
  /-- No label is there twice. -/
  nodup : labels.Nodup
  /-- Labels are what hops can lead to. -/
  target : ∀ label ∈ labels, IsTarget label
  /-- There are two at least. -/
  two : 2 ≤ labels.length
  /-- The chart shows these labels, each by its own id. -/
  shown : (d.chart.nodes.map fun n => (n.id, n.label)) =
    labels.map fun label => (Ident.labelled label, some label)
  /-- The registry has them too, entered in order. -/
  registered : d.registry = Registry.empty.enroll (labels.map labelNode)
  /-- The edges draw these links between the labels. -/
  edges : d.chart.edges = Chart.edgesOf (ls.map labelledLink)
  /-- The links join the labels. -/
  ends : ∀ l ∈ ls, l.source ∈ labels ∧ l.target ∈ labels
  /-- The labels of links can be written. -/
  clean : ∀ l ∈ ls, EdgeLabel.Clean l.label

/-- The labels at which no link starts or ends. -/
def singles (labels : List Text) (ls : List Link) : List Text :=
  labels.filter fun label => ∀ l ∈ ls, label ≠ l.source ∧ label ≠ l.target

theorem mem_singles : s ∈ singles labels ls ↔
    s ∈ labels ∧ ∀ l ∈ ls, s ≠ l.source ∧ s ≠ l.target := by
  rw [singles, List.mem_filter, decide_eq_true_iff]

namespace IsChained

variable (h : d.IsChained labels ls)

include h

theorem trimmed : ∀ label ∈ labels, Trimmed label :=
  fun label hl => (h.target label hl).trimmed

theorem nodeIds_eq : d.chart.nodeIds = labels.map Ident.labelled := by
  have hids := congrArg (List.map Prod.fst) h.shown
  rw [List.map_map, List.map_map] at hids
  exact hids

/-- Labels with the same id are the same. -/
theorem labelled_inj {t : Text} (hs : s ∈ labels) (ht : t ∈ labels) :
    Ident.labelled s = Ident.labelled t ↔ s = t :=
  ⟨Build.labelled_injOn (h.trimmed s hs) (h.trimmed t ht), fun heq => heq ▸ rfl⟩

theorem writable : Chain.Writable ls (singles labels ls) where
  link l hl := ⟨h.target _ (h.ends l hl).1, h.target _ (h.ends l hl).2, h.clean l hl⟩
  target s hs := h.target s (mem_singles.1 hs).1

theorem drawn_iff : Chain.Drawn ls (singles labels ls) s ↔ s ∈ labels := by
  rw [Chain.Drawn, mem_singles]
  constructor
  · rintro (⟨l, hl, rfl | rfl⟩ | ⟨hs, -⟩)
    · exact (h.ends l hl).1
    · exact (h.ends l hl).2
    · exact hs
  · intro hs
    by_cases hdrawn : ∃ l ∈ ls, s = l.source ∨ s = l.target
    · exact .inl hdrawn
    · refine .inr ⟨hs, fun l hl => ⟨fun heq => ?_, fun heq => ?_⟩⟩
      · exact hdrawn ⟨l, hl, .inl heq⟩
      · exact hdrawn ⟨l, hl, .inr heq⟩

/-- A label is written as it is. -/
theorem chainLabel_eq (hs : s ∈ labels) :
    Chart.chainLabel d.registry (Ident.labelled s) = s := by
  have hids : ((labels.map labelNode).map Node.id).Nodup :=
    Build.nodup_map_labelNode h.nodup h.trimmed
  have hheld : d.registry.labelFor (Ident.labelled s) = s := by
    rw [h.registered]
    exact Registry.labelFor_enroll hids (List.mem_map_of_mem hs)
  have hline : '\n' ∉ s := fun hmem =>
    absurd ((h.target s hs).unbroken _ hmem) (by decide)
  rw [Chart.chainLabel, hheld, Text.replace_of_not_mem hline]

/-- The edges by the labels that they join. -/
theorem exists_edge_iff {p : Text → Text → Option Text → Prop} :
    (∃ e ∈ d.chart.edges, p e.source e.target e.label) ↔
      ∃ l ∈ ls, p (Ident.labelled l.source) (Ident.labelled l.target) (some l.label) := by
  rw [h.edges]
  constructor
  · rintro ⟨e, he, hp⟩
    obtain ⟨k, hk, hsource, htarget, hlabel⟩ := Chart.exists_of_mem_edgesOf he
    obtain ⟨l, hl, rfl⟩ := List.mem_map.1 hk
    rw [hsource, htarget, hlabel] at hp
    exact ⟨l, hl, hp⟩
  · rintro ⟨l, hl, hp⟩
    obtain ⟨e, he, hsource, htarget, hlabel⟩ :=
      Chart.exists_mem_edgesOf (List.mem_map_of_mem (f := labelledLink) hl)
    refine ⟨e, he, ?_⟩
    rw [hsource, htarget, hlabel]
    exact hp

theorem isConnected_iff (hs : s ∈ labels) : d.chart.isConnected (Ident.labelled s) = true ↔
    ∃ l ∈ ls, s = l.source ∨ s = l.target := by
  rw [Chart.isConnected, List.any_eq_true]
  simp only [Bool.or_eq_true, decide_eq_true_eq]
  rw [h.exists_edge_iff (p := fun source target _ =>
    source = Ident.labelled s ∨ target = Ident.labelled s)]
  refine exists_congr fun l => and_congr_right fun hl => ?_
  rw [h.labelled_inj (h.ends l hl).1 hs, h.labelled_inj (h.ends l hl).2 hs, eq_comm,
    @eq_comm _ l.target]

theorem form_eq : d.chart.form = .chain := by
  rw [Chart.form_eq_chain_iff, ne_eq, Chart.form_eq_numbered_iff, h.nodeIds_eq]
  intro hall
  obtain ⟨s, hs⟩ := List.exists_mem_of_length_pos (Nat.lt_of_lt_of_le Nat.zero_lt_two h.two)
  have := hall _ (List.mem_map_of_mem hs)
  rw [Ident.isNumbered_labelled] at this
  cases this

/-- Each edge is written as the chain of its link. -/
theorem map_chainLine : d.chart.edges.map (Chart.chainLine d.registry) = ls.map Chain.chain := by
  have hlinks : d.chart.edges.map (Chart.chainLine d.registry) =
      (ls.map labelledLink).map fun k => Chain.chain ⟨Chart.chainLabel d.registry k.source,
        Chart.chainLabel d.registry k.target, k.label⟩ := by
    rw [h.edges]
    refine Chart.map_edgesOf fun i k hk => ?_
    obtain ⟨l, hl, rfl⟩ := List.mem_map.1 hk
    -- The label of the edge is clean already.
    have hlabel : EdgeLabel.normalize (Chart.edgeAt i (labelledLink l)).caption = l.label :=
      (h.clean l hl).normalize_eq
    rw [Chart.chainLine, hlabel]
    rfl
  rw [hlinks, List.map_map]
  refine List.map_congr_left fun l hl => ?_
  simp only [Function.comp, labelledLink, h.chainLabel_eq (h.ends l hl).1,
    h.chainLabel_eq (h.ends l hl).2]

/-- Each node without edges is written as its label. -/
theorem map_isolated : (d.chart.isolated.map fun n => Chart.chainLabel d.registry n.id) =
    singles labels ls := by
  have hfilter : labels.filter ((fun id => !d.chart.isConnected id) ∘ Ident.labelled) =
      singles labels ls := by
    refine List.filter_congr fun s hs => ?_
    rw [Function.comp, Bool.eq_iff_iff, Bool.not_eq_true', ← Bool.not_eq_true,
      h.isConnected_iff hs, decide_eq_true_iff]
    simp only [not_exists, not_and, not_or]
  rw [Chart.map_chainLabel_isolated, h.nodeIds_eq, List.filter_map, List.map_map, hfilter]
  refine (List.map_congr_left (g := id) fun s hs => ?_).trans (List.map_id _)
  exact h.chainLabel_eq (mem_singles.1 hs).1

/-- The text of a chained document is written chains. -/
theorem text_eq_write : d.text = Chain.write ls (singles labels ls) := by
  rw [text, Chart.toText, h.form_eq]
  simp only [Chart.toChain, h.map_chainLine, h.map_isolated]
  rfl

/-! ## Plain charts -/

theorem exists_label_of_mem (hn : n ∈ d.chart.nodes) :
    ∃ s ∈ labels, n.id = Ident.labelled s ∧ n.caption = s := by
  have hmem : (n.id, n.label) ∈ d.chart.nodes.map fun n => (n.id, n.label) :=
    List.mem_map_of_mem hn
  rw [h.shown] at hmem
  obtain ⟨s, hs, heq⟩ := List.mem_map.1 hmem
  obtain ⟨hid, hlabel⟩ := Prod.mk.inj heq
  exact ⟨s, hs, hid.symm, by rw [Node.caption, ← hlabel, Option.getD_some]⟩

theorem exists_node_of_mem (hs : s ∈ labels) :
    ∃ n ∈ d.chart.nodes, n.id = Ident.labelled s ∧ n.caption = s := by
  have hmem : (Ident.labelled s, some s) ∈ d.chart.nodes.map fun n => (n.id, n.label) := by
    rw [h.shown]
    exact List.mem_map_of_mem hs
  obtain ⟨n, hn, heq⟩ := List.mem_map.1 hmem
  obtain ⟨hid, hlabel⟩ := Prod.mk.inj heq
  exact ⟨n, hn, hid, by rw [Node.caption, hlabel, Option.getD_some]⟩

theorem isSource_iff (hs : s ∈ labels) (hid : n.id = Ident.labelled s) :
    d.chart.IsSource n ↔ ∃ l ∈ ls, s = l.source := by
  rw [Chart.IsSource, hid, h.exists_edge_iff (p := fun source _ _ => source = Ident.labelled s)]
  refine exists_congr fun l => and_congr_right fun hl => ?_
  rw [h.labelled_inj (h.ends l hl).1 hs, eq_comm]

theorem isBareTarget_iff (hs : s ∈ labels) (hid : n.id = Ident.labelled s) :
    d.chart.IsBareTarget n ↔ ∃ l ∈ ls, s = l.target ∧ l.label = [] := by
  rw [Chart.IsBareTarget, hid, h.exists_edge_iff
    (p := fun _ target label => target = Ident.labelled s ∧ label = some [])]
  refine exists_congr fun l => and_congr_right fun hl => ?_
  rw [h.labelled_inj (h.ends l hl).2 hs, eq_comm, Option.some_inj]

theorem isIsolated_iff (hs : s ∈ labels) (hid : n.id = Ident.labelled s) :
    d.chart.IsIsolated n ↔ s ∈ singles labels ls := by
  have hnot : d.chart.IsIsolated n ↔ ¬d.chart.isConnected (Ident.labelled s) = true := by
    rw [Chart.IsIsolated, hid]
    simp [Chart.isConnected]
  rw [hnot, h.isConnected_iff hs, mem_singles]
  simp only [not_exists, not_and, not_or, hs, true_and]

/-- The chains of a plain chart are read as they are meant. -/
theorem faithful_of_plain (hplain : d.chart.Plain) : Chain.Faithful ls (singles labels ls) := by
  -- No label opens with a pipe where that would matter.
  have hunpiped {s : Text} (hs : s ∈ labels)
      (hrole : (∃ l ∈ ls, s = l.source) ∨ s ∈ singles labels ls ∨
        ∃ l ∈ ls, s = l.target ∧ l.label = []) : s.head? ≠ some '|' := by
    obtain ⟨n, hn, hid, hcaption⟩ := h.exists_node_of_mem hs
    rw [← h.isSource_iff hs hid, ← h.isIsolated_iff hs hid, ← h.isBareTarget_iff hs hid] at hrole
    exact hcaption ▸ hplain.unpiped n hn hrole
  -- Nor does one open like a definition where a line begins with it.
  have hundefined {s : Text} (hs : s ∈ labels)
      (hrole : (∃ l ∈ ls, s = l.source) ∨ s ∈ singles labels ls) :
      ¬Numbered.OpensDefinition s := by
    obtain ⟨n, hn, hid, hcaption⟩ := h.exists_node_of_mem hs
    rw [← h.isSource_iff hs hid, ← h.isIsolated_iff hs hid] at hrole
    exact hcaption ▸ hplain.undefined n hn hrole
  have hsingle {s : Text} (hs : s ∈ singles labels ls) : s ∈ labels := (mem_singles.1 hs).1
  exact
    { linked := by
        rintro rfl
        exact hplain.linked h.edges
      source := fun l hl => hunpiped (h.ends l hl).1 (.inl ⟨l, hl, rfl⟩)
      target := fun l hl hlabel => hunpiped (h.ends l hl).2 (.inr (.inr ⟨l, hl, rfl, hlabel⟩))
      unpiped := fun s hs => hunpiped (hsingle hs) (.inr (.inl hs))
      undefined := fun l hl => hundefined (h.ends l hl).1 (.inl ⟨l, hl, rfl⟩)
      singleUndefined := fun s hs => hundefined (hsingle hs) (.inr hs) }

/-- A chart whose chains are read as they are meant is plain. -/
theorem plain_of_faithful (hfaithful : Chain.Faithful ls (singles labels ls)) :
    d.chart.Plain := by
  refine ⟨fun hnil => ?_, fun n hn hrole => ?_, fun n hn hrole => ?_⟩
  · rw [h.edges] at hnil
    have hlength := congrArg List.length hnil
    rw [Chart.length_edgesOf, List.length_map] at hlength
    exact hfaithful.linked (List.length_eq_zero_iff.1 hlength)
  · obtain ⟨s, hs, hid, hcaption⟩ := h.exists_label_of_mem hn
    rw [h.isSource_iff hs hid, h.isIsolated_iff hs hid, h.isBareTarget_iff hs hid] at hrole
    rw [hcaption]
    rcases hrole with ⟨l, hl, rfl⟩ | hsingle | ⟨l, hl, rfl, hempty⟩
    · exact hfaithful.source l hl
    · exact hfaithful.unpiped s hsingle
    · exact hfaithful.target l hl hempty
  · obtain ⟨s, hs, hid, hcaption⟩ := h.exists_label_of_mem hn
    rw [h.isSource_iff hs hid, h.isIsolated_iff hs hid] at hrole
    rw [hcaption]
    rcases hrole with ⟨l, hl, rfl⟩ | hsingle
    · exact hfaithful.undefined l hl
    · exact hfaithful.singleUndefined _ hsingle

/-! ## Building again -/

variable {again : Document} {labels' : List Text} {links' : List Link}

omit h in
/-- Links between trimmed labels are told apart by the ids of their ends. -/
theorem eq_of_map_labelledLink
    (htrim : ∀ l ∈ ls, Trimmed l.source ∧ Trimmed l.target)
    (htrim' : ∀ l ∈ links', Trimmed l.source ∧ Trimmed l.target)
    (heq : links'.map labelledLink = ls.map labelledLink) : links' = ls := by
  have hback {ls : List Link} (htrim : ∀ l ∈ ls, Trimmed l.source ∧ Trimmed l.target) :
      (ls.map labelledLink).map (fun l => ⟨Ident.label l.source, Ident.label l.target, l.label⟩) =
        ls := by
    rw [List.map_map]
    refine (List.map_congr_left (g := id) fun l hl => ?_).trans (List.map_id ls)
    simp only [Function.comp, labelledLink, Ident.label_labelled]
    rw [(htrim l hl).1, (htrim l hl).2]
    rfl
  rw [← hback htrim', heq, hback htrim]

/-- What is built from the text agrees with the document iff the same labels are
    read, in any order, and the same links. -/
theorem agrees_iff (hagain : Built again d.text)
    (hsketch : sketchOf (Reading.ofText d.text) = .labelled labels' links') :
    again.chart.Agrees d.chart ↔ (∀ label, label ∈ labels' ↔ label ∈ labels) ∧ links' = ls := by
  have hnodes : (again.chart.nodes.map fun n => (n.id, n.label)) =
      labels'.map fun label => (Ident.labelled label, some label) := by
    rw [hagain.shown_eq, hsketch, Sketch.plan, List.map_map]
    rfl
  have hedges : again.chart.edges = Chart.edgesOf (links'.map labelledLink) := by
    rw [hagain.edges_eq, hsketch]
    rfl
  have hwf := wellFormed_sketchOf d.text
  rw [hsketch] at hwf
  constructor
  · rintro ⟨hsame, hsameEdges⟩
    refine ⟨fun label => ?_, ?_⟩
    · have hlabel := hsame (Ident.labelled label, some label)
      rw [hnodes, h.shown, List.mem_map, List.mem_map] at hlabel
      simpa using hlabel
    · -- The ends of the edges are ids of trimmed labels, so the labels agree.
      rw [hedges, h.edges] at hsameEdges
      refine eq_of_map_labelledLink (fun l hl => ?_) (fun l hl => ?_)
        (Chart.eq_of_map_edgesOf hsameEdges)
      · exact ⟨h.trimmed _ (h.ends l hl).1, h.trimmed _ (h.ends l hl).2⟩
      · exact ⟨hwf.2.1 _ (hwf.2.2 l hl).1, hwf.2.1 _ (hwf.2.2 l hl).2⟩
  · rintro ⟨hlabels, rfl⟩
    refine ⟨fun shown => ?_, by rw [hedges, h.edges]⟩
    rw [hnodes, h.shown, List.mem_map, List.mem_map]
    exact exists_congr fun label => and_congr_left' (hlabels label)

/-- The text of a plain chart is read as its labels and links. -/
theorem exists_sketch_text (hplain : d.chart.Plain) :
    ∃ labels', sketchOf (Reading.ofText d.text) = .labelled labels' ls ∧
      ∀ label, label ∈ labels' ↔ label ∈ labels := by
  -- Two labels at least are drawn, or the text would not be read at all.
  have htwo : ∃ a b, a ≠ b ∧ Chain.Drawn ls (singles labels ls) a ∧
      Chain.Drawn ls (singles labels ls) b := by
    obtain ⟨a, b, rest, rfl⟩ : ∃ a b rest, labels = a :: b :: rest := by
      match labels, h.two with
      | a :: b :: rest, _ => exact ⟨a, b, rest, rfl⟩
    have hne : a ≠ b := fun heq => (List.nodup_cons.1 h.nodup).1 (heq ▸ List.mem_cons_self)
    exact ⟨a, b, hne, h.drawn_iff.2 (by simp), h.drawn_iff.2 (by simp)⟩
  obtain ⟨labels', notes, hread, hmem⟩ :=
    Chain.ofText_write h.writable (h.faithful_of_plain hplain) htwo
  refine ⟨labels', ?_, fun label => (hmem label).trans h.drawn_iff⟩
  rw [h.text_eq_write, hread, sketchOf]

/-- If the labels and links are read from the text, the chart is plain. -/
theorem plain_of_sketch (hsketch : sketchOf (Reading.ofText d.text) = .labelled labels' ls)
    (hlabels : ∀ label, label ∈ labels' ↔ label ∈ labels) : d.chart.Plain := by
  cases hread : Reading.ofText d.text with
  | notApplicable reason =>
    rw [hread] at hsketch
    cases hsketch
  | recognized dialect sketch notes =>
    rw [hread, sketchOf] at hsketch
    subst hsketch
    rw [h.text_eq_write] at hread
    refine h.plain_of_faithful (Chain.faithful_of_ofText h.writable ?_ hread fun label => ?_)
    · exact fun s hs => (mem_singles.1 hs).2
    · exact (hlabels label).trans h.drawn_iff.symm

end IsChained

/-- Links between the ids of labels are links between labels. -/
theorem exists_map_labelledLink {ms : List Link}
    (h : ∀ m ∈ ms, m.source ∈ labels.map Ident.labelled ∧ m.target ∈ labels.map Ident.labelled) :
    ∃ ls : List Link, ls.map labelledLink = ms ∧
      ∀ l ∈ ls, l.source ∈ labels ∧ l.target ∈ labels := by
  induction ms with
  | nil => exact ⟨[], rfl, by simp⟩
  | cons m ms ih =>
    rw [List.forall_mem_cons] at h
    obtain ⟨s, hs, hsource⟩ := List.mem_map.1 h.1.1
    obtain ⟨t, ht, htarget⟩ := List.mem_map.1 h.1.2
    obtain ⟨ls, hls, hends⟩ := ih h.2
    refine ⟨⟨s, t, m.label⟩ :: ls, ?_, List.forall_mem_cons.2 ⟨⟨hs, ht⟩, hends⟩⟩
    rw [List.map_cons, hls, labelledLink, hsource, htarget]

/-- A document that is built from chains stays chained under edits of its
    edges. -/
theorem Built.isChained (hd : Built d s) {notes : List Note}
    (hread : Reading.ofText s = .recognized chainDialect (.labelled labels links) notes)
    {edits : List Action} (hedits : ∀ a ∈ edits, a.EditsEdges) :
    ∃ ls, (d.run edits).IsChained labels ls := by
  obtain ⟨_, _, -, hsketch, htwo, hwf, -⟩ :=
    Chain.wellFormed_of_read (Reading.read_of_ofText_chain hread).2
  obtain ⟨rfl, rfl⟩ := Sketch.labelled.inj hsketch
  obtain ⟨ms, hrun, hms⟩ := hd.sound.exists_run hedits
  have hplan : (sketchOf (Reading.ofText s)).plan = labels.map labelNode := by
    rw [hread, sketchOf, Sketch.plan]
  have hids : d.chart.nodeIds = labels.map Ident.labelled := by
    rw [hd.nodeIds_eq, hplan, List.map_map]
    rfl
  obtain ⟨ls, rfl, hends⟩ := exists_map_labelledLink fun m hm => hids ▸ hms.ends m hm
  refine ⟨ls, ?_⟩
  rw [hrun]
  exact
    { nodup := hwf.nodup
      target := hwf.target
      two := htwo
      shown := by
        refine hd.shown_eq.trans ?_
        rw [hplan, List.map_map]
        rfl
      registered := by rw [relink, hd.registry, hplan]
      edges := rfl
      ends := hends
      clean := fun l hl => hms.clean (labelledLink l) (List.mem_map_of_mem hl) }

/-- The text of a document that was built from chains, and whose edges have been
    edited, is built again into a chart with the same nodes, in some order, and
    the same edges iff the chart is plain. -/
theorem build_text_of_chain (d₀ : Document) (name : Option Text) (s : Text) (sketch : Sketch)
    (notes : List Note) (edits : List Action)
    (hread : Reading.ofText s = .recognized chainDialect sketch notes)
    (hbuild : (d₀.build s).2 = none) (hedits : ∀ a ∈ edits, a.EditsEdges) :
    let d := (d₀.build s).1.run edits
    ((new name d₀.grid).build d.text).1.chart.Agrees d.chart ↔ d.chart.Plain := by
  intro d
  obtain ⟨labels, links, -, rfl, -⟩ :=
    Chain.wellFormed_of_read (Reading.read_of_ofText_chain hread).2
  obtain ⟨ls, hd⟩ := (of_build hbuild).isChained hread hedits
  have hplan : (sketchOf (Reading.ofText s)).plan.length = labels.length := by
    rw [hread, sketchOf, Sketch.plan, List.length_map]
  constructor
  · intro hagrees
    obtain ⟨label, hlabel⟩ :=
      List.exists_mem_of_length_pos (Nat.lt_of_lt_of_le Nat.zero_lt_two hd.two)
    have hid : Ident.labelled label ∈ ((new name d₀.grid).build d.text).1.chart.nodeIds := by
      obtain ⟨n, hn, heq⟩ := List.mem_map.1 <| (hagrees.nodes (Ident.labelled label, some label)).2
        (hd.shown ▸ List.mem_map_of_mem hlabel)
      exact List.mem_map.2 ⟨n, hn, congrArg Prod.fst heq⟩
    have hbuilt : ((new name d₀.grid).build d.text).2 = none := by
      by_contra hfault
      rw [chart_build_of_fault hfault] at hid
      cases hid
    rw [(of_build hbuilt).nodeIds_eq] at hid
    -- Only labels have such an id, so the text was read as chains.
    cases hsketch : sketchOf (Reading.ofText d.text) with
    | blank =>
      rw [hsketch] at hid
      cases hid
    | numbered nodes links =>
      rw [hsketch, Build.map_id_plan_numbered] at hid
      obtain ⟨token, -, heq⟩ := List.mem_map.1 hid
      exact absurd (List.cons.inj heq).1 (by decide)
    | labelled labels' links' =>
      obtain ⟨hlabels, rfl⟩ := (hd.agrees_iff (of_build hbuilt) hsketch).1 hagrees
      exact hd.plain_of_sketch hsketch hlabels
  · intro hplain
    obtain ⟨labels', hsketch, hlabels⟩ := hd.exists_sketch_text hplain
    have hbuilt : ((new name d₀.grid).build d.text).2 = none := by
      refine build_eq_none_of_length hbuild rfl ?_
      have hwf := wellFormed_sketchOf d.text
      rw [hsketch] at hwf
      rw [hplan, hsketch, Sketch.plan, List.length_map]
      exact ((List.perm_ext_iff_of_nodup hwf.1 hd.nodup).2 hlabels).length_eq
    exact (hd.agrees_iff (of_build hbuilt) hsketch).2 ⟨hlabels, rfl⟩

/-- A label that opens with a pipe comes back behind the label of an edge. -/
theorem build_text_of_chain_with_pipe :
    let d₀ := new none {}
    let s := "a -> |x| |b".toList
    let edits : List Action := [.connect "t_YQ".toList "t_YQ".toList "again".toList]
    (d₀.build s).2 = none ∧ ((d₀.build s).1.run edits).chart.Plain ∧
      ((new none d₀.grid).build ((d₀.build s).1.run edits).text).1.chart.Agrees
        ((d₀.build s).1.run edits).chart := by
  intro d₀ s edits
  have hread : Reading.ofText s = .recognized chainDialect
      (.labelled [['a'], ['|', 'b']] [⟨['a'], ['|', 'b'], ['x']⟩]) [] := by
    decide +kernel
  have hbuild : (d₀.build s).2 = none := by decide +kernel
  have hplain : ((d₀.build s).1.run edits).chart.Plain := by decide +kernel
  exact ⟨hbuild, hplain, (build_text_of_chain d₀ none s _ _ edits hread hbuild
    (by simp [edits, Action.EditsEdges])).2 hplain⟩

-- without the label of the edge it does not
example : ¬(((new none {}).build "a -> |x| |b".toList).1.run
    [.relabelEdge "e0".toList []]).chart.Plain := by
  decide +kernel

end Document

end FlowScript
