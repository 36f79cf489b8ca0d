import FlowScript.Document.Basic
import FlowScript.Proofs.Chart.Build
import FlowScript.Proofs.Chart.Grid
import FlowScript.Proofs.Script.Reading

/-!
# What a document is after it has been built

Every sketch that is read is well-formed (`wellFormed_sketchOf`), so building a
document fails only if its chart cannot be laid out. Otherwise the nodes are
those that the sketch plans, but for their places, the edges are its links and
the registry has been filled with the nodes (`Built`).

* `of_build`, `build_eq_none_iff`: what a successful build gives, and when it
  is one;
* `build_default_eq_none`: on the default grid, every text that fits into a
  memory can be built;
* `build_means`: texts, and all sketches with distinct tokens, are built as they are
  meant.
-/

namespace FlowScript

open Build (sketchOf planned)

variable {d : Document} {s : Text} {link : Link}

/-! ## The sketch of a text -/

/-- What is read from a text is well-formed. -/
theorem wellFormed_sketchOf (s : Text) : (sketchOf (Reading.ofText s)).WellFormed := by
  cases h : Reading.ofText s with
  | notApplicable reason => exact trivial
  | recognized dialect sketch notes =>
    rcases Reading.read_of_ofText h with hn | ⟨-, hc⟩
    · obtain ⟨nodes, links, -, rfl, -, hw, -⟩ := Numbered.wellFormed_of_read hn
      exact hw.nodup
    · obtain ⟨labels, links, -, rfl, -, hw, -⟩ := Chain.wellFormed_of_read hc
      exact ⟨hw.nodup, fun label hl => (hw.target label hl).trimmed, hw.ends⟩

/-- The labels of the links of a text can be written. -/
theorem clean_of_mem_wiring (h : link ∈ (sketchOf (Reading.ofText s)).wiring) :
    EdgeLabel.Clean link.label := by
  cases hr : Reading.ofText s with
  | notApplicable reason =>
    rw [hr] at h
    cases h
  | recognized dialect sketch notes =>
    rw [hr] at h
    rcases Reading.read_of_ofText hr with hn | ⟨-, hc⟩
    · obtain ⟨nodes, links, -, rfl, -, hw, -⟩ := Numbered.wellFormed_of_read hn
      obtain ⟨l, hl, rfl⟩ := List.mem_map.1 h
      exact (hw.links l hl).label
    · obtain ⟨labels, links, -, rfl, -, hw, -⟩ := Chain.wellFormed_of_read hc
      obtain ⟨l, hl, rfl⟩ := List.mem_map.1 h
      exact (hw.link l hl).label

theorem length_undeclared_le (nodes : List NumberedNode) (links : List Link) :
    (Build.undeclared nodes links).length ≤ 2 * links.length := by
  -- An undeclared token is an end of a link, and each is counted once.
  have hsub : Build.undeclared nodes links ⊆ links.flatMap fun l => [l.source, l.target] :=
    fun _ h => List.mem_eraseDups.1 (List.mem_filter.1 h).1
  have hlen := (Build.nodup_undeclared nodes links).length_le_of_subset hsub
  have hflat : (links.flatMap fun l => [l.source, l.target]).length = 2 * links.length := by
    simp [List.length_flatMap, Nat.mul_comm]
  omega

/-- A text plans at most four nodes for each character. -/
theorem length_plan_le (s : Text) :
    (sketchOf (Reading.ofText s)).plan.length ≤ 4 * s.length := by
  cases hr : Reading.ofText s with
  | notApplicable reason => exact Nat.zero_le _
  | recognized dialect sketch notes =>
    rcases Reading.read_of_ofText hr with hn | ⟨-, hc⟩
    · obtain ⟨nodes, links, -, rfl, -, -, hlen⟩ := Numbered.wellFormed_of_read hn
      have := length_undeclared_le nodes links
      simp only [sketchOf, Sketch.plan, List.length_append, List.length_map]
      omega
    · obtain ⟨labels, links, -, rfl, -, -, hlen⟩ := Chain.wellFormed_of_read hc
      simpa [sketchOf, Sketch.plan] using hlen

/-! ## Building -/

namespace Document

/-- What a document is after a text has been built into it. -/
structure Built (d : Document) (s : Text) : Prop where
  /-- The nodes are the planned ones. -/
  nodes : d.chart.nodes.map Node.unplaced = (sketchOf (Reading.ofText s)).plan
  /-- The edges are the links. -/
  linked : d.chart.linked (sketchOf (Reading.ofText s)).wiring = d.chart
  /-- The registry has the planned nodes. -/
  registry : d.registry = Registry.empty.enroll (sketchOf (Reading.ofText s)).plan

/-- The chart of a text, before it is laid out. -/
def draftOf (name : Option Text) (s : Text) : Chart :=
  (planned name (Reading.ofText s)).linked (sketchOf (Reading.ofText s)).wiring

theorem nodes_draftOf (name : Option Text) (s : Text) :
    (draftOf name s).nodes = (sketchOf (Reading.ofText s)).plan := rfl

theorem map_unplaced_plan (sketch : Sketch) : sketch.plan.map Node.unplaced = sketch.plan := by
  cases sketch with
  | blank => rfl
  | numbered nodes links =>
    simp only [Sketch.plan, List.map_append, List.map_map]
    rfl
  | labelled labels links =>
    simp only [Sketch.plan, List.map_map]
    rfl

/-- Building lays out the chart of the text, and keeps the old chart if that
    fails. -/
theorem build_eq (d : Document) (s : Text) : d.build s =
    ({ d with
        chart := if (d.grid.arrange (draftOf d.name s)).2 = none
          then (d.grid.arrange (draftOf d.name s)).1 else d.chart
        registry := Registry.empty.enroll (sketchOf (Reading.ofText s)).plan
        reading := some (Reading.ofText s) }, (d.grid.arrange (draftOf d.name s)).2) := by
  have hsite := Build.assemble_eq d.name (wellFormed_sketchOf s)
  rw [← draftOf] at hsite
  rw [build]
  simp only [hsite]
  generalize d.grid.arrange (draftOf d.name s) = arranged
  obtain ⟨chart, fault⟩ := arranged
  cases fault <;> rfl

/-- Building succeeds iff the chart of the text can be laid out. -/
theorem build_eq_none_iff : (d.build s).2 = none ↔
    (d.grid.arrange (draftOf d.name s)).2 = none := by
  rw [build_eq]

/-- A fault keeps the chart. -/
theorem chart_build_of_fault (h : (d.build s).2 ≠ none) : (d.build s).1.chart = d.chart := by
  rw [ne_eq, build_eq_none_iff] at h
  rw [build_eq]
  simp only [h, if_false]

/-- A successful build gives what the text says. -/
theorem of_build (h : (d.build s).2 = none) : Built (d.build s).1 s := by
  have harrange := build_eq_none_iff.1 h
  rw [build_eq]
  simp only [harrange, if_true]
  refine ⟨?_, rfl, rfl⟩
  rw [Grid.map_unplaced_arrange, nodes_draftOf, map_unplaced_plan]

/-- Texts that plan as many nodes are built on the same grids. -/
theorem build_eq_none_of_length {d' : Document} {s' : Text} (h : (d.build s).2 = none)
    (hgrid : d'.grid = d.grid) (hlen : (sketchOf (Reading.ofText s')).plan.length =
      (sketchOf (Reading.ofText s)).plan.length) : (d'.build s').2 = none := by
  rw [build_eq_none_iff] at h ⊢
  rw [hgrid]
  exact Grid.arrange_eq_none_of_length h hlen

/-- The number of characters that a text is shorter than: as many do not fit
    into a memory whose addresses have 64 bits. -/
def sizeLimit : Nat := 2 ^ 64

/-- On the default grid every text can be built that fits into a memory. -/
theorem build_default_eq_none (hgrid : d.grid = {}) (h : s.length < sizeLimit) :
    (d.build s).2 = none := by
  rw [build_eq_none_iff, hgrid]
  have hlen := length_plan_le s
  rw [sizeLimit] at h
  refine Grid.arrange_default_eq_none (k := 66) ?_ (by decide)
  rw [nodes_draftOf]
  omega

theorem grid_build (d : Document) (s : Text) : (d.build s).1.grid = d.grid := by
  rw [build_eq]

namespace Built

variable (h : Built d s)

include h

theorem nodeIds_eq : d.chart.nodeIds = (sketchOf (Reading.ofText s)).plan.map Node.id := by
  rw [← h.nodes, List.map_map]
  rfl

/-- The nodes show what has been planned. -/
theorem shown_eq : (d.chart.nodes.map fun n => (n.id, n.label)) =
    (sketchOf (Reading.ofText s)).plan.map fun n => (n.id, n.label) := by
  rw [← h.nodes, List.map_map]
  rfl

theorem edges_eq : d.chart.edges = Chart.edgesOf (sketchOf (Reading.ofText s)).wiring :=
  congrArg Chart.edges h.linked.symm

theorem links_eq : d.chart.links = (sketchOf (Reading.ofText s)).wiring := by
  rw [← h.linked, Chart.links_linked]

end Built

end Document

/-! ## What building gives -/

namespace Build

variable {name : Option Text} {r : Reading} {chart : Chart} {grid : Grid}

/-- The site has just the nodes, in the chart and in the registry, and the links. -/
structure Site.Holds (site : Site) (nodes : List Node) (links : List Link) : Prop where
  /-- The nodes are these, wherever they are placed. -/
  nodes_eq : site.chart.nodes.map Node.unplaced = nodes
  /-- The edges are the links, numbered in order. -/
  edges_eq : site.chart.edges = Chart.edgesOf links
  /-- The nodes are registered with their labels, and nothing else is. -/
  labels_eq : site.registry.labels = nodes.map fun n => (n.id, n.caption)
  /-- The labels in the registry belong to ids that hold them. -/
  paired : site.registry.Paired

theorem holds_enroll {sketch : Sketch} (h : sketch.Distinct)
    (hnodes : chart.nodes.map Node.unplaced = sketch.tidy.plan)
    (hedges : chart.edges = Chart.edgesOf sketch.wiring) :
    Site.Holds ⟨chart, Registry.empty.enroll sketch.tidy.plan⟩ sketch.tidy.plan sketch.wiring where
  nodes_eq := hnodes
  edges_eq := hedges
  labels_eq := Registry.labels_enroll (r := .empty) (nodup_plan (Sketch.wellFormed_tidy h))
  paired := Registry.paired_empty.enroll _

/-- A sketch whose nodes find places is built. -/
theorem build_eq_ok (name : Option Text) (h : (sketchOf r).Distinct)
    (hfits : (grid.arrange (chartOf name r)).2 = none) :
    build grid name r = .ok ⟨(grid.arrange (chartOf name r)).1,
      Registry.empty.enroll (sketchOf r).tidy.plan⟩ := by
  rw [build, assemble_tidy name h]
  simp only [bind, Except.bind]
  generalize grid.arrange (chartOf name r) = arranged at hfits ⊢
  obtain ⟨chart, fault⟩ := arranged
  obtain rfl : fault = none := hfits
  rfl

/-- What is built is what the sketch means. -/
theorem holds_arrange (grid : Grid) (name : Option Text) (h : (sketchOf r).Distinct) :
    Site.Holds ⟨(grid.arrange (chartOf name r)).1, Registry.empty.enroll (sketchOf r).tidy.plan⟩
      (sketchOf r).tidy.plan (sketchOf r).wiring := by
  refine holds_enroll h ?_ rfl
  rw [Grid.map_unplaced_arrange]
  exact Document.map_unplaced_plan _

/-- Building does not fail, and gives what is meant.

    On the default grid a document is built from every text that fits into a memory,
    and whatever was in its registry is gone. More generally every sketch can be
    assembled whose tokens are distinct, as well as built if there are not more
    nodes than a float can count. It becomes the nodes and the links that it means;
    when the nodes have been added, there are no ends of links left that would have
    to be reconciled. -/
theorem build_means :
    (∀ (d : Document) (s : Text), d.grid = {} → s.length < Document.sizeLimit →
      ∃ site nodes links, build {} d.name (Reading.ofText s) = .ok site ∧
        d.build s = ({ d with
          chart := site.chart, registry := site.registry, reading := some (Reading.ofText s) },
          none) ∧
        (sketchOf (Reading.ofText s)).Means nodes links ∧ site.Holds nodes links) ∧
    ∀ (name : Option Text) (r : Reading), (sketchOf r).Distinct →
      ∃ nodes links, (sketchOf r).Means nodes links ∧
        (∃ s, addSketch ⟨groundFor name r, .empty⟩ (sketchOf r) = .ok (s, links) ∧
          reconcile s links = s) ∧
        (∃ site, assemble name r = .ok site ∧ site.Holds nodes links) ∧
        ∀ k < 1024, nodes.length < 2 ^ k →
          ∃ site, build {} name r = .ok site ∧ site.Holds nodes links := by
  refine ⟨fun d s hgrid hlen => ?_, fun name r h => ?_⟩
  · have hsketch := wellFormed_sketchOf s
    have hchart : chartOf d.name (Reading.ofText s) = Document.draftOf d.name s := by
      rw [chartOf, hsketch.tidy_eq]
      rfl
    have hfits := Document.build_eq_none_iff.1 (Document.build_default_eq_none hgrid hlen)
    rw [hgrid, ← hchart] at hfits
    refine ⟨_, _, _, build_eq_ok d.name hsketch.distinct hfits, ?_, means_tidy _,
      holds_arrange {} d.name hsketch.distinct⟩
    rw [Document.build_eq, hgrid, ← hchart, if_pos hfits, hsketch.tidy_eq, hfits]
  · refine ⟨_, _, means_tidy _, ⟨_, addSketch_eq (by cases r <;> rfl) h,
      reconcile_extend_plan name h⟩, ⟨_, assemble_tidy name h, ?_⟩,
      fun k hk hlen => ⟨_, build_eq_ok name h ?_, holds_arrange {} name h⟩⟩
    · exact holds_enroll h (Document.map_unplaced_plan _) rfl
    · exact Grid.arrange_default_eq_none hlen hk

/-- For instance labels with blanks around them, of which some come again or are ends
    of links only, and a document that is built anew from a text with tokens that
    are not defined. -/
theorem build_means_untidy :
    (∃ site, build {} none (.recognized chainDialect (.labelled [" a".toList, "a\t".toList]
        [⟨"b ".toList, " a ".toList, "x".toList⟩, ⟨"c".toList, " b".toList, []⟩]) []) = .ok site ∧
      site.Holds [labelNode "a".toList, labelNode "b".toList, labelNode "c".toList]
        [⟨"t_Yg".toList, "t_YQ".toList, "x".toList⟩, ⟨"t_Yw".toList, "t_Yg".toList, []⟩]) ∧
    let d := ((Document.new none {}).build "a -> b".toList).1
    let d' := (d.build "1. A\n3->|no|1\n2->3".toList).1
    Site.Holds ⟨d'.chart, d'.registry⟩ [definedNode ⟨"1".toList, "A".toList⟩,
        placeholderNode "3".toList, placeholderNode "2".toList]
      [⟨"n_3".toList, "n_1".toList, "no".toList⟩, ⟨"n_2".toList, "n_3".toList, []⟩] := by
  obtain ⟨hdocument, hsketch⟩ := build_means
  constructor
  · obtain ⟨nodes, links, hmeans, -, -, hbuild⟩ := hsketch none (.recognized chainDialect
      (.labelled [" a".toList, "a\t".toList]
        [⟨"b ".toList, " a ".toList, "x".toList⟩, ⟨"c".toList, " b".toList, []⟩]) []) trivial
    cases hmeans with
    | labelled hseen =>
      obtain rfl := hseen.eq_eraseDups
      exact hbuild 2 (by decide) (by decide)
  · intro d d'
    have hgrid : d.grid = {} := Document.grid_build _ _
    have hread : sketchOf (Reading.ofText "1. A\n3->|no|1\n2->3".toList) =
        .numbered [⟨"1".toList, "A".toList⟩] [⟨"3".toList, "1".toList, "no".toList⟩,
          ⟨"2".toList, "3".toList, []⟩] := by decide +kernel
    obtain ⟨site, nodes, links, -, hbuild, hmeans, hholds⟩ :=
      hdocument d "1. A\n3->|no|1\n2->3".toList hgrid (by decide)
    rw [hread] at hmeans
    cases hmeans with
    | numbered hseen =>
      obtain rfl := hseen.eq_eraseDups
      have hd' : d' = (d.build "1. A\n3->|no|1\n2->3".toList).1 := rfl
      rw [hd', hbuild]
      exact hholds

end Build

end FlowScript
