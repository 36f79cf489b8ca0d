import FlowScript.Chart.Build
import FlowScript.Proofs.Chart.Linked
import FlowScript.Proofs.Registry
import FlowScript.Proofs.Text.Distinct
import Mathlib.Data.List.Nodup

/-!
# What is built from a sketch

A sketch determines its nodes (`Sketch.plan`) and, between their ids, its links
(`Sketch.wiring`). If no node is drawn twice and the links of a labelled sketch
stay among its labels (`Sketch.WellFormed`), assembling cannot fail and gives
just these: the planned nodes, the edges numbered in order, and the registry
into which the nodes are entered one by one. Any other sketch can be tidied
(`Sketch.tidy`), which changes nothing of what it means (`means_tidy`), as long
as it does not define a token twice.

* `assemble_eq`, `assemble_tidy`: the chart and the registry of a well-formed sketch,
  and of any sketch whose tokens are distinct;
* `mem_plan_of_mem_wiring`: every edge joins planned nodes.
-/

namespace FlowScript

open Text (Trimmed)

/-- What is written on the node: nothing if it has no label. -/
def Node.caption (n : Node) : Text :=
  n.label.getD []

/-! ## Entering nodes into the registry -/

namespace Registry

/-- The registry in which nodes hold their labels, entered in order. -/
def enroll (r : Registry) (nodes : List Node) : Registry :=
  nodes.foldl (fun r n => r.assign n.id n.caption) r

variable {r : Registry} {nodes more : List Node}

/-- Only the ids and the labels of the nodes matter. -/
theorem enroll_congr (r : Registry)
    (h : (nodes.map fun n => (n.id, n.caption)) = more.map fun n => (n.id, n.caption)) :
    r.enroll nodes = r.enroll more := by
  have hpairs (nodes : List Node) : r.enroll nodes =
      (nodes.map fun n => (n.id, n.caption)).foldl (fun r p => r.assign p.1 p.2) r := by
    rw [List.foldl_map]
    rfl
  rw [hpairs, h, ← hpairs]

theorem enroll_append (r : Registry) (nodes more : List Node) :
    r.enroll (nodes ++ more) = (r.enroll nodes).enroll more :=
  List.foldl_append

/-- New ids are entered behind those that are there. -/
theorem labels_enroll (h : (Table.keys r.labels ++ nodes.map Node.id).Nodup) :
    (r.enroll nodes).labels = r.labels ++ nodes.map fun n => (n.id, n.caption) := by
  induction nodes generalizing r with
  | nil => simp [enroll]
  | cons n rest ih =>
    have hn : n.id ∉ Table.keys r.labels := fun hmem =>
      (List.nodup_append.1 h).2.2 n.id hmem n.id (by simp) rfl
    have hkeys : Table.keys (r.assign n.id n.caption).labels = Table.keys r.labels ++ [n.id] :=
      keys_labels_assign_of_not_mem hn
    have hrest := ih (r := r.assign n.id n.caption) (by rw [hkeys]; simpa using h)
    rw [enroll, List.foldl_cons, ← enroll, hrest, labels_assign, Table.put_of_not_mem hn]
    simp

theorem keys_enroll (h : (nodes.map Node.id).Nodup) :
    Table.keys (empty.enroll nodes).labels = nodes.map Node.id := by
  rw [labels_enroll (r := empty) h, Table.keys]
  simp [empty]

/-- A node that has been entered has its label in the registry. -/
theorem labelFor_enroll (h : (nodes.map Node.id).Nodup) {n : Node} (hn : n ∈ nodes) :
    (empty.enroll nodes).labelFor n.id = n.caption := by
  refine labelFor_of_get? (Table.get?_of_mem ?_ ?_)
  · rwa [keys_enroll h]
  · rw [labels_enroll (r := empty) h]
    exact List.mem_map_of_mem hn

theorem Paired.enroll (h : r.Paired) (nodes : List Node) : (r.enroll nodes).Paired := by
  induction nodes generalizing r with
  | nil => exact h
  | cons n rest ih => exact ih (h.assign n.id n.caption)

end Registry

/-! ## Plans -/

namespace Build

/-- The node of a definition. -/
def definedNode (n : NumberedNode) : Node :=
  { id := Ident.numbered n.token, label := some n.label }

/-- The placeholder of a number that is linked and never defined. -/
def placeholderNode (token : Text) : Node :=
  { id := Ident.numbered token, label := some token, metadata := placeholderMark }

/-- The node of a label. -/
def labelNode (label : Text) : Node :=
  { id := Ident.labelled label, label := some label }

/-- The link between labels as one between their ids. -/
def labelledLink (l : Link) : Link :=
  ⟨Ident.labelled l.source, Ident.labelled l.target, l.label⟩

/-- What links lead from and to, in order. -/
def endsOf (links : List Link) : List Text :=
  links.flatMap fun l => [l.source, l.target]

theorem mem_endsOf {links : List Link} {e : Text} :
    e ∈ endsOf links ↔ ∃ l ∈ links, e = l.source ∨ e = l.target := by
  simp [endsOf]

theorem trimmed_of_mem_eraseDups {parts : List Text} :
    ∀ label ∈ (parts.map Text.trim).eraseDups, Trimmed label := by
  intro label h
  obtain ⟨part, -, rfl⟩ := List.mem_map.1 (List.mem_eraseDups.1 h)
  exact Text.trimmed_trim part

end Build

namespace Sketch

open Build

/-- The nodes of a sketch, in order. -/
def plan : Sketch → List Node
  | blank => []
  | numbered nodes links =>
    nodes.map definedNode ++ (undeclared nodes links).map placeholderNode
  | labelled labels _ => labels.map labelNode

/-- The links of a sketch between ids. -/
def wiring : Sketch → List Link
  | blank => []
  | numbered _ links => links.map numberedLink
  | labelled _ links => links.map labelledLink

/-- No node is drawn twice, and links between labels stay among the labels that
    are drawn. -/
def WellFormed : Sketch → Prop
  | blank => True
  | numbered nodes _ => (nodes.map NumberedNode.token).Nodup
  | labelled labels links =>
    labels.Nodup ∧ (∀ label ∈ labels, Trimmed label) ∧
      ∀ l ∈ links, l.source ∈ labels ∧ l.target ∈ labels

/-- No token is defined twice. -/
def Distinct : Sketch → Prop
  | numbered nodes _ => (nodes.map NumberedNode.token).Nodup
  | _ => True

/-- The sketch with all labels that are drawn in front, trimmed and each once. -/
def tidy : Sketch → Sketch
  | blank => blank
  | numbered nodes links => numbered nodes links
  | labelled labels links =>
    labelled ((labels ++ endsOf links).map Text.trim).eraseDups
      (links.map fun l => ⟨Text.trim l.source, Text.trim l.target, l.label⟩)

/-- The nodes that a sketch means, and the links between their ids. -/
inductive Means : Sketch → List Node → List Link → Prop
  /-- A blank sketch means nothing. -/
  | blank : Means blank [] []
  /-- A numbered sketch means its definitions, and behind them a placeholder for each
      token that is linked and not defined, in the order in which those are first
      linked. -/
  | numbered {nodes : List NumberedNode} {links : List Link} {more : List Text} :
      Text.FirstSeen more
        ((endsOf links).filter fun token => token ∉ nodes.map NumberedNode.token) →
      Means (numbered nodes links) (nodes.map definedNode ++ more.map placeholderNode)
        (links.map numberedLink)
  /-- A labelled sketch means its labels and the ends of its links, trimmed, in the
      order in which they are first seen. -/
  | labelled {labels drawn : List Text} {links : List Link} :
      Text.FirstSeen drawn ((labels ++ endsOf links).map Text.trim) →
      Means (labelled labels links) (drawn.map labelNode) (links.map labelledLink)

variable {sketch : Sketch}

theorem WellFormed.distinct (h : sketch.WellFormed) : sketch.Distinct := by
  cases sketch with
  | blank => trivial
  | numbered nodes links => exact h
  | labelled labels links => trivial

/-- Tidying does not change what is meant by the links. -/
theorem wiring_tidy (sketch : Sketch) : sketch.tidy.wiring = sketch.wiring := by
  cases sketch with
  | blank => rfl
  | numbered nodes links => rfl
  | labelled labels links =>
    rw [tidy, wiring, wiring, List.map_map]
    refine List.map_congr_left fun l _ => ?_
    simp only [Function.comp, labelledLink, Ident.labelled_trim]

/-- A tidy sketch is well-formed, unless it defines a token twice. -/
theorem wellFormed_tidy (h : sketch.Distinct) : sketch.tidy.WellFormed := by
  cases sketch with
  | blank => trivial
  | numbered nodes links => exact h
  | labelled labels links =>
    have hend {e : Text} (he : e ∈ endsOf links) :
        Text.trim e ∈ ((labels ++ endsOf links).map Text.trim).eraseDups :=
      List.mem_eraseDups.2 (List.mem_map_of_mem (List.mem_append_right _ he))
    refine ⟨Text.nodup_eraseDups _, trimmed_of_mem_eraseDups, ?_⟩
    rw [List.forall_mem_map]
    exact fun l hl => ⟨hend (mem_endsOf.2 ⟨l, hl, .inl rfl⟩), hend (mem_endsOf.2 ⟨l, hl, .inr rfl⟩)⟩

/-- A well-formed sketch is tidy. -/
theorem WellFormed.tidy_eq (h : sketch.WellFormed) : sketch.tidy = sketch := by
  cases sketch with
  | blank => rfl
  | numbered nodes links => rfl
  | labelled labels links =>
    obtain ⟨hnodup, htrim, hends⟩ := h
    have hsub : endsOf links ⊆ labels := by
      intro e he
      obtain ⟨l, hl, rfl | rfl⟩ := mem_endsOf.1 he
      · exact (hends l hl).1
      · exact (hends l hl).2
    have htrimmed : ∀ e ∈ labels ++ endsOf links, Text.trim e = e := by
      rw [List.forall_mem_append]
      exact ⟨htrim, fun e he => htrim e (hsub he)⟩
    have hlinks : ∀ l ∈ links, (⟨Text.trim l.source, Text.trim l.target, l.label⟩ : Link) = l := by
      intro l hl
      rw [htrim _ (hends l hl).1, htrim _ (hends l hl).2]
    rw [tidy, List.map_congr_left htrimmed, List.map_congr_left hlinks, List.map_id', List.map_id',
      Text.eraseDups_append_of_subset hsub, Text.eraseDups_of_nodup hnodup]

end Sketch

namespace Build

variable {s : Site} {nodes : List NumberedNode} {links : List Link} {tokens labels : List Text}
  {sketch : Sketch} {label token : Text}

/-! ## Sites -/

/-- The site with more nodes. -/
def Site.extend (s : Site) (nodes : List Node) : Site :=
  ⟨{ s.chart with nodes := s.chart.nodes ++ nodes }, s.registry.enroll nodes⟩

@[simp]
theorem Site.extend_nil (s : Site) : s.extend [] = s := by
  rw [Site.extend, List.append_nil]
  rfl

theorem Site.extend_append (s : Site) (nodes more : List Node) :
    s.extend (nodes ++ more) = (s.extend nodes).extend more := by
  simp [Site.extend, Registry.enroll_append]

theorem Site.extend_cons (s : Site) (n : Node) (nodes : List Node) :
    s.extend (n :: nodes) = (s.extend [n]).extend nodes :=
  s.extend_append [n] nodes

@[simp]
theorem Site.nodeIds_extend (s : Site) (nodes : List Node) :
    (s.extend nodes).chart.nodeIds = s.chart.nodeIds ++ nodes.map Node.id :=
  List.map_append

theorem Site.add_of_not_mem {id : Text} (h : id ∉ s.chart.nodeIds) (label : Text) (m : Metadata) :
    s.add id label m = .ok (s.extend [{ id, label := some label, metadata := m }]) := by
  rw [Site.add, Chart.addNode_of_not_mem h]
  rfl

/-! ## Numbered sketches -/

theorem addNumbered_eq (h : (s.chart.nodeIds ++ nodes.map fun n => Ident.numbered n.token).Nodup) :
    addNumbered s nodes = .ok (s.extend (nodes.map definedNode)) := by
  induction nodes generalizing s with
  | nil => rw [List.map_nil, Site.extend_nil, addNumbered]
  | cons n rest ih =>
    have hn : Ident.numbered n.token ∉ s.chart.nodeIds := fun hmem =>
      (List.nodup_append.1 h).2.2 _ hmem _ (by simp) rfl
    have hrest := ih (s := s.extend [definedNode n]) (by simpa [definedNode] using h)
    rw [addNumbered, Site.add_of_not_mem hn, List.map_cons,
      Site.extend_cons s (definedNode n)]
    exact hrest

theorem addPlaceholders_eq (h : (s.chart.nodeIds ++ tokens.map Ident.numbered).Nodup) :
    addPlaceholders s tokens = .ok (s.extend (tokens.map placeholderNode)) := by
  induction tokens generalizing s with
  | nil => rw [List.map_nil, Site.extend_nil, addPlaceholders]
  | cons token rest ih =>
    have hn : Ident.numbered token ∉ s.chart.nodeIds := fun hmem =>
      (List.nodup_append.1 h).2.2 _ hmem _ (by simp) rfl
    have hrest := ih (s := s.extend [placeholderNode token]) (by simpa [placeholderNode] using h)
    rw [addPlaceholders, Site.add_of_not_mem hn, List.map_cons,
      Site.extend_cons s (placeholderNode token)]
    exact hrest

theorem mem_undeclared : token ∈ undeclared nodes links ↔
    (∃ l ∈ links, token = l.source ∨ token = l.target) ∧
      token ∉ nodes.map NumberedNode.token := by
  simp [undeclared]

/-- Nothing is undeclared if links join defined nodes. -/
theorem undeclared_eq_nil (h : ∀ l ∈ links, l.source ∈ nodes.map NumberedNode.token ∧
    l.target ∈ nodes.map NumberedNode.token) : undeclared nodes links = [] := by
  refine List.eq_nil_iff_forall_not_mem.2 fun token htoken => ?_
  obtain ⟨⟨l, hl, rfl | rfl⟩, hnot⟩ := mem_undeclared.1 htoken
  · exact hnot (h l hl).1
  · exact hnot (h l hl).2

theorem nodup_undeclared (nodes : List NumberedNode) (links : List Link) :
    (undeclared nodes links).Nodup :=
  (Text.nodup_eraseDups _).filter _

/-! ## Labelled sketches -/

theorem labelled_injOn {other : Text} (hl : Trimmed label) (ho : Trimmed other)
    (h : Ident.labelled label = Ident.labelled other) : label = other := by
  rw [← hl, Ident.trim_eq_of_labelled_eq h, ho]

/-- The id of a label is the id of a node only if the node has that label. -/
theorem mem_map_labelNode (htrim : ∀ l ∈ labels, Trimmed l) (hlabel : Trimmed label) :
    Ident.labelled label ∈ (labels.map labelNode).map Node.id ↔ label ∈ labels := by
  rw [List.map_map, List.mem_map]
  constructor
  · rintro ⟨l, hl, hid⟩
    exact labelled_injOn (htrim l hl) hlabel hid ▸ hl
  · exact fun hmem => ⟨label, hmem, rfl⟩

theorem nodup_map_labelNode (hnodup : labels.Nodup) (htrim : ∀ l ∈ labels, Trimmed l) :
    ((labels.map labelNode).map Node.id).Nodup := by
  rw [List.map_map]
  exact hnodup.map_on fun l hl m hm hid => labelled_injOn (htrim l hl) (htrim m hm) hid

/-- The last of distinct labels is new to the others, and so is its id. -/
theorem of_labels_append_singleton (hnodup : (labels ++ [label]).Nodup)
    (htrim : ∀ l ∈ labels ++ [label], Trimmed l) :
    (labels.Nodup ∧ ∀ l ∈ labels, Trimmed l) ∧ (label ∉ labels ∧ Trimmed label) ∧
      Ident.labelled label ∉ (labels.map labelNode).map Node.id := by
  rw [List.forall_mem_append, List.forall_mem_singleton] at htrim
  rw [List.nodup_append] at hnodup
  have hnew : label ∉ labels := fun hmem =>
    hnodup.2.2 label hmem label List.mem_cons_self rfl
  refine ⟨⟨hnodup.1, htrim.1⟩, ⟨hnew, htrim.2⟩, ?_⟩
  rwa [mem_map_labelNode htrim.1 htrim.2]

/-- In the registry of labels each label belongs to its own id. -/
theorem idFor?_enroll (hnodup : labels.Nodup) (htrim : ∀ l ∈ labels, Trimmed l) (label : Text) :
    (Registry.empty.enroll (labels.map labelNode)).idFor? label =
      if label ∈ labels then some (Ident.labelled label) else none := by
  induction labels using List.reverseRecOn with
  | nil => rfl
  | append_singleton labels l ih =>
    obtain ⟨⟨hnodup, htrim⟩, -, hid⟩ := of_labels_append_singleton hnodup htrim
    rw [← Registry.keys_enroll (nodup_map_labelNode hnodup htrim)] at hid
    have hcaption : (labelNode l).caption = l := rfl
    rw [List.map_append, Registry.enroll_append]
    refine (Registry.idFor?_assign_of_not_mem hid label).trans ?_
    rw [ih hnodup htrim, hcaption]
    by_cases hlabel : label = l
    · rw [if_pos hlabel, hlabel, if_pos (by simp)]
    · rw [if_neg hlabel]
      simp [hlabel]

/-- A label that has a node is found. -/
theorem ensureLabel_of_mem (hid : s.registry.idFor? label = some (Ident.labelled label))
    (hmem : Ident.labelled label ∈ s.chart.nodeIds) (hlabel : Trimmed label) :
    ensureLabel s label = (s, Ident.labelled label) := by
  have hnode : s.chart.addNode (labelNode label) = .error (.nodeExists (Ident.labelled label)) :=
    Chart.addNode_of_mem hmem
  rw [labelNode] at hnode
  rw [← hlabel] at hid
  rw [ensureLabel, Registry.resolve_of_idFor? hid, hlabel]
  simp only [hnode]

/-- A label that has no node gets one. -/
theorem ensureLabel_of_not_mem (hid : s.registry.idFor? label = none)
    (hmem : Ident.labelled label ∉ s.chart.nodeIds) (hlabel : Trimmed label) :
    ensureLabel s label = (s.extend [labelNode label], Ident.labelled label) := by
  have hnode : s.chart.addNode (labelNode label) =
      .ok { s.chart with nodes := s.chart.nodes ++ [labelNode label] } :=
    Chart.addNode_of_not_mem hmem
  rw [labelNode] at hnode
  rw [← hlabel] at hid
  rw [ensureLabel, Registry.resolve_of_idFor?_eq_none hid, hlabel]
  simp only [hnode]
  rfl

/-- A label counts without the blanks at its ends. -/
theorem ensureLabel_trim (s : Site) (label : Text) :
    ensureLabel s (Text.trim label) = ensureLabel s label := by
  rw [ensureLabel, ensureLabel, Registry.resolve, Registry.resolve, Text.trim_trim]

variable {c : Chart}

/-- The site with a node for each label that has been seen. -/
def labelSite (c : Chart) (seen : List Text) : Site :=
  Site.extend ⟨c, .empty⟩ ((seen.map Text.trim).eraseDups.map labelNode)

/-- Whichever label comes next, it has been seen then, and the node has its id. -/
theorem ensureLabel_labelSite (hc : c.nodes = []) (seen : List Text) (label : Text) :
    ensureLabel (labelSite c seen) label =
      (labelSite c (seen ++ [label]), Ident.labelled label) := by
  have hnodup := Text.nodup_eraseDups (seen.map Text.trim)
  have htrim : ∀ l ∈ (seen.map Text.trim).eraseDups, Trimmed l := trimmed_of_mem_eraseDups
  have hlabel := Text.trimmed_trim label
  have howner : (labelSite c seen).registry.idFor? (Text.trim label) =
      if Text.trim label ∈ (seen.map Text.trim).eraseDups
        then some (Ident.labelled (Text.trim label)) else none :=
    idFor?_enroll hnodup htrim _
  have hnode : Ident.labelled (Text.trim label) ∈ (labelSite c seen).chart.nodeIds ↔
      Text.trim label ∈ (seen.map Text.trim).eraseDups := by
    rw [labelSite, Site.nodeIds_extend, Chart.nodeIds, hc, List.map_nil, List.nil_append,
      mem_map_labelNode htrim hlabel]
  rw [← ensureLabel_trim, ← Ident.labelled_trim]
  by_cases hseen : Text.trim label ∈ (seen.map Text.trim).eraseDups
  · rw [if_pos hseen] at howner
    rw [ensureLabel_of_mem howner (hnode.2 hseen) hlabel, labelSite, labelSite, List.map_append,
      List.map_singleton, Text.eraseDups_append_singleton, if_pos (List.mem_eraseDups.1 hseen)]
  · rw [if_neg hseen] at howner
    rw [ensureLabel_of_not_mem howner (mt hnode.1 hseen) hlabel, labelSite, labelSite,
      List.map_append, List.map_singleton, Text.eraseDups_append_singleton,
      if_neg (mt List.mem_eraseDups.2 hseen), List.map_append, Site.extend_append]
    rfl

theorem ensureLabels_labelSite (hc : c.nodes = []) (seen labels : List Text) :
    ensureLabels (labelSite c seen) labels = labelSite c (seen ++ labels) := by
  induction labels generalizing seen with
  | nil => rw [List.append_nil, ensureLabels, List.foldl_nil]
  | cons label rest ih =>
    rw [ensureLabels, List.foldl_cons, ensureLabel_labelSite hc, ← ensureLabels, ih,
      ← List.append_cons]

/-- The ends of links are labels like others. -/
theorem ensureLinks_labelSite (hc : c.nodes = []) (seen : List Text) (links : List Link) :
    ensureLinks (labelSite c seen) links =
      (labelSite c (seen ++ endsOf links), links.map labelledLink) := by
  induction links generalizing seen with
  | nil => rw [ensureLinks, endsOf, List.flatMap_nil, List.append_nil, List.map_nil]
  | cons l rest ih =>
    have hends : seen ++ endsOf (l :: rest) = seen ++ [l.source] ++ [l.target] ++ endsOf rest := by
      simp [endsOf]
    rw [ensureLinks, ensureLabel_labelSite hc]
    simp only [ensureLabel_labelSite hc, ih, hends]
    rfl

/-! ## Any sketch -/

theorem map_id_plan_numbered (nodes : List NumberedNode) (links : List Link) :
    (Sketch.numbered nodes links).plan.map Node.id =
      (nodes.map NumberedNode.token ++ undeclared nodes links).map Ident.numbered := by
  simp only [Sketch.plan, List.map_append, List.map_map]
  rfl

/-- Planned nodes have distinct ids. -/
theorem nodup_plan (h : sketch.WellFormed) : (sketch.plan.map Node.id).Nodup := by
  cases sketch with
  | blank => exact List.nodup_nil
  | numbered nodes links =>
    rw [map_id_plan_numbered]
    refine List.Nodup.map (fun _ _ => Ident.numbered_injective) ?_
    refine List.nodup_append.2 ⟨h, nodup_undeclared nodes links, fun token hdef other hund => ?_⟩
    rintro rfl
    exact (mem_undeclared.1 hund).2 hdef
  | labelled labels links => exact nodup_map_labelNode h.1 h.2.1

/-- The ends of the links are planned. -/
theorem mem_plan_of_mem_wiring (h : sketch.WellFormed) {l : Link} (hl : l ∈ sketch.wiring) :
    l.source ∈ sketch.plan.map Node.id ∧ l.target ∈ sketch.plan.map Node.id := by
  cases sketch with
  | blank => cases hl
  | numbered nodes links =>
    obtain ⟨k, hk, rfl⟩ := List.mem_map.1 hl
    rw [map_id_plan_numbered]
    -- An end that is not defined has a placeholder.
    have hmem : ∀ token, token = k.source ∨ token = k.target →
        token ∈ nodes.map NumberedNode.token ++ undeclared nodes links := fun token htoken => by
      by_cases hdef : token ∈ nodes.map NumberedNode.token
      · exact List.mem_append_left _ hdef
      · exact List.mem_append_right _ (mem_undeclared.2 ⟨⟨k, hk, htoken⟩, hdef⟩)
    exact ⟨List.mem_map_of_mem (hmem k.source (.inl rfl)),
      List.mem_map_of_mem (hmem k.target (.inr rfl))⟩
  | labelled labels links =>
    obtain ⟨k, hk, rfl⟩ := List.mem_map.1 hl
    obtain ⟨hs, ht⟩ := h.2.2 k hk
    exact ⟨(mem_map_labelNode h.2.1 (h.2.1 _ hs)).2 hs,
      (mem_map_labelNode h.2.1 (h.2.1 _ ht)).2 ht⟩

/-- Unless it defines a token twice, a sketch gives the planned nodes and links. -/
theorem addSketch_eq (hc : c.nodes = []) (h : sketch.Distinct) :
    addSketch ⟨c, .empty⟩ sketch =
      .ok (Site.extend ⟨c, .empty⟩ sketch.tidy.plan, sketch.wiring) := by
  have hids : c.nodeIds = [] := by rw [Chart.nodeIds, hc, List.map_nil]
  cases sketch with
  | blank => rw [Sketch.tidy, Sketch.plan, Site.extend_nil]; rfl
  | numbered nodes links =>
    have hnodup := nodup_plan (Sketch.wellFormed_tidy h)
    rw [Sketch.tidy, Sketch.plan, List.map_append, List.map_map, List.map_map] at hnodup
    have hdef : addNumbered ⟨c, .empty⟩ nodes =
        .ok (Site.extend ⟨c, .empty⟩ (nodes.map definedNode)) := by
      refine addNumbered_eq ?_
      rw [hids, List.nil_append]
      exact (List.nodup_append.1 hnodup).1
    have hund : addPlaceholders (Site.extend ⟨c, .empty⟩ (nodes.map definedNode))
        (undeclared nodes links) = .ok ((Site.extend ⟨c, .empty⟩ (nodes.map definedNode)).extend
          ((undeclared nodes links).map placeholderNode)) := by
      refine addPlaceholders_eq ?_
      rw [Site.nodeIds_extend, hids, List.nil_append, List.map_map]
      exact hnodup
    rw [addSketch, hdef]
    simp only [bind, Except.bind, hund, ← Site.extend_append]
    rfl
  | labelled labels links =>
    have hstart : labelSite c [] = ⟨c, .empty⟩ := Site.extend_nil _
    have hlabels := ensureLabels_labelSite hc [] labels
    rw [hstart, List.nil_append] at hlabels
    rw [addSketch, hlabels, ensureLinks_labelSite hc]
    rfl

/-- Nothing is missing if links join nodes. -/
theorem reconcile_eq_self
    (h : ∀ l ∈ links, l.source ∈ s.chart.nodeIds ∧ l.target ∈ s.chart.nodeIds) :
    reconcile s links = s := by
  have hmissing : missingEnds s.chart links = [] := by
    refine List.eq_nil_iff_forall_not_mem.2 fun id hid => ?_
    simp only [missingEnds, List.mem_filter, List.mem_eraseDups, List.mem_flatMap, List.mem_cons,
      List.not_mem_nil, or_false, Bool.not_eq_true', Chart.hasNode_eq_false_iff] at hid
    obtain ⟨⟨l, hl, rfl | rfl⟩, hnot⟩ := hid
    · exact hnot (h l hl).1
    · exact hnot (h l hl).2
  rw [reconcile, hmissing, List.foldl_nil]

/-- Links that join nodes become edges, numbered in order. -/
theorem addLinks_linked (ls : List Link)
    (h : ∀ l ∈ links, l.source ∈ c.nodeIds ∧ l.target ∈ c.nodeIds) :
    addLinks (c.linked ls) links = .ok (c.linked (ls ++ links)) := by
  induction links generalizing ls with
  | nil => rw [addLinks, List.append_nil]
  | cons l rest ih =>
    obtain ⟨hs, ht⟩ := h l List.mem_cons_self
    rw [addLinks, Chart.addEdge_linked ls l hs ht, List.append_cons ls l rest]
    exact ih _ fun m hm => h m (List.mem_cons_of_mem _ hm)

/-- The chart that has given nodes and no edges yet. -/
def groundWith (name : Option Text) (r : Reading) (nodes : List Node) : Chart :=
  { groundFor name r with nodes }

theorem extend_groundFor (name : Option Text) (r : Reading) (nodes : List Node) :
    Site.extend ⟨groundFor name r, .empty⟩ nodes =
      ⟨(groundWith name r nodes).linked [], Registry.empty.enroll nodes⟩ := by
  cases r <;> rfl

/-- When the nodes of a sketch have been added, every end of a link is one. -/
theorem reconcile_extend_plan {r : Reading} (name : Option Text) (h : (sketchOf r).Distinct) :
    reconcile (Site.extend ⟨groundFor name r, .empty⟩ (sketchOf r).tidy.plan) (sketchOf r).wiring =
      Site.extend ⟨groundFor name r, .empty⟩ (sketchOf r).tidy.plan := by
  refine reconcile_eq_self fun l hl => ?_
  rw [← Sketch.wiring_tidy] at hl
  rw [extend_groundFor]
  exact mem_plan_of_mem_wiring (Sketch.wellFormed_tidy h) hl

/-- The chart with the planned nodes, before they have places, and the links. -/
def chartOf (name : Option Text) (r : Reading) : Chart :=
  (groundWith name r (sketchOf r).tidy.plan).linked (sketchOf r).wiring

/-- Unless it defines a token twice, a sketch is assembled from the planned nodes and
    links. -/
theorem assemble_tidy {r : Reading} (name : Option Text) (h : (sketchOf r).Distinct) :
    assemble name r = .ok ⟨chartOf name r, Registry.empty.enroll (sketchOf r).tidy.plan⟩ := by
  have hnodes : (groundFor name r).nodes = [] := by cases r <;> rfl
  have hends : ∀ l ∈ (sketchOf r).wiring,
      l.source ∈ (groundWith name r (sketchOf r).tidy.plan).nodeIds ∧
        l.target ∈ (groundWith name r (sketchOf r).tidy.plan).nodeIds := by
    rw [← Sketch.wiring_tidy]
    exact fun _ => mem_plan_of_mem_wiring (Sketch.wellFormed_tidy h)
  have hrec := reconcile_extend_plan name h
  rw [extend_groundFor] at hrec
  rw [assemble, addSketch_eq hnodes h, extend_groundFor]
  simp only [bind, Except.bind, hrec, addLinks_linked [] hends, List.nil_append]
  rfl

/-- The chart that has the planned nodes and no edges yet. -/
def planned (name : Option Text) (r : Reading) : Chart :=
  { groundFor name r with nodes := (sketchOf r).plan }

/-- A well-formed sketch is assembled from the planned nodes and links. -/
theorem assemble_eq {r : Reading} (name : Option Text) (h : (sketchOf r).WellFormed) :
    assemble name r = .ok
      ⟨(planned name r).linked (sketchOf r).wiring, Registry.empty.enroll (sketchOf r).plan⟩ := by
  rw [assemble_tidy name h.distinct, chartOf, h.tidy_eq]
  rfl

/-- The planned nodes and links are what the sketch means. -/
theorem means_tidy (sketch : Sketch) : sketch.Means sketch.tidy.plan sketch.wiring := by
  cases sketch with
  | blank => exact .blank
  | numbered nodes links =>
    refine .numbered ?_
    have hundeclared : undeclared nodes links =
        ((endsOf links).filter fun token => token ∉ nodes.map NumberedNode.token).eraseDups := by
      rw [← Text.filter_eraseDups]
      refine List.filter_congr fun token _ => ?_
      rw [Bool.eq_iff_iff]
      simp
    rw [hundeclared]
    exact Text.firstSeen_eraseDups _
  | labelled labels links => exact .labelled (Text.firstSeen_eraseDups _)

end Build

end FlowScript
