import FlowScript.Proofs.Document.Invariant

/-!
# Documents that halves get into

Texts and labels may hold halves of characters. An edit with halves has its usual effect,
or none: the only edit that asks for the id of a label is adding a node, and without an id
it leaves the document as it was (`exists_runRaw_eq`). Building may break off in the middle.
By then the registry has been emptied and holds the labels up to the first one with a half,
while the chart is still the one of before (`buildRaw_cases`). From then on the registry and
the chart need not fit together, until a text is built whose labels are whole (`Encodes`).

* `resolveAll_labelsOf`: the labels that are looked at are those that building registers;
* `encodes_of_isWhole`, `runRaw_eq_run`: halves only matter where there are some;
* `Wired.runRaw`: the edges of a document are in order after any history;
* `Wired.sound_runRaw`: so is its registry, if the last text that was built encodes;
* `consistent_runRaw_new`: what this says of a document that was new once;
* `registry_ahead_of_chart`: a text that does not encode.
-/

namespace FlowScript

open Text (Halves)

variable {h : Halves}

/-! ## Labels that get ids -/

namespace Registry

open Table (get? keys)

variable {r : Registry} {label : Text} {labels : List Text}

/-- Whole labels are resolved to the last. -/
theorem resolveAll_of_forall (hlabels : ∀ label ∈ labels, h.isWhole label = true) :
    r.resolveAll h labels = (labels.foldl (fun r label => (r.resolve label).1) r, none) := by
  induction labels generalizing r with
  | nil => rfl
  | cons label rest ih =>
    rw [List.forall_mem_cons] at hlabels
    rw [resolveAll, resolveRaw_of_isWhole hlabels.1]
    exact ih hlabels.2

/-- A label in use was in use before, unless it is the one that was resolved. -/
theorem Paired.mem_keys_ids_resolve (hr : r.Paired) {l : Text}
    (hl : l ∈ keys (r.resolve label).1.ids) : l = Text.trim label ∨ l ∈ keys r.ids := by
  cases hid : r.idFor? (Text.trim label) with
  | some id =>
    rw [resolve_of_idFor? hid] at hl
    exact .inr hl
  | none =>
    rw [resolve_of_idFor?_eq_none hid, (hr.assign _ _).mem_keys_ids_iff] at hl
    obtain ⟨holder, hholds⟩ := hl
    rw [labels_assign] at hholds
    by_cases hsame : holder = Ident.labelled (Text.trim label)
    · rw [hsame, Table.get?_put_self] at hholds
      exact .inl (Option.some.inj hholds).symm
    · rw [Table.get?_put_of_ne _ _ hsame] at hholds
      exact .inr (hr.mem_keys_ids_iff.2 ⟨holder, hholds⟩)

/-- A registry with whole labels only resolves all labels iff they are whole. -/
theorem Paired.resolveAll_eq_none_iff (hr : r.Paired)
    (hwhole : ∀ l ∈ keys r.ids, h.isWhole l = true) :
    (r.resolveAll h labels).2 = none ↔ ∀ label ∈ labels, h.isWhole label = true := by
  induction labels generalizing r with
  | nil => simp [resolveAll]
  | cons label rest ih =>
    rw [List.forall_mem_cons, resolveAll]
    cases hw : h.isWhole label with
    | false =>
      -- The label cannot be in use, so it has no id.
      have hnew : r.idFor? (Text.trim label) = none := by
        refine Table.get?_eq_none fun hmem => ?_
        rw [← h.isWhole_trim, hwhole _ hmem] at hw
        cases hw
      simp [resolveRaw_eq_error hnew hw]
    | true =>
      rw [resolveRaw_of_isWhole hw]
      simp only [true_and]
      refine ih (hr.resolve label) fun l hl => ?_
      obtain rfl | hl := hr.mem_keys_ids_resolve hl
      · rwa [h.isWhole_trim]
      · exact hwhole l hl

end Registry

namespace Build

/-- The registry after labels have been resolved one after the other. -/
theorem registry_ensureLabel (s : Site) (label : Text) :
    (ensureLabel s label).1.registry = (s.registry.resolve label).1 := by
  rw [ensureLabel]
  simp only
  split <;> rfl

theorem registry_ensureLabels (s : Site) (labels : List Text) :
    (ensureLabels s labels).registry =
      labels.foldl (fun r label => (r.resolve label).1) s.registry := by
  induction labels generalizing s with
  | nil => rfl
  | cons label rest ih =>
    rw [List.foldl_cons, ← registry_ensureLabel]
    exact ih _

/-- A labelled sketch whose labels are whole registers them in the order in which they
    are looked at. -/
theorem resolveAll_labelsOf (s : Site) {labels : List Text} {links : List Link}
    (hlabels : ∀ label ∈ labelsOf (.labelled labels links), h.isWhole label = true) :
    s.registry.resolveAll h (labelsOf (.labelled labels links)) =
      ((ensureLinks (ensureLabels s labels) links).1.registry, none) := by
  have hlinks (s : Site) : (ensureLinks s links).1.registry =
      (endsOf links).foldl (fun r label => (r.resolve label).1) s.registry := by
    clear hlabels
    induction links generalizing s with
    | nil => rfl
    | cons l rest ih =>
      have hends : endsOf (l :: rest) = l.source :: l.target :: endsOf rest := rfl
      rw [hends, List.foldl_cons, List.foldl_cons, ← registry_ensureLabel,
        ← registry_ensureLabel]
      exact ih _
  rw [Registry.resolveAll_of_forall hlabels, hlinks, registry_ensureLabels, labelsOf,
    List.foldl_append]
  rfl

end Build

namespace Document

variable {d : Document} {s : Text} {a : Action} {actions edits : List Action}

/-! ## Building -/

/-- The labels of the text that get ids have bytes. -/
def Encodes (h : Halves) (s : Text) : Prop :=
  ∀ label ∈ Build.labelsOf (Build.sketchOf (Reading.ofText s)), h.isWhole label = true

instance (h : Halves) (s : Text) : Decidable (Encodes h s) :=
  inferInstanceAs (Decidable (∀ label ∈ _, h.isWhole label = true))

/-- The labels of a text that get ids are those of its chains. -/
theorem mem_labels_of_mem_labelsOf {label : Text}
    (hlabel : label ∈ Build.labelsOf (Build.sketchOf (Reading.ofText s))) :
    label ∈ Chain.labels (Wrap.unwrappedLines s) := by
  cases hreading : Reading.ofText s with
  | notApplicable reason =>
    rw [hreading] at hlabel
    cases hlabel
  | recognized dialect sketch notes =>
    rw [hreading, Build.sketchOf] at hlabel
    cases sketch with
    | blank | numbered => cases hlabel
    | labelled labels links =>
      obtain ⟨-, hread⟩ := Reading.read_of_ofText_labelled hreading
      obtain ⟨-, -, -, hsketch, -⟩ := Chain.read_eq_recognized_iff.1 hread
      obtain ⟨rfl, rfl⟩ := Sketch.labelled.inj hsketch
      obtain hnode | hend := List.mem_append.1 hlabel
      · exact hnode
      · -- The ends of links are labels too.
        obtain ⟨l, hl, hend⟩ := Build.mem_endsOf.1 hend
        obtain ⟨-, hsource, htarget⟩ := Chain.of_mem_links
          (fun i => Wrap.unbroken_of_mem_unwrappedLines (i := i)) hl
        obtain rfl | rfl := hend
        · exact hsource
        · exact htarget

/-- Whole texts have whole labels. -/
theorem encodes_of_isWhole (hs : h.isWhole s = true) : Encodes h s := by
  have hspace : h.isWhole [' '] = true :=
    h.isWhole_of_forall (List.forall_mem_singleton.2 rfl)
  rw [Halves.isWhole, List.all_eq_true] at hs hspace
  intro label hlabel
  rw [Halves.isWhole, List.all_eq_true]
  intro c hc
  obtain rfl | hc := Chain.mem_of_mem_labels (mem_labels_of_mem_labelsOf hlabel) hc
  · exact hspace ' ' List.mem_cons_self
  · exact hs c hc

/-- A text that encodes is built as if it were whole. -/
theorem buildRaw_of_encodes (d : Document) (hs : Encodes h s) : d.buildRaw h s = d.build s := by
  rw [buildRaw, Registry.resolveAll_of_forall hs]

/-- A text is built as if it were whole, or there are labels in the registry and the chart
    is as it was. -/
theorem buildRaw_cases (d : Document) (h : Halves) (s : Text) : d.buildRaw h s = d.build s ∨
    ∃ registry fault,
      d.buildRaw h s = ({ d with reading := some (Reading.ofText s), registry }, some fault) := by
  rw [buildRaw]
  split
  · exact .inr ⟨_, _, rfl⟩
  · exact .inl rfl

/-- On the default grid building fails for want of bytes only. -/
theorem buildRaw_eq_none_iff (hgrid : d.grid = {}) (hs : s.length < sizeLimit) :
    (d.buildRaw h s).2 = none ↔ Encodes h s := by
  constructor
  · intro hnone
    refine (Registry.paired_empty.resolveAll_eq_none_iff fun l hl => nomatch hl).1 ?_
    rw [buildRaw] at hnone
    split at hnone
    · cases hnone
    · next hall => rw [hall]
  · intro hs'
    rw [buildRaw_of_encodes d hs']
    exact build_default_eq_none hgrid hs

/-! ## Edits -/

/-- A node is added as if its label were whole, or nothing happens. -/
theorem addNodeRaw_cases (d : Document) (h : Halves) (label : Text) :
    d.addNodeRaw h label = d.addNode label ∨ (d.addNodeRaw h label).1 = d := by
  rw [addNodeRaw]
  split
  · exact .inr rfl
  · exact .inl rfl

theorem actRaw_cases (d : Document) (h : Halves) (ha : ¬a.Builds) :
    d.actRaw h a = d.act a ∨ d.actRaw h a = d := by
  cases a with
  | build s => exact absurd trivial ha
  | addNode label => exact (d.addNodeRaw_cases h label).imp_left (congrArg Prod.fst)
  | relabelNode | relabelEdge | editNode | editEdge | connect => exact .inl rfl

/-- The labels whose ids the action asks for have bytes. -/
def Action.Encodes (h : Halves) : Action → Prop
  | .build s => Document.Encodes h s
  | .addNode label => h.isWhole label = true
  | _ => True

/-- Without halves nothing is different. -/
theorem runRaw_eq_run (hactions : ∀ a ∈ actions, a.Encodes h) :
    d.runRaw h actions = d.run actions := by
  induction actions generalizing d with
  | nil => rfl
  | cons a rest ih =>
    rw [List.forall_mem_cons] at hactions
    have hact : d.actRaw h a = d.act a := by
      cases a with
      | build s => exact congrArg Prod.fst (buildRaw_of_encodes d hactions.1)
      | addNode label =>
        rw [actRaw, addNodeRaw, Registry.resolveRaw_of_isWhole hactions.1]
        cases d.chart.form <;> rfl
      | relabelNode | relabelEdge | editNode | editEdge | connect => rfl
    rw [runRaw, List.foldl_cons, hact]
    exact ih hactions.2

/-- Edits with halves do what some of them do that have none. -/
theorem exists_runRaw_eq (d : Document) (h : Halves) (hedits : ∀ a ∈ edits, ¬a.Builds) :
    ∃ kept, kept.Sublist edits ∧ d.runRaw h edits = d.run kept := by
  induction edits generalizing d with
  | nil => exact ⟨[], .slnil, rfl⟩
  | cons a rest ih =>
    rw [List.forall_mem_cons] at hedits
    obtain ⟨kept, hkept, hrun⟩ := ih (d.actRaw h a) hedits.2
    obtain heq | heq := d.actRaw_cases h hedits.1
    · rw [heq] at hrun
      refine ⟨a :: kept, hkept.cons_cons a, ?_⟩
      rw [runRaw, List.foldl_cons, heq]
      exact hrun
    · rw [heq] at hrun
      refine ⟨kept, hkept.cons a, ?_⟩
      rw [runRaw, List.foldl_cons, heq]
      exact hrun

/-- An edit with halves changes no more than one without. -/
theorem Wired.changeRaw (hd : d.Wired) (ha : ¬a.Builds) : Change d (d.actRaw h a) := by
  obtain heq | heq := d.actRaw_cases h ha
  · rw [heq]
    exact hd.change ha
  · rw [heq]
    exact hd.unchanged

/-! ## Histories -/

/-- The text that an action builds. -/
def Action.text? : Action → Option Text
  | .build s => some s
  | _ => none

/-- The text that is built last. -/
def lastBuilt? : List Action → Option Text
  | [] => none
  | a :: rest => (lastBuilt? rest).or a.text?

/-- An action builds a text or does not build. -/
theorem Action.exists_build_or (a : Action) : (∃ s, a = .build s) ∨ ¬a.Builds ∧ a.text? = none := by
  cases a with
  | build s => exact .inl ⟨s, rfl⟩
  | relabelNode | relabelEdge | editNode | editEdge | addNode | connect =>
    exact .inr ⟨not_false, rfl⟩

/-- Whatever halves there are, an action keeps the edges of a document in order. -/
theorem Wired.actRaw (hd : d.Wired) (hgrid : d.grid = {}) (ha : a.Fits) :
    (d.actRaw h a).Wired ∧ (d.actRaw h a).grid = {} := by
  obtain ⟨s, rfl⟩ | ⟨hb, -⟩ := a.exists_build_or
  · rw [Document.actRaw]
    obtain heq | ⟨registry, fault, heq⟩ := d.buildRaw_cases h s
    · rw [heq]
      exact ⟨(of_build (build_default_eq_none hgrid ha)).sound.toWired,
        (grid_build d s).trans hgrid⟩
    · -- The chart is as it was.
      rw [heq]
      exact ⟨⟨hd.linked, hd.ends, hd.clean⟩, hgrid⟩
  · have hchange : Change d (d.actRaw h a) := hd.changeRaw hb
    exact ⟨hd.of_change hchange, hchange.grid_eq.trans hgrid⟩

theorem Wired.runRaw (hd : d.Wired) (hgrid : d.grid = {}) (hactions : ∀ a ∈ actions, a.Fits) :
    (d.runRaw h actions).Wired ∧ (d.runRaw h actions).grid = {} := by
  induction actions generalizing d with
  | nil => exact ⟨hd, hgrid⟩
  | cons a rest ih =>
    rw [List.forall_mem_cons] at hactions
    obtain ⟨hwired, hgrid⟩ := hd.actRaw hgrid hactions.1
    exact ih hwired hgrid hactions.2

/-- A text that encodes makes the document sound, whatever it was before, and edits keep it
    so. A history without a text has to start from a sound document. -/
theorem Wired.sound_runRaw (hd : d.Wired) (hgrid : d.grid = {})
    (hactions : ∀ a ∈ actions, a.Fits) (hstart : lastBuilt? actions = none → d.Sound)
    (hlast : ∀ s, lastBuilt? actions = some s → Encodes h s) : (d.runRaw h actions).Sound := by
  induction actions generalizing d with
  | nil => exact hstart rfl
  | cons a rest ih =>
    rw [List.forall_mem_cons] at hactions
    obtain ⟨hwired, hgrid'⟩ := hd.actRaw (h := h) hgrid hactions.1
    refine ih hwired hgrid' hactions.2 (fun hnone => ?_) fun s hs => hlast s ?_
    · -- No text comes later, so the action builds the last one, or there is none.
      have hall : lastBuilt? (a :: rest) = a.text? := by rw [lastBuilt?, hnone, Option.none_or]
      obtain ⟨s, rfl⟩ | ⟨hb, htext⟩ := a.exists_build_or
      · rw [Document.actRaw, buildRaw_of_encodes d (hlast s hall)]
        exact (of_build (build_default_eq_none hgrid hactions.1)).sound
      · exact (hstart (hall.trans htext)).of_change (hd.changeRaw hb)
    · rw [lastBuilt?, hs, Option.some_or]

/-- After any history of a new document on the default grid, whatever halves there are in
    its texts and labels: if the labels of the text that was built last have bytes, the ids
    of the registry are those of the nodes, in order. In any case edges join nodes, are
    numbered in order and found by their ids; their labels are fit for their place; edits
    that follow leave the notation of the chart as it is; and the next text is built
    just if its labels have bytes. -/
theorem consistent_runRaw_new (h : Halves) (name : Option Text) (actions : List Action)
    (hactions : ∀ a ∈ actions, a.Fits) :
    let d := (new name {}).runRaw h actions
    ((∀ s, lastBuilt? actions = some s → Encodes h s) →
        Table.keys d.registry.labels = d.chart.nodeIds) ∧
      (∀ e ∈ d.chart.edges, e.source ∈ d.chart.nodeIds ∧ e.target ∈ d.chart.nodeIds) ∧
      (∀ i (hi : i < d.chart.edges.length), d.chart.edges[i].id = edgeId i ∧
        d.chart.edge? (edgeId i) = some d.chart.edges[i]) ∧
      (∀ e ∈ d.chart.edges, ∃ label, e.label = some label ∧ EdgeLabel.normalize label = label) ∧
      (∀ edits : List Action, (∀ a ∈ edits, ¬a.Builds) →
        (d.runRaw h edits).chart.form = d.chart.form) ∧
      ∀ s, (Action.build s).Fits → ((d.buildRaw h s).2 = none ↔ Encodes h s) := by
  intro d
  have hnew := sound_new name {}
  obtain ⟨hd, hgrid⟩ : d.Wired ∧ d.grid = {} := hnew.toWired.runRaw rfl hactions
  have hedges : d.chart.edges = Chart.edgesOf d.chart.links :=
    congrArg Chart.edges hd.linked.symm
  refine ⟨fun hlast => ?_, fun e he => ?_, fun i hi => ?_, fun e he => ?_,
    fun edits hedits => ?_, fun s hs => buildRaw_eq_none_iff hgrid hs⟩
  · exact (hnew.toWired.sound_runRaw rfl hactions (fun _ => hnew) hlast).keys
  -- All that is said of edges is read off the links, whose edges are numbered in order.
  · exact hd.ends e.link (List.mem_map_of_mem he)
  · have hlen : i < d.chart.links.length := by rwa [Chart.links, List.length_map]
    have hget : d.chart.edges[i] = Chart.edgeAt i d.chart.links[i] := by
      rw [List.getElem_of_eq hedges hi]
      exact List.getElem_mapIdx ..
    have hfound := Chart.edge?_linked_edgeId (c := d.chart) hlen
    rw [hd.linked] at hfound
    rw [hget]
    exact ⟨rfl, hfound⟩
  · rw [hedges] at he
    obtain ⟨l, hl, -, -, hlabel⟩ := Chart.exists_of_mem_edgesOf he
    exact ⟨l.label, hlabel, (hd.clean l hl).normalize_eq⟩
  · obtain ⟨kept, hkept, hrun⟩ := d.exists_runRaw_eq h hedits
    rw [hrun]
    exact hd.form_run fun a ha => hedits a (hkept.subset ha)

/-- The registry of a document after a text that broke off, one that did not, a label that
    is refused and one that is not. -/
theorem keys_runRaw_broken_off :
    let half := Halves.standIn 0xD800
    let actions : List Action := [.build ("x -> ".toList ++ [half]), .addNode "x".toList,
      .build "a -> b".toList, .addNode [half], .relabelNode "t_YQ".toList [half],
      .addNode [half], .addNode "d".toList]
    (∀ a ∈ actions, a.Fits) ∧ (∀ s, lastBuilt? actions = some s → Encodes .last s) ∧
      ((new none {}).runRaw .last actions).chart.nodeIds =
        ["t_YQ".toList, "t_Yg".toList, "t_ZA".toList] ∧
      Table.keys ((new none {}).runRaw .last actions).registry.labels =
        ((new none {}).runRaw .last actions).chart.nodeIds := by
  intro half actions
  have hfits : ∀ a ∈ actions, a.Fits := by simp [actions, Action.Fits, sizeLimit]
  have hlast : ∀ s, lastBuilt? actions = some s → Encodes .last s := by
    rintro s hs
    obtain rfl : "a -> b".toList = s := Option.some.inj hs
    decide +kernel
  obtain ⟨hkeys, -⟩ := consistent_runRaw_new .last none actions hfits
  exact ⟨hfits, hlast, by decide +kernel, hkeys hlast⟩

/-- A new document into which a text is built whose second label is a half: building fails,
    the registry has the id of the first label, and the chart has no node. -/
theorem registry_ahead_of_chart :
    let s := "a -> ".toList ++ [Halves.standIn 0xD800]
    ((new none {}).buildRaw .last s).2 = some (.unencodable ⟨0xD800, 0, 0⟩) ∧
      Table.keys ((new none {}).runRaw .last [.build s]).registry.labels = ["t_YQ".toList] ∧
      ((new none {}).runRaw .last [.build s]).chart.nodeIds = [] := by
  decide +kernel

end Document

end FlowScript
