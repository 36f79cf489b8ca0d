import FlowScript.Proofs.Document.Reached

/-!
# The lines of a chart in the chain notation

In the chain notation a chart has an *entry* for each edge and for each node
without edges, and line feeds between the entries. Edge labels are made fit for
one line whatever they hold, but in the label of a node only line feeds give way
to spaces, while readers end a line at other characters too. A label is *ended by
feeds* if no other character in it ends a line.

* `forall_mem_chainEntries_iff`: the entries are on one line each iff the labels
  of all nodes are ended by feeds;
* `Built.lines_toChain`: a document that was just built has its entries for lines;
* `toChain_lines_iff`: after any history, the text of the chart has its entries
  for lines, and no line ends but those between them, iff the labels are ended by
  feeds.
-/

namespace FlowScript

/-! ## Labels on one line -/

namespace Text

/-- Only line feeds end the lines of the text. -/
def EndedByFeeds (s : Text) : Prop :=
  ∀ c ∈ s, isBreak c = true → c = '\n'

instance (s : Text) : Decidable (EndedByFeeds s) :=
  List.decidableBAll _ s

variable {s : Text}

theorem Unbroken.endedByFeeds (h : Unbroken s) : EndedByFeeds s :=
  fun c hc hbreak => absurd hbreak (by simp [h c hc])

/-- With spaces for its line feeds a text is on one line iff only they ended its
    lines. -/
theorem unbroken_replace_feed_iff : Unbroken (replace '\n' [' '] s) ↔ EndedByFeeds s := by
  constructor
  · intro h c hc hbreak
    by_contra hne
    exact absurd hbreak (by simp [h c (mem_replace_of_mem hc hne)])
  · intro h c hc
    rcases mem_of_mem_replace hc with ⟨hc, hne⟩ | hc
    · exact Bool.eq_false_iff.2 fun hbreak => hne (h c hc hbreak)
    · rw [List.mem_singleton.1 hc]
      decide

end Text

/-- A label that can be written is ended by feeds. -/
theorem Numbered.Writable.endedByFeeds {label : Text} (h : Numbered.Writable label) :
    Text.EndedByFeeds label := by
  induction h with
  | empty => exact Text.unbroken_nil.endedByFeeds
  | line hl => exact hl.unbroken.endedByFeeds
  | more _ _ hl _ ih =>
    intro c hc hbreak
    rcases List.mem_append.1 hc with hc | hc
    · exact ih c hc hbreak
    · rcases List.mem_cons.1 hc with rfl | hc
      · rfl
      · exact hl.unbroken.endedByFeeds c hc hbreak

/-! ## Entries -/

namespace Chart

variable {c : Chart} {r : Registry} {e : Edge} {id : Text}

/-- What is written for the edges, then for the nodes without edges. -/
def chainEntries (c : Chart) (r : Registry) : List Text :=
  c.edges.map (chainLine r) ++ c.isolated.map fun n => chainLabel r n.id

theorem toChain_eq_join (c : Chart) (r : Registry) :
    c.toChain r = Text.join ['\n'] (c.chainEntries r) := rfl

theorem unbroken_chainLabel_iff :
    Text.Unbroken (chainLabel r id) ↔ Text.EndedByFeeds (r.labelFor id) :=
  Text.unbroken_replace_feed_iff

/-- The label of an edge is on one line in any case. -/
theorem unbroken_chainLine_iff : Text.Unbroken (chainLine r e) ↔
    Text.Unbroken (chainLabel r e.source) ∧ Text.Unbroken (chainLabel r e.target) := by
  have hlabel := (EdgeLabel.clean_normalize e.caption).unbroken
  have harrow : Text.Unbroken [' ', '-', '>', ' '] := by decide
  have hopen : Text.Unbroken [' ', '-', '>', ' ', '|'] := by decide
  have hclose : Text.Unbroken ['|', ' '] := by decide
  rw [chainLine]
  split
  · simp only [Text.unbroken_append, harrow, and_true]
  · simp only [Text.unbroken_append, hlabel, hopen, hclose, and_true]

/-- A node without edges has an entry, and any other is in that of an edge. -/
theorem exists_chainEntry_of_mem (h : id ∈ c.nodeIds) : chainLabel r id ∈ c.chainEntries r ∨
    ∃ e ∈ c.edges, e.source = id ∨ e.target = id := by
  by_cases hid : c.isConnected id = true
  · obtain ⟨e, he, hend⟩ := List.any_eq_true.1 hid
    exact .inr ⟨e, he, by simpa using hend⟩
  · rw [chainEntries, map_chainLabel_isolated]
    exact .inl (List.mem_append_right _ (List.mem_map_of_mem
      (List.mem_filter.2 ⟨h, by simpa using hid⟩)))

/-- Where edges join nodes, the entries are on one line each iff the labels of all
    nodes are ended by feeds. -/
theorem forall_mem_chainEntries_iff
    (hends : ∀ e ∈ c.edges, e.source ∈ c.nodeIds ∧ e.target ∈ c.nodeIds) :
    (∀ l ∈ c.chainEntries r, Text.Unbroken l) ↔
      ∀ id ∈ c.nodeIds, Text.EndedByFeeds (r.labelFor id) := by
  constructor
  · intro h id hid
    rw [← unbroken_chainLabel_iff]
    rcases exists_chainEntry_of_mem hid with hmem | ⟨e, he, hend⟩
    · exact h _ hmem
    · have hline := unbroken_chainLine_iff.1 (h _ (List.mem_append_left _ (List.mem_map_of_mem he)))
      exact hend.elim (fun hs => hs ▸ hline.1) fun ht => ht ▸ hline.2
  · intro h
    rw [chainEntries, map_chainLabel_isolated, List.forall_mem_append, List.forall_mem_map,
      List.forall_mem_map]
    refine ⟨fun e he => ?_, fun id hid => ?_⟩
    · rw [unbroken_chainLine_iff, unbroken_chainLabel_iff, unbroken_chainLabel_iff]
      exact ⟨h _ (hends e he).1, h _ (hends e he).2⟩
    · rw [unbroken_chainLabel_iff]
      exact h id (List.mem_filter.1 hid).1

/-- There are entries if there are nodes. -/
theorem chainEntries_ne_nil (h : c.nodeIds ≠ []) : c.chainEntries r ≠ [] := by
  obtain ⟨id, rest, hids⟩ := List.exists_cons_of_ne_nil h
  rcases exists_chainEntry_of_mem (r := r) (hids ▸ List.mem_cons_self) with hmem | ⟨e, he, -⟩
  · exact List.ne_nil_of_mem hmem
  · exact List.ne_nil_of_mem (List.mem_append_left _ (List.mem_map_of_mem he))

end Chart

/-! ## Documents -/

namespace Document

variable {d : Document} {s : Text}

/-- The only line ends in the text of the chart are the line feeds between its
    entries iff the labels of all nodes are ended by feeds. -/
theorem Wired.filter_isBreak_toChain_iff (h : d.Wired) :
    (d.chart.toChain d.registry).filter Text.isBreak =
        List.replicate ((d.chart.chainEntries d.registry).length - 1) '\n' ↔
      ∀ id ∈ d.chart.nodeIds, Text.EndedByFeeds (d.registry.labelFor id) := by
  rw [Chart.toChain_eq_join, Text.filter_isBreak_join_iff]
  exact Chart.forall_mem_chainEntries_iff h.mem_nodeIds_of_mem_edges

/-- And iff they are, the entries are the lines that a reader finds, once the last
    of them is ended too. -/
theorem Wired.lines_toChain_iff (h : d.Wired) (hne : d.chart.nodeIds ≠ []) :
    Text.lines (d.chart.toChain d.registry ++ ['\n']) = d.chart.chainEntries d.registry ↔
      ∀ id ∈ d.chart.nodeIds, Text.EndedByFeeds (d.registry.labelFor id) := by
  rw [Chart.toChain_eq_join, Text.lines_join_append_feed_iff (Chart.chainEntries_ne_nil hne)]
  exact Chart.forall_mem_chainEntries_iff h.mem_nodeIds_of_mem_edges

/-- A document that was just built has its entries for lines. -/
theorem Built.lines_toChain (h : Built d s) (hne : d.chart.nodeIds ≠ []) :
    Text.lines (d.chart.toChain d.registry ++ ['\n']) = d.chart.chainEntries d.registry :=
  (h.sound.toWired.lines_toChain_iff hne).2 fun _ hid => (h.writable_labelFor hid).endedByFeeds

/-- After any history, the text of the chart in the chain notation has one entry for
    each edge and each node without edges, joined by line feeds. There is no other
    line end in it iff the labels of all nodes are ended by feeds; and iff they are,
    each entry is one line to a reader. -/
theorem toChain_lines_iff (name : Option Text) (grid : Grid) (actions : List Action) :
    let d := (new name grid).run actions
    let entries := d.chart.chainEntries d.registry
    let written := d.chart.toChain d.registry
    written = Text.join ['\n'] entries ∧
      (written.filter Text.isBreak = List.replicate (entries.length - 1) '\n' ↔
        ∀ id ∈ d.chart.nodeIds, Text.EndedByFeeds (d.registry.labelFor id)) ∧
      (d.chart.nodeIds ≠ [] → (Text.lines (written ++ ['\n']) = entries ↔
        ∀ id ∈ d.chart.nodeIds, Text.EndedByFeeds (d.registry.labelFor id))) := by
  have h := (tidy_new name grid).run actions
  exact ⟨Chart.toChain_eq_join _ _, h.filter_isBreak_toChain_iff, h.lines_toChain_iff⟩

/-- A label of two lines that is written on one. -/
theorem toChain_lines_iff_relabelled :
    let actions : List Action := [.build "a -> b\nc".toList,
      .relabelNode "t_YQ".toList "x\ny".toList]
    let d := (new none {}).run actions
    d.chart.nodeIds ≠ [] ∧ d.chart.toChain d.registry = "x y -> b\nc".toList ∧
      Text.lines (d.chart.toChain d.registry ++ ['\n']) =
        d.chart.chainEntries d.registry := by
  intro actions d
  obtain ⟨-, -, hlines⟩ := toChain_lines_iff none {} actions
  have hne : d.chart.nodeIds ≠ [] := by decide +kernel
  exact ⟨hne, by decide +kernel, (hlines hne).2 (by decide +kernel)⟩

/-- A label with a carriage return breaks the line of its edge. -/
theorem toChain_breaks_edge :
    let d := (new none {}).run [.build "a -> b".toList, .relabelNode "t_YQ".toList "x\ry".toList]
    d.chart.chainEntries d.registry = ["x\ry -> b".toList] ∧
      (d.chart.toChain d.registry).filter Text.isBreak = ['\r'] ∧
      Text.lines (d.chart.toChain d.registry) = ["x".toList, "y -> b".toList] := by
  decide +kernel

end Document

end FlowScript
