import FlowScript.Proofs.Script.NumberedText

/-!
# Writing nodes with any labels

An edited node may have any label, and what is written for it need not be read
back: its lines may define other nodes, or connect some, or be lost. But a
definition always begins a line of its own, and a connection is always a whole
one, so whatever else the labels bring about, the tokens are defined and the
links come last.

* `writable_iff_representable`: which labels can be written, told from their
  lines;
* `read_write_any`: what is left of nodes with any labels.
-/

namespace FlowScript.Numbered

open Text (Inked isNumeral)

variable {token label l : Text} {ls : List Text} {nodes : List NumberedNode} {links : List Link}

/-! ## Labels that can be written -/

/-- The label is empty, or its lines are inked and none but the first has an
    arrow or opens like a definition. -/
def Representable (label : Text) : Prop :=
  label = [] ∨ (∀ l ∈ label.splitOn '\n', Inked l) ∧
    ∀ l ∈ (label.splitOn '\n').tail, Arrow.occursIn l = false ∧ ¬OpensDefinition l

instance : DecidablePred Representable := fun _ =>
  inferInstanceAs (Decidable (_ ∨ _))

theorem representable_of_inked (h : Inked label) : Representable label := by
  refine .inr ?_
  rw [splitOn_of_not_mem (newline_not_mem h)]
  simpa using h

theorem Writable.representable (h : Writable label) : Representable label := by
  induction h with
  | empty => exact .inl rfl
  | line hl => exact representable_of_inked hl
  | more _ hne hl hk ih =>
    obtain ⟨hinked, htail⟩ := ih.resolve_left hne
    refine .inr ?_
    rw [splitOn_append_newline _ (newline_not_mem hl),
      List.tail_append_singleton_of_ne_nil (List.splitOn_ne_nil _ _), List.forall_mem_append,
      List.forall_mem_append, List.forall_mem_singleton, List.forall_mem_singleton]
    exact ⟨⟨hinked, hl⟩, htail, ofText_eq_continuation_iff.1 hk⟩

/-- Lines that are put together one after the other. -/
theorem writable_join (hls : ∀ l ∈ ls, Inked l)
    (htail : ∀ l ∈ ls.tail, Arrow.occursIn l = false ∧ ¬OpensDefinition l) :
    Writable (Text.join ['\n'] ls) := by
  induction ls using List.reverseRecOn with
  | nil =>
    rw [Text.join_nil]
    exact .empty
  | append_singleton ls l ih =>
    rw [List.forall_mem_append, List.forall_mem_singleton] at hls
    by_cases hnil : ls = []
    · rw [hnil, List.nil_append, Text.join_singleton]
      exact .line hls.2
    · rw [List.tail_append_singleton_of_ne_nil hnil, List.forall_mem_append,
        List.forall_mem_singleton] at htail
      rw [Text.join_append hnil (List.cons_ne_nil _ _), Text.join_singleton, List.append_assoc]
      -- The label so far is not empty, as its first line is not.
      refine .more (ih hls.1 htail.1) (fun hempty => ?_) hls.2
        (ofText_eq_continuation_iff.2 htail.2)
      obtain ⟨m, ms, rfl⟩ := List.exists_cons_of_ne_nil hnil
      have hm : m <:+: Text.join ['\n'] (m :: ms) := Text.infix_join List.mem_cons_self
      rw [hempty, List.infix_nil] at hm
      exact (hls.1 m List.mem_cons_self).ne_nil hm

/-- The labels that can be written are told from their lines. -/
theorem writable_iff_representable : Writable label ↔ Representable label := by
  refine ⟨Writable.representable, ?_⟩
  rintro (rfl | ⟨hinked, htail⟩)
  · exact .empty
  · have h := writable_join hinked htail
    rwa [Text.join, List.intercalate_splitOn] at h

/-! ## Labels of all kinds -/

/-- Whatever the label, a definition begins the first line that is written for it. -/
theorem exists_inkedTexts_definition (ht : isNumeral token = true) (label : Text) :
    ∃ rest more, Text.inkedTexts (token ++ '.' :: label) = (token ++ '.' :: rest) :: more := by
  obtain ⟨rest, more, hlines⟩ :=
    Text.exists_inkedTexts_append (inked_definition_line ht (.inl rfl)) label
  rw [List.append_assoc, List.singleton_append, List.append_assoc, List.singleton_append] at hlines
  exact ⟨rest, more, hlines⟩

/-- So its token is defined. -/
theorem exists_definition_line (ht : isNumeral token = true) (label : Text) :
    ∃ l ∈ Text.inkedTexts (token ++ '.' :: label),
      ∃ first, LineKind.ofText l = .definition token first := by
  obtain ⟨rest, more, hlines⟩ := exists_inkedTexts_definition ht label
  exact ⟨_, hlines ▸ List.mem_cons_self, _, ofText_definition ht rest⟩

/-- Nodes with any labels, and links between numerals, are read as such: all
    tokens are defined, and the links come last. -/
theorem read_write_any (hn : ∀ n ∈ nodes, isNumeral n.token = true)
    (hl : ∀ l ∈ links, Connects l) (hne : nodes ≠ []) :
    ∃ nodes' links' notes,
      read (write nodes links) =
          .recognized numberedDialect (.numbered nodes' (links' ++ links)) notes ∧
        ∀ n ∈ nodes, n.token ∈ nodes'.map NumberedNode.token := by
  obtain ⟨defs, conns, hsplit, hdefs, hconns⟩ :=
    List.map_eq_append_iff.1 (inkedTexts_write nodes hl)
  have hdraft : draft (write nodes links) = { defs.foldl Draft.read .empty with
      links := (defs.foldl Draft.read .empty).links ++ links } := by
    rw [draft, hsplit, List.foldl_append]
    exact reads_connections links hl _ conns hconns
  -- The draft of the definitions has all the tokens, as each is defined on some
  -- line.
  have htokens : ∀ n ∈ nodes,
      n.token ∈ (defs.foldl Draft.read .empty).nodes.map NumberedNode.token := by
    intro n hmem
    obtain ⟨l, hline, first, hk⟩ := exists_definition_line (hn n hmem) n.label
    have hline : l ∈ defs.map Text.InkedLine.text := by
      rw [hdefs]
      exact List.mem_flatMap.2 ⟨_, List.mem_map_of_mem hmem, hline⟩
    obtain ⟨i, hi, rfl⟩ := List.mem_map.1 hline
    exact (Draft.mem_map_token_foldl defs).2 (.inr ⟨i, hi, first, hk⟩)
  generalize defs.foldl Draft.read .empty = d at hdraft htokens
  have hsome : d.nodes ≠ [] := by
    obtain ⟨n, rest, rfl⟩ := List.exists_cons_of_ne_nil hne
    obtain ⟨m, hm, -⟩ := List.mem_map.1 (htokens n List.mem_cons_self)
    exact List.ne_nil_of_mem hm
  refine ⟨d.nodes, d.links, d.notes, ?_, htokens⟩
  rw [read, hdraft]
  simp only [List.isEmpty_iff, if_neg hsome]

end FlowScript.Numbered
