import FlowScript.Proofs.Script.Wrap
import FlowScript.Proofs.Text.Distinct
import FlowScript.Script.Chain

/-!
# What the chain notation reads

Unwrapping leaves one line for each group, so what holds of the hops and links
of a line holds of all that is read: labels are targets, each is there once,
and the links are well-formed and join them (`wellFormed_of_read`). The labels
are no more than the characters of the text, times four.

* `read_walked`: a text with an arrow and two targets that differ is read as its
  targets and the steps between them, and no other text is read.
-/

namespace FlowScript

open Text (InkedLine Unbroken Inked)

variable {s : Text} {lines : List InkedLine} {label : Text} {link : Link}

namespace Chain

/-! ## Labels -/

theorem mem_labels : label ∈ labels lines ↔ ∃ i ∈ lines, ∃ h ∈ hops i, h.target = label := by
  simp [labels]

/-- The labels of unbroken lines are targets. -/
theorem isTarget_of_mem_labels (hu : ∀ i ∈ lines, Unbroken i.text) (h : label ∈ labels lines) :
    IsTarget label := by
  obtain ⟨i, hi, hop, hhop, rfl⟩ := mem_labels.1 h
  obtain ⟨hmem, ht⟩ := List.mem_filter.1 hhop
  exact (Hop.mem_ofLine (hu i hi) hop hmem).2 ht

/-- The labels of a text are made of its characters, and of spaces. -/
theorem mem_of_mem_labels {c : Char} (h : label ∈ labels (Wrap.unwrappedLines s))
    (hc : c ∈ label) : c = ' ' ∨ c ∈ s := by
  obtain ⟨i, hi, hop, hhop, rfl⟩ := mem_labels.1 h
  obtain ⟨seg, hseg, rfl⟩ := List.mem_map.1 (List.mem_filter.1 hhop).1
  exact Wrap.mem_of_mem_unwrappedLines hi
    (Arrow.mem_of_mem_split seg hseg c (Hop.mem_of_mem_target hc))

theorem nodup_labels (lines : List InkedLine) : (labels lines).Nodup :=
  Text.nodup_eraseDups _

theorem length_hops_le (i : InkedLine) : (hops i).length ≤ i.text.length + 1 := by
  refine (List.length_filter_le _ _).trans ?_
  rw [Hop.ofLine, List.length_map]
  exact Arrow.length_split_le i.text

theorem length_labels_le (lines : List InkedLine) :
    (labels lines).length ≤ (lines.map fun i => i.text.length + 1).sum := by
  have hflat : (labels lines).length ≤
      (lines.flatMap fun line => (hops line).map Hop.target).length :=
    (nodup_labels lines).length_le_of_subset fun _ => List.mem_eraseDups.1
  refine hflat.trans ?_
  rw [List.length_flatMap]
  refine List.sum_le_sum fun i _ => ?_
  rw [List.length_map]
  exact length_hops_le i

/-! ## Links -/

/-- A link of unbroken lines is well-formed, and its ends are labels. -/
theorem of_mem_links (hu : ∀ i ∈ lines, Unbroken i.text) (h : link ∈ links lines) :
    link.WellFormed ∧ link.source ∈ labels lines ∧ link.target ∈ labels lines := by
  obtain ⟨i, hi, hmem⟩ := List.mem_flatMap.1 h
  refine ⟨Link.wellFormed_of_mem (hu i hi) link hmem, ?_⟩
  obtain ⟨a, ha, b, hb, rfl⟩ := Link.mem_ofHops hmem
  exact ⟨mem_labels.2 ⟨i, hi, a, ha, rfl⟩, mem_labels.2 ⟨i, hi, b, hb, rfl⟩⟩

/-! ## Whole texts -/

/-- Labels and links as the chain notation reads them. -/
structure WellFormed (labels : List Text) (links : List Link) : Prop where
  /-- No label is there twice. -/
  nodup : labels.Nodup
  /-- Labels are what hops can lead to. -/
  target : ∀ label ∈ labels, IsTarget label
  /-- Links are well-formed. -/
  link : ∀ l ∈ links, l.WellFormed
  /-- Links join the labels. -/
  ends : ∀ l ∈ links, l.source ∈ labels ∧ l.target ∈ labels

/-- What the notation reads, and when. -/
theorem read_eq_recognized_iff {dialect : Text} {sketch : Sketch} {ns : List Note} :
    read s = .recognized dialect sketch ns ↔
      Arrow.occursIn s = true ∧ 2 ≤ (labels (Wrap.unwrappedLines s)).length ∧
        dialect = chainDialect ∧
        sketch = .labelled (labels (Wrap.unwrappedLines s)) (links (Wrap.unwrappedLines s)) ∧
        ns = (Wrap.unwrappedLines s).flatMap notes := by
  simp only [read]
  split
  · next h =>
    have h : Arrow.occursIn s = false := by simpa using h
    simp [h]
  · next h =>
    have h : Arrow.occursIn s = true := by simpa using h
    split
    · next hlen => simp [h, hlen]
    · next hlen => simp [h, Nat.le_of_not_lt hlen, eq_comm]

/-- What is read is well-formed, and there are two labels at least. -/
theorem wellFormed_of_read {dialect : Text} {sketch : Sketch} {notes : List Note}
    (h : read s = .recognized dialect sketch notes) :
    ∃ labels links, dialect = chainDialect ∧ sketch = .labelled labels links ∧
      2 ≤ labels.length ∧ WellFormed labels links ∧ labels.length ≤ 4 * s.length := by
  obtain ⟨-, hlen, rfl, rfl, -⟩ := read_eq_recognized_iff.1 h
  have hu := fun i => Wrap.unbroken_of_mem_unwrappedLines (s := s) (i := i)
  exact ⟨_, _, rfl, rfl, hlen,
    ⟨nodup_labels _, fun _ => isTarget_of_mem_labels hu, fun _ hl => (of_mem_links hu hl).1,
      fun _ hl => (of_mem_links hu hl).2⟩,
    (length_labels_le _).trans (Wrap.sum_length_unwrappedLines s)⟩

/-! ## The meaning of chains -/

/-- The hops of a text that lead to something, chain by chain. -/
def walks (s : Text) : List (List Hop) :=
  (Wrap.unwrappedLines s).map hops

/-- What the hops of a text lead to, in order. -/
def targets (s : Text) : List Text :=
  (walks s).flatten.map Hop.target

theorem labels_eq (s : Text) : labels (Wrap.unwrappedLines s) = (targets s).eraseDups := by
  rw [labels, targets, walks, List.map_flatten, List.map_map]
  rfl

/-- The labels and links are what the chains of a text mean. -/
structure Described (s : Text) (labels : List Text) (links : List Link) : Prop where
  /-- The labels are the targets, in the order in which they are first seen. -/
  firstSeen : Text.FirstSeen labels (targets s)
  /-- They are trimmed, not empty, and have neither arrows nor line ends in them. -/
  target : ∀ label ∈ labels, IsTarget label
  /-- The links are the steps of the chains, chain by chain. -/
  steps : ∃ parts : List (List Link), links = parts.flatten ∧
    List.Forall₂ Link.Join (walks s) parts
  /-- They join labels. -/
  ends : ∀ l ∈ links, l.source ∈ labels ∧ l.target ∈ labels
  /-- Their labels are trimmed and have neither pipes, arrows nor line ends in
      them. -/
  clean : ∀ l ∈ links, EdgeLabel.Clean l.label

theorem described (s : Text) :
    Described s (labels (Wrap.unwrappedLines s)) (links (Wrap.unwrappedLines s)) := by
  have hu := fun i => Wrap.unbroken_of_mem_unwrappedLines (s := s) (i := i)
  refine ⟨labels_eq s ▸ Text.firstSeen_eraseDups _, fun _ => isTarget_of_mem_labels hu, ?_,
    fun _ hl => (of_mem_links hu hl).2, fun _ hl => (of_mem_links hu hl).1.label⟩
  refine ⟨(walks s).map Link.ofHops, ?_, Link.forall₂_join_ofHops _⟩
  rw [links, walks, List.map_map, List.flatMap_def]
  rfl

/-- The notation applies iff there is an arrow and two targets differ. -/
theorem read_recognized_iff :
    (∃ dialect sketch notes, read s = .recognized dialect sketch notes) ↔
      Arrow.occursIn s = true ∧ ∃ a ∈ targets s, ∃ b ∈ targets s, a ≠ b := by
  rw [← Text.two_le_length_eraseDups_iff, ← labels_eq]
  constructor
  · rintro ⟨dialect, sketch, notes, h⟩
    obtain ⟨harrow, hlen, -⟩ := read_eq_recognized_iff.1 h
    exact ⟨harrow, hlen⟩
  · exact fun ⟨harrow, hlen⟩ =>
      ⟨_, _, _, read_eq_recognized_iff.2 ⟨harrow, hlen, rfl, rfl, rfl⟩⟩

/-- The meaning of the chain notation. A text is in it iff it has an arrow and two
    targets that differ, and it is read as the labels and links that its chains
    mean. -/
theorem read_walked (s : Text) :
    ((∃ dialect sketch notes, read s = .recognized dialect sketch notes) ↔
      Arrow.occursIn s = true ∧ ∃ a ∈ targets s, ∃ b ∈ targets s, a ≠ b) ∧
    ∀ dialect sketch notes, read s = .recognized dialect sketch notes →
      ∃ labels links, dialect = chainDialect ∧ sketch = .labelled labels links ∧
        Described s labels links := by
  refine ⟨read_recognized_iff, fun dialect sketch notes h => ?_⟩
  obtain ⟨-, -, rfl, rfl, -⟩ := read_eq_recognized_iff.1 h
  exact ⟨_, _, rfl, rfl, described s⟩

/-- For instance chains that are wrapped, with labels that belong to no link. -/
theorem read_walked_wrapped :
    read "|p| a --> → |x|b ->\n|y c\n\nb -> a".toList = .recognized chainDialect
      (.labelled ["a".toList, "b".toList, "y c".toList]
        [⟨"a".toList, "b".toList, "x".toList⟩, ⟨"b".toList, "y c".toList, []⟩,
          ⟨"b".toList, "a".toList, []⟩])
      [⟨1, .malformedLabel "|y c".toList, "|p| a --> → |x|b -> |y c".toList⟩,
        ⟨1, .labelWithoutSource "p".toList, "|p| a --> → |x|b -> |y c".toList⟩] ∧
    Described "|p| a --> → |x|b ->\n|y c\n\nb -> a".toList
      ["a".toList, "b".toList, "y c".toList]
      [⟨"a".toList, "b".toList, "x".toList⟩, ⟨"b".toList, "y c".toList, []⟩,
        ⟨"b".toList, "a".toList, []⟩] := by
  refine (and_iff_left_of_imp fun hread => ?_).2 (by decide +kernel)
  obtain ⟨labels, links, -, hsketch, h⟩ :=
    (read_walked "|p| a --> → |x|b ->\n|y c\n\nb -> a".toList).2 _ _ _ hread
  obtain ⟨rfl, rfl⟩ := Sketch.labelled.inj hsketch
  exact h

end Chain

end FlowScript
