import FlowScript.Proofs.Script.Note

/-!
# Edge labels that are lost

The label in front of a hop belongs to the link that leads there. There is no such
link if the hop leads to nothing, or if no hop before it leads to anything. Then
the label is not drawn, and the line is mostly noted: a hop that leads to nothing by
the numbered notation, a label in front of the first node by the chain notation.

Each notation lacks the note of the other. So in the numbered notation the label
of the first hop is lost without a note, and in the chain notation the label of a
hop that leads to nothing, if there is nothing else to be noted on the line
(`label_lost_iff`).

A note is on the line that it was taken on, as lines have numbers of their own; so
the notes with the number of a connection are those on the connection
(`notesOn_draft`), and those with the number of a chain those on the chain
(`notesOn_flatMap_notes`).
-/

namespace FlowScript

open Text (InkedLine)

variable {s : Text} {lines : List InkedLine} {i line : InkedLine} {links : List Link}
  {notes : List Note} {before after : List Hop} {h : Hop} {k : Nat}

/-! ## Labels and links -/

/-- The label of a hop that stands behind others is on the link that leads to it from
    the last of them that leads to something. -/
def Carried (links : List Link) (before : List Hop) (h : Hop) : Prop :=
  h.hasTarget = true ∧ ∃ a, (before.filter Hop.hasTarget).getLast? = some a ∧
    ⟨a.target, h.target, h.label⟩ ∈ links

/-- The label of a hop is on no link of its own, and no note is on the line. -/
def Lost (links : List Link) (notes : List Note) (line : InkedLine) (before : List Hop)
    (h : Hop) : Prop :=
  ¬Carried links before h ∧ ∀ note ∈ notes, note.line ≠ line.number

/-- A label is carried if there is a link for it. -/
theorem carried_iff
    (hlinks : Link.ofHops ((before ++ h :: after).filter Hop.hasTarget) ⊆ links) :
    Carried links before h ↔ h.hasTarget = true ∧ ∃ a ∈ before, a.hasTarget = true := by
  refine and_congr_right fun htarget => ?_
  constructor
  · rintro ⟨a, ha, -⟩
    exact ⟨a, List.mem_filter.1 (List.mem_of_getLast? ha)⟩
  · rintro ⟨a, ha, hat⟩
    have hne : before.filter Hop.hasTarget ≠ [] :=
      List.ne_nil_of_mem (List.mem_filter.2 ⟨ha, hat⟩)
    refine ⟨_, List.getLast?_eq_some_getLast hne, hlinks ?_⟩
    rw [List.filter_append, List.filter_cons_of_pos htarget]
    exact Link.mem_ofHops_of_getLast? (List.getLast?_eq_some_getLast hne)

/-! ## Notes on a line -/

/-- The notes on the line with the number `k`. -/
def notesOn (notes : List Note) (k : Nat) : List Note :=
  notes.filter fun n => n.line = k

theorem notesOn_eq_nil_iff : notesOn notes k = [] ↔ ∀ note ∈ notes, note.line ≠ k := by
  simp [notesOn, List.filter_eq_nil_iff]

theorem notesOn_append (notes more : List Note) (k : Nat) :
    notesOn (notes ++ more) k = notesOn notes k ++ notesOn more k :=
  List.filter_append ..

theorem notesOn_of_forall (h : ∀ note ∈ notes, note.line = k) : notesOn notes k = notes :=
  List.filter_eq_self.2 fun note hnote => decide_eq_true (h note hnote)

theorem notesOn_of_ne {n : Nat} (hne : n ≠ k) (h : ∀ note ∈ notes, note.line = n) :
    notesOn notes k = [] :=
  notesOn_eq_nil_iff.2 fun note hnote heq => hne ((h note hnote).symm.trans heq)

/-- A line among others whose numbers increase, and those before and behind it. -/
theorem exists_split_of_mem (hnumbers : lines.Pairwise fun i j => i.number < j.number)
    (hi : i ∈ lines) : ∃ front back, lines = front ++ i :: back ∧
      (∀ j ∈ front, j.number ≠ i.number) ∧ ∀ j ∈ back, j.number ≠ i.number := by
  obtain ⟨front, back, rfl⟩ := List.append_of_mem hi
  rw [List.pairwise_append, List.pairwise_cons] at hnumbers
  obtain ⟨-, ⟨hback, -⟩, hfront⟩ := hnumbers
  exact ⟨front, back, rfl, fun j hj => (hfront j hj i List.mem_cons_self).ne,
    fun j hj => (hback j hj).ne'⟩

/-! ## The numbered notation -/

namespace Numbered

open Draft

theorem notesOn_read_of_ne (hne : line.number ≠ k) (d : Draft) :
    notesOn (d.read line).notes k = notesOn d.notes k := by
  obtain ⟨own, heq, hown⟩ := d.exists_notes_read line
  rw [heq, notesOn_append, notesOn_of_ne hne fun note hnote => (hown note hnote).number,
    List.append_nil]

theorem notesOn_foldl_of_ne (hne : ∀ i ∈ lines, i.number ≠ k) (d : Draft) :
    notesOn (lines.foldl Draft.read d).notes k = notesOn d.notes k := by
  induction lines generalizing d with
  | nil => rfl
  | cons line rest ih =>
    rw [List.forall_mem_cons] at hne
    rw [List.foldl_cons, ih hne.2, notesOn_read_of_ne hne.1]

/-- The notes with the number of a connection are those on the connection. -/
theorem notesOn_draft (hline : line ∈ Text.inkedLines s)
    (hconnection : isConnection line.text = true) :
    notesOn (draft s).notes line.number = connectionNotes line := by
  obtain ⟨front, back, heq, hfront, hback⟩ :=
    exists_split_of_mem (Text.pairwise_number_inkedLines s) hline
  have hread (d : Draft) : (d.read line).notes = d.notes ++ connectionNotes line := by
    rw [Draft.read, ofText_eq_connection_iff.2 hconnection]
    rfl
  rw [draft, heq, List.foldl_append, List.foldl_cons, notesOn_foldl_of_ne hback, hread,
    notesOn_append, notesOn_foldl_of_ne hfront,
    notesOn_of_forall fun note hnote => (isOn_of_mem_connectionNotes note hnote).number]
  rfl

theorem lost_iff (hline : line ∈ Text.inkedLines s) (hconnection : isConnection line.text = true)
    (hhops : Hop.ofLine line.text = before ++ h :: after) :
    Lost (draft s).links (draft s).notes line before h ↔
      before = [] ∧
        ∀ hop ∈ Hop.ofLine line.text, hop.complaint = none ∧ Text.isNumeral hop.target = true := by
  have hlinks : Link.ofHops ((before ++ h :: after).filter Hop.hasTarget) ⊆ (draft s).links := by
    rw [← hhops, (follows_draft s).links]
    intro link hlink
    have hmem : line.text ∈ (Text.inkedTexts s).filter isConnection :=
      List.mem_filter.2 ⟨List.mem_map_of_mem hline, hconnection⟩
    exact List.mem_flatMap.2 ⟨line.text, hmem, hlink⟩
  rw [Lost, carried_iff hlinks, ← notesOn_eq_nil_iff, notesOn_draft hline hconnection,
    connectionNotes_eq_nil_iff]
  refine and_congr_left fun hnumerals => ?_
  have htarget : ∀ hop ∈ before ++ h :: after, hop.hasTarget = true := fun hop hhop => by
    simpa [Hop.hasTarget] using Text.ne_nil_of_isNumeral (hnumerals hop (hhops ▸ hhop)).2
  rw [List.forall_mem_append, List.forall_mem_cons] at htarget
  constructor
  · intro hnot
    by_contra hne
    obtain ⟨a, ha⟩ := List.exists_mem_of_ne_nil before hne
    exact hnot ⟨htarget.2.1, a, ha, htarget.1 a ha⟩
  · rintro rfl ⟨-, a, ha, -⟩
    exact absurd ha List.not_mem_nil

end Numbered

/-! ## The chain notation -/

namespace Chain

theorem notesOn_flatMap_of_ne (hne : ∀ i ∈ lines, i.number ≠ k) :
    notesOn (lines.flatMap Chain.notes) k = [] := by
  rw [notesOn_eq_nil_iff]
  intro note hnote heq
  obtain ⟨i, hi, hmem⟩ := List.mem_flatMap.1 hnote
  exact hne i hi ((isOn_of_mem_notes i note hmem).number.symm.trans heq)

/-- The notes with the number of a chain are those on the chain. -/
theorem notesOn_flatMap_notes (hnumbers : lines.Pairwise fun i j => i.number < j.number)
    (hline : line ∈ lines) :
    notesOn (lines.flatMap Chain.notes) line.number = Chain.notes line := by
  obtain ⟨front, back, rfl, hfront, hback⟩ := exists_split_of_mem hnumbers hline
  rw [List.flatMap_append, List.flatMap_cons, notesOn_append, notesOn_append,
    notesOn_flatMap_of_ne hfront, notesOn_flatMap_of_ne hback,
    notesOn_of_forall fun note hnote => (isOn_of_mem_notes line note hnote).number,
    List.nil_append, List.append_nil]

theorem strayLabel_eq_nil_iff {hops : List Hop} :
    strayLabel hops = [] ↔ ∀ first, hops.head? = some first → first.label = [] := by
  cases hops with
  | nil => simp [strayLabel]
  | cons first rest => simp [strayLabel]

/-- Nothing is noted on a chain of well-formed hops, the first of which has no
    label. -/
theorem notes_eq_nil_iff : Chain.notes line = [] ↔
    (∀ hop ∈ Hop.ofLine line.text, hop.complaint = none) ∧
      ∀ first, (hops line).head? = some first → first.label = [] := by
  rw [notes, List.map_eq_nil_iff, List.append_eq_nil_iff, List.filterMap_eq_nil_iff,
    strayLabel_eq_nil_iff]

theorem lost_iff (hline : line ∈ Wrap.unwrappedLines s)
    (hhops : Hop.ofLine line.text = before ++ h :: after) (hlabel : h.label ≠ []) :
    Lost (Chain.links (Wrap.unwrappedLines s)) ((Wrap.unwrappedLines s).flatMap Chain.notes) line
        before h ↔
      h.hasTarget = false ∧ (∀ hop ∈ Hop.ofLine line.text, hop.complaint = none) ∧
        ∀ first, (hops line).head? = some first → first.label = [] := by
  have hlinks : Link.ofHops ((before ++ h :: after).filter Hop.hasTarget) ⊆
      Chain.links (Wrap.unwrappedLines s) := by
    rw [← hhops]
    exact fun link hlink => List.mem_flatMap.2 ⟨line, hline, hlink⟩
  rw [Lost, carried_iff hlinks, ← notesOn_eq_nil_iff,
    notesOn_flatMap_notes (Wrap.pairwise_number_unwrappedLines s) hline, notes_eq_nil_iff]
  refine and_congr_left fun hquiet => ?_
  constructor
  · intro hnot
    by_contra htarget
    rw [Bool.not_eq_false] at htarget
    -- The hop would be the first that leads to something, so its label would be noted.
    have hnone : before.filter Hop.hasTarget = [] :=
      List.filter_eq_nil_iff.2 fun a ha hat => hnot ⟨htarget, a, ha, hat⟩
    refine hlabel (hquiet.2 h ?_)
    rw [hops, hhops, List.filter_append, hnone, List.filter_cons_of_pos htarget]
    rfl
  · intro htarget hcarried
    rw [htarget] at hcarried
    exact absurd hcarried.1 (by decide)

end Chain

/-- In the numbered notation a label is lost iff it belongs to the first hop of a
    connection of numerals whose labels are well-formed. In the chain notation it is lost iff its
    hop leads to nothing, all labels of the chain are well-formed, and the first hop
    that leads to something has none. -/
theorem label_lost_iff (s : Text) :
    (∀ dialect sketch notes, Numbered.read s = .recognized dialect sketch notes →
      ∃ nodes links, sketch = .numbered nodes links ∧
        ∀ line ∈ Text.inkedLines s, Numbered.isConnection line.text = true →
          ∀ before h after, Hop.ofLine line.text = before ++ h :: after → h.label ≠ [] →
            (Lost links notes line before h ↔
              before = [] ∧ ∀ hop ∈ Hop.ofLine line.text,
                hop.complaint = none ∧ Text.isNumeral hop.target = true)) ∧
    ∀ dialect sketch notes, Chain.read s = .recognized dialect sketch notes →
      ∃ labels links, sketch = .labelled labels links ∧
        ∀ line ∈ Wrap.unwrappedLines s,
          ∀ before h after, Hop.ofLine line.text = before ++ h :: after → h.label ≠ [] →
            (Lost links notes line before h ↔
              h.hasTarget = false ∧ (∀ hop ∈ Hop.ofLine line.text, hop.complaint = none) ∧
                ∀ first, (Chain.hops line).head? = some first → first.label = []) := by
  constructor
  · intro dialect sketch notes hread
    obtain ⟨-, -, rfl, rfl⟩ := Numbered.read_eq_recognized_iff.1 hread
    exact ⟨_, _, rfl, fun line hline hconnection before h after hhops _ =>
      Numbered.lost_iff hline hconnection hhops⟩
  · intro dialect sketch notes hread
    obtain ⟨-, -, -, rfl, rfl⟩ := Chain.read_eq_recognized_iff.1 hread
    exact ⟨_, _, rfl, fun line hline before h after hhops hlabel =>
      Chain.lost_iff hline hhops hlabel⟩

/-- The label of the first hop of a connection, and that of a hop in the middle of a chain
    that leads to nothing. -/
theorem label_lost_of_first_hop_and_empty_hop :
    (∃ nodes links notes,
      Numbered.read "1.A\n2.B\n|x|1->2".toList =
        .recognized numberedDialect (.numbered nodes links) notes ∧
      Lost links notes ⟨3, "|x|1->2".toList⟩ [] ⟨['x'], ['1'], none⟩) ∧
    ∃ labels links notes,
      Chain.read "A -> |x| -> B".toList =
        .recognized chainDialect (.labelled labels links) notes ∧
      Lost links notes ⟨1, "A -> |x| -> B".toList⟩ [⟨[], ['A'], none⟩] ⟨['x'], [], none⟩ := by
  constructor
  · have hread : Numbered.read "1.A\n2.B\n|x|1->2".toList = .recognized numberedDialect
        (.numbered [⟨['1'], ['A']⟩, ⟨['2'], ['B']⟩] [⟨['1'], ['2'], []⟩]) [] := by
      decide +kernel
    obtain ⟨nodes, links, hsketch, hlost⟩ := (label_lost_iff _).1 _ _ _ hread
    refine ⟨nodes, links, [], hsketch ▸ hread, ?_⟩
    exact (hlost ⟨3, "|x|1->2".toList⟩ (by decide +kernel) (by decide +kernel) []
      ⟨['x'], ['1'], none⟩ [⟨[], ['2'], none⟩] (by decide +kernel) (by decide)).2
        ⟨rfl, by decide +kernel⟩
  · have hread : Chain.read "A -> |x| -> B".toList = .recognized chainDialect
        (.labelled [['A'], ['B']] [⟨['A'], ['B'], []⟩]) [] := by decide +kernel
    obtain ⟨labels, links, hsketch, hlost⟩ := (label_lost_iff _).2 _ _ _ hread
    refine ⟨labels, links, [], hsketch ▸ hread, ?_⟩
    have hhops : Hop.ofLine "A -> |x| -> B".toList =
        [⟨[], ['A'], none⟩] ++ ⟨['x'], [], none⟩ :: [⟨[], ['B'], none⟩] := by decide +kernel
    refine (hlost ⟨1, "A -> |x| -> B".toList⟩ (by decide +kernel) _ _ _ hhops (by decide)).2
      ⟨rfl, by decide +kernel, fun first hfirst => ?_⟩
    rw [Chain.hops, hhops] at hfirst
    obtain rfl := Option.some.inj hfirst
    rfl

/-- Labels disappear in both notations without a note: nothing is drawn of the label, and there
    are no notes at all. -/
theorem label_lost_without_note :
    (Hop.ofLine "|x|1->2".toList = [⟨['x'], ['1'], none⟩, ⟨[], ['2'], none⟩] ∧
      Numbered.read "1.A\n2.B\n|x|1->2".toList = .recognized numberedDialect
        (.numbered [⟨['1'], ['A']⟩, ⟨['2'], ['B']⟩] [⟨['1'], ['2'], []⟩]) []) ∧
    Hop.ofLine "A -> |x| -> B".toList =
        [⟨[], ['A'], none⟩, ⟨['x'], [], none⟩, ⟨[], ['B'], none⟩] ∧
      Chain.read "A -> |x| -> B".toList = .recognized chainDialect
        (.labelled [['A'], ['B']] [⟨['A'], ['B'], []⟩]) [] := by
  decide +kernel

end FlowScript
