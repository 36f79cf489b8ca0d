import FlowScript.Proofs.Script.Reading

/-!
# What the layout of a text does not change

Two texts are read alike when their readings have the same `summary`: the same
notation, nodes and links and the same complaints, or the same reason against
both notations.

* `Chain.summary_read_wrapped`: a chain may be wrapped at any of its arrows. A line
  that is cut at an arrow has pieces that are joined again, and whatever stands
  above or below goes on with the pieces as it does with the line
  (`Wrap.alike_inkOf_before_arrow`, `Wrap.alike_inkOf_behind_arrow`).
* `Reading.summary_ofText_of_layout`: line ends of any kind, blank lines and blanks
  around the lines make no difference in either notation. All that is read comes
  from the inked lines, of which only the notes keep the numbers
  (`Numbered.summary_read`, `Chain.summary_read_of_inkedTexts`).
-/

namespace FlowScript

open Text (InkedLine Unbroken inkedTexts inkOf isBlank isBreak trim)

/-! ## What a reading says -/

/-- A reading, with only `f` of each of its notes. -/
def Reading.summary {α : Type} (f : Note → α) : Reading → Except Reason (Text × Sketch × List α)
  | .recognized dialect sketch notes => .ok (dialect, sketch, notes.map f)
  | .notApplicable reason => .error reason

/-! ## Wrapped chains -/

namespace Wrap

variable {s before after arrow gap : Text}

/-- An arrow of a text stands on one line with others above and below it, and on
    two lines once a gap has been put in front of it or behind it. -/
theorem exists_inkedTexts_arrow (h : Arrow.Stands before arrow) (after : Text)
    (hgap : ∀ c ∈ gap, isBlank c = true) (hbreak : ∃ c ∈ gap, isBreak c = true) :
    ∃ above front back below, Arrow.Stands front arrow ∧
      inkedTexts (before ++ (arrow ++ after)) =
        above ++ (inkOf [front ++ (arrow ++ back)] ++ below) ∧
      inkedTexts (before ++ (gap ++ (arrow ++ after))) =
        above ++ ((inkOf [front] ++ inkOf [arrow ++ back]) ++ below) ∧
      inkedTexts (before ++ (arrow ++ (gap ++ after))) =
        above ++ ((inkOf [front ++ arrow] ++ inkOf [back]) ++ below) := by
  obtain ⟨above, front, hsuffix, hfront, hlast⟩ := Text.exists_lastLine before
  obtain ⟨back, below, -, hback, hfirst⟩ := Text.exists_firstLine after
  have ha := h.unbroken
  have hbefore : inkedTexts before = inkedTexts above ++ inkOf [front] := by
    rw [← Text.inkedTexts_of_unbroken hfront]
    simpa using hlast []
  have hafter : inkedTexts after = inkOf [back] ++ inkedTexts below := by
    rw [← Text.inkedTexts_of_unbroken hback]
    exact hfirst []
  refine ⟨inkedTexts above, front, back, inkedTexts below, h.of_suffix hsuffix, ?_, ?_, ?_⟩
  · rw [hlast, ← List.append_assoc, hfirst, List.append_assoc, Text.inkedTexts_of_unbroken
      (Text.unbroken_append.2 ⟨hfront, Text.unbroken_append.2 ⟨ha, hback⟩⟩)]
  · rw [Text.inkedTexts_append_gap hgap hbreak, hbefore, hfirst,
      Text.inkedTexts_of_unbroken (Text.unbroken_append.2 ⟨ha, hback⟩)]
    simp only [List.append_assoc]
  · rw [← List.append_assoc before, Text.inkedTexts_append_gap hgap hbreak, hlast, hafter,
      Text.inkedTexts_of_unbroken (Text.unbroken_append.2 ⟨hfront, ha⟩)]
    simp only [List.append_assoc]

/-- The pieces of a line that is cut in front of an arrow make chains that are
    alike with those of the line. -/
theorem alike_inkOf_before_arrow (h : Arrow.Stands before arrow) (after : Text)
    (chains : List Text) :
    List.Forall₂ Alike ((inkOf [before] ++ inkOf [arrow ++ after]).foldr attach chains)
      ((inkOf [before ++ (arrow ++ after)]).foldr attach chains) := by
  by_cases hnil : trim before = []
  · -- The line is blank in front of the arrow, and there is only one piece.
    rw [Text.inkOf_singleton_of_eq_nil hnil, List.nil_append,
      Text.inkOf_congr (Text.trim_append_of_forall (Text.trim_eq_nil_iff.1 hnil) (arrow ++ after))]
    exact List.forall₂_same.2 fun chain _ => .refl chain
  · have hcut := cut_before_arrow h hnil after
    rw [Text.inkOf_singleton_of_ne_nil hnil, Text.inkOf_singleton_of_ne_nil hcut.back_ne_nil,
      Text.inkOf_singleton_of_ne_nil (h.trim_ne_nil before after)]
    exact hcut.alike_attach chains

/-- So do the pieces of a line that is cut behind an arrow. -/
theorem alike_inkOf_behind_arrow (h : Arrow.Stands before arrow) (after : Text)
    (chains : List Text) :
    List.Forall₂ Alike ((inkOf [before ++ arrow] ++ inkOf [after]).foldr attach chains)
      ((inkOf [before ++ (arrow ++ after)]).foldr attach chains) := by
  by_cases hnil : trim after = []
  · rw [Text.inkOf_singleton_of_eq_nil hnil, List.append_nil, ← List.append_assoc before,
      Text.inkOf_congr (Text.trim_append_right_of_forall (Text.trim_eq_nil_iff.1 hnil) _)]
    exact List.forall₂_same.2 fun chain _ => .refl chain
  · have hfront : trim (before ++ arrow) ≠ [] := by simpa using h.trim_ne_nil before []
    rw [Text.inkOf_singleton_of_ne_nil hfront, Text.inkOf_singleton_of_ne_nil hnil,
      Text.inkOf_singleton_of_ne_nil (h.trim_ne_nil before after)]
    exact (cut_behind_arrow h hnil).alike_attach chains

/-- A text has chains that are alike once some lines have been replaced by others
    that make such chains whatever stands below. -/
theorem alike_of_inkedTexts {t : Text} {above below lines lines' : List Text}
    (hs : inkedTexts s = above ++ (lines ++ below)) (ht : inkedTexts t = above ++ (lines' ++ below))
    (h : ∀ chains, List.Forall₂ Alike (lines.foldr attach chains) (lines'.foldr attach chains)) :
    List.Forall₂ Alike ((unwrappedLines s).map InkedLine.text)
      ((unwrappedLines t).map InkedLine.text) := by
  rw [map_text_unwrappedLines, map_text_unwrappedLines, hs, ht]
  simp only [List.foldr_append]
  exact alike_foldr_attach above (h _)

end Wrap

namespace Chain

variable {s t before after arrow gap : Text}

/-- What is read of chains depends on their hops alone, apart from what the notes
    say of the lines. -/
theorem summary_read_congr {α : Type} {f : Note → α}
    (harrow : Arrow.occursIn s = Arrow.occursIn t)
    (hhops : (Wrap.unwrappedLines s).map (fun line => Hop.ofLine line.text) =
      (Wrap.unwrappedLines t).map fun line => Hop.ofLine line.text)
    (hnotes : ((Wrap.unwrappedLines s).flatMap notes).map f =
      ((Wrap.unwrappedLines t).flatMap notes).map f) :
    (read s).summary f = (read t).summary f := by
  have hflat {β : Type} (g : List Hop → List β) :
      (Wrap.unwrappedLines s).flatMap (fun line => g (Hop.ofLine line.text)) =
        (Wrap.unwrappedLines t).flatMap fun line => g (Hop.ofLine line.text) := by
    rw [← List.flatMap_map, hhops, List.flatMap_map]
  have hlabels : labels (Wrap.unwrappedLines s) = labels (Wrap.unwrappedLines t) :=
    congrArg List.eraseDups (hflat fun hops => (hops.filter Hop.hasTarget).map Hop.target)
  have hlinks : links (Wrap.unwrappedLines s) = links (Wrap.unwrappedLines t) :=
    hflat fun hops => Link.ofHops (hops.filter Hop.hasTarget)
  simp only [read, harrow, hlabels, hlinks]
  split
  · rfl
  · split
    · rfl
    · simp only [Reading.summary, hnotes]

/-- The complaints about a chain come from its hops. -/
theorem map_complaint_notes (line : InkedLine) : (notes line).map Note.complaint =
    (Hop.ofLine line.text).filterMap Hop.complaint ++
      strayLabel ((Hop.ofLine line.text).filter Hop.hasTarget) := by
  simp [notes, hops, Function.comp_def]

/-- Texts with chains that are alike are read alike. -/
theorem summary_complaint_read (harrow : Arrow.occursIn s = Arrow.occursIn t)
    (h : List.Forall₂ Wrap.Alike ((Wrap.unwrappedLines s).map InkedLine.text)
      ((Wrap.unwrappedLines t).map InkedLine.text)) :
    (read s).summary Note.complaint = (read t).summary Note.complaint := by
  have hhops : (Wrap.unwrappedLines s).map (fun line => Hop.ofLine line.text) =
      (Wrap.unwrappedLines t).map fun line => Hop.ofLine line.text := by
    rw [← List.forall₂_eq_eq_eq, List.forall₂_map_left_iff, List.forall₂_map_right_iff]
    rw [List.forall₂_map_left_iff, List.forall₂_map_right_iff] at h
    exact h.imp fun _ _ halike => halike.hops
  refine summary_read_congr harrow hhops ?_
  simp only [List.map_flatMap, map_complaint_notes]
  rw [← List.flatMap_map (fun line : InkedLine => Hop.ofLine line.text)
    (fun hops => hops.filterMap Hop.complaint ++ strayLabel (hops.filter Hop.hasTarget)), hhops,
    List.flatMap_map]

/-- Texts with the same inked lines are read alike, apart from the numbers of the
    lines in the notes. -/
theorem summary_read_of_inkedTexts {α : Type} {f : Note → α}
    (hf : ∀ n : Note, f { n with line := 0 } = f n) (h : inkedTexts s = inkedTexts t) :
    (read s).summary f = (read t).summary f := by
  have htexts : (Wrap.unwrappedLines s).map InkedLine.text =
      (Wrap.unwrappedLines t).map InkedLine.text := by
    rw [Wrap.map_text_unwrappedLines, Wrap.map_text_unwrappedLines, h]
  have hflat {β : Type} (g : Text → β) : (Wrap.unwrappedLines s).map (fun line => g line.text) =
      (Wrap.unwrappedLines t).map fun line => g line.text := by
    simpa [Function.comp_def] using congrArg (List.map g) htexts
  have hnotes (line : InkedLine) : (notes line).map f = (notes ⟨0, line.text⟩).map f := by
    rw [notes, notes, List.map_map, List.map_map]
    exact List.map_congr_left fun c _ => (hf ⟨line.number, c, line.text⟩).symm
  refine summary_read_congr ?_ (hflat Hop.ofLine) ?_
  · rw [Arrow.occursIn_eq_any_inkedTexts, Arrow.occursIn_eq_any_inkedTexts, h]
  · simp only [List.map_flatMap, hnotes]
    rw [List.flatMap_def, List.flatMap_def, hflat fun text => (notes ⟨0, text⟩).map f]

/-- Wrapping a chain does not change it: blanks with a line end among them, put in
    front of an arrow or behind it, leave the nodes, the links and the complaints
    as they are. -/
theorem summary_read_wrapped (harrow : Arrow.Stands before arrow)
    (hgap : ∀ c ∈ gap, isBlank c = true) (hbreak : ∃ c ∈ gap, isBreak c = true) (after : Text) :
    (read (before ++ gap ++ arrow ++ after)).summary Note.complaint =
        (read (before ++ arrow ++ after)).summary Note.complaint ∧
      (read (before ++ arrow ++ gap ++ after)).summary Note.complaint =
        (read (before ++ arrow ++ after)).summary Note.complaint := by
  obtain ⟨above, front, back, below, hstands, hwhole, hfront, hback⟩ :=
    Wrap.exists_inkedTexts_arrow harrow after hgap hbreak
  have hoccurs (s t : Text) : Arrow.occursIn (s ++ (arrow ++ t)) = true :=
    Arrow.occursIn_append_right s (Arrow.occursIn_of_opens (harrow.opens_append t))
  simp only [List.append_assoc]
  constructor
  · refine summary_complaint_read ?_ (Wrap.alike_of_inkedTexts hfront hwhole
      (Wrap.alike_inkOf_before_arrow hstands back))
    rw [← List.append_assoc, hoccurs, hoccurs]
  · refine summary_complaint_read ?_ (Wrap.alike_of_inkedTexts hback hwhole
      (Wrap.alike_inkOf_behind_arrow hstands back))
    rw [hoccurs, hoccurs]

/-- For instance at an arrow behind a dash that is no part of it, on a line that
    goes on below. -/
theorem summary_read_wrapped_behind_dash :
    Arrow.Stands "a\nb -".toList ['→'] ∧ (∀ c ∈ " \r\n\t\n ".toList, isBlank c = true) ∧
      (∃ c ∈ " \r\n\t\n ".toList, isBreak c = true) ∧
      (read ("a\nb -".toList ++ " \r\n\t\n ".toList ++ ['→'] ++ "|x c --->\n|y| d".toList)).summary
          Note.complaint =
        (read ("a\nb -".toList ++ ['→'] ++ "|x c --->\n|y| d".toList)).summary Note.complaint ∧
      (read ("a\nb -".toList ++ ['→'] ++ " \r\n\t\n ".toList ++ "|x c --->\n|y| d".toList)).summary
          Note.complaint =
        (read ("a\nb -".toList ++ ['→'] ++ "|x c --->\n|y| d".toList)).summary Note.complaint ∧
      read ("a\nb -".toList ++ ['→'] ++ "|x c --->\n|y| d".toList) =
        .recognized chainDialect
          (.labelled ["a".toList, "b -".toList, "x c".toList, "d".toList]
            [⟨"b -".toList, "x c".toList, []⟩, ⟨"x c".toList, "d".toList, "y".toList⟩])
          [⟨2, .malformedLabel "|x c".toList, "b -→|x c ---> |y| d".toList⟩] := by
  have hgap : ∀ c ∈ " \r\n\t\n ".toList, isBlank c = true := List.all_eq_true.1 (by decide)
  have hbreak : ∃ c ∈ " \r\n\t\n ".toList, isBreak c = true := ⟨'\n', by decide, by decide⟩
  obtain ⟨hfront, hback⟩ :=
    summary_read_wrapped (.short : Arrow.Stands "a\nb -".toList ['→']) hgap hbreak
      "|x c --->\n|y| d".toList
  exact ⟨.short, hgap, hbreak, hfront, hback, by decide +kernel⟩

end Chain

/-! ## Texts with the same inked lines -/

namespace Numbered

namespace Draft

/-- The draft with the lines of its notes forgotten. -/
def unnumbered (d : Draft) : Draft :=
  { d with notes := d.notes.map fun n => { n with line := 0 } }

theorem unnumbered_note (d : Draft) (i : InkedLine) (c : Complaint) :
    (d.note i c).unnumbered = d.unnumbered.note ⟨0, i.text⟩ c := by
  simp [note, unnumbered]

/-- One more line has the same effect whatever its number, apart from the number
    in its notes. -/
theorem unnumbered_read (d : Draft) (i : InkedLine) :
    (d.read i).unnumbered = d.unnumbered.read ⟨0, i.text⟩ := by
  simp only [read]
  split
  · next token label _ =>
    have hnote := unnumbered_note { d with current := some token } i (.redefined token)
    rw [define, define, apply_ite unnumbered]
    exact congrArg₂ (ite _) (congrArg (relabel · token fun _ => label) hnote) rfl
  · simp [connect, unnumbered, Function.comp_def]
  · rw [proceed, proceed, show d.unnumbered.current = d.current from rfl]
    cases d.current with
    | none => exact unnumbered_note d i .beforeDefinitions
    | some token => rfl

/-- The draft of lines of which only the texts are known. -/
def ofTexts (ls : List Text) : Draft :=
  (ls.map (InkedLine.mk 0)).foldl read empty

theorem unnumbered_foldl_read (is : List InkedLine) (d : Draft) :
    (is.foldl read d).unnumbered =
      ((is.map InkedLine.text).map (InkedLine.mk 0)).foldl read d.unnumbered := by
  induction is generalizing d with
  | nil => rfl
  | cons i is ih =>
    rw [List.foldl_cons, ih, unnumbered_read]
    rfl

end Draft

/-- A draft of a text is that of its inked lines, apart from their numbers. -/
theorem unnumbered_draft (s : Text) : (draft s).unnumbered = Draft.ofTexts (inkedTexts s) :=
  Draft.unnumbered_foldl_read (Text.inkedLines s) .empty

theorem nodes_draft (s : Text) : (draft s).nodes = (Draft.ofTexts (inkedTexts s)).nodes := by
  rw [← unnumbered_draft]
  rfl

theorem links_draft (s : Text) : (draft s).links = (Draft.ofTexts (inkedTexts s)).links := by
  rw [← unnumbered_draft]
  rfl

/-- What is read of a text depends on its inked lines alone, apart from their
    numbers in the notes. -/
theorem summary_read {α : Type} {f : Note → α} (hf : ∀ n : Note, f { n with line := 0 } = f n)
    (s : Text) : (read s).summary f =
      if (Draft.ofTexts (inkedTexts s)).nodes.isEmpty then .error .noDefinitions
      else .ok (numberedDialect,
        .numbered (Draft.ofTexts (inkedTexts s)).nodes (Draft.ofTexts (inkedTexts s)).links,
        (Draft.ofTexts (inkedTexts s)).notes.map f) := by
  have hnotes : (Draft.ofTexts (inkedTexts s)).notes.map f = (draft s).notes.map f := by
    rw [← unnumbered_draft, Draft.unnumbered, List.map_map]
    exact List.map_congr_left fun n _ => hf n
  rw [hnotes, ← nodes_draft, ← links_draft, read, apply_ite (Reading.summary f)]
  rfl

end Numbered

namespace Reading

variable {s t : Text}

/-- A reading of the first notation that applies. -/
theorem summary_ofText {α : Type} (f : Note → α) (s : Text) : (ofText s).summary f =
    if Text.isBlankText s then .error .emptyInput
    else match (Numbered.read s).summary f with
      | .ok found => .ok found
      | .error numbered => match (Chain.read s).summary f with
        | .ok found => .ok found
        | .error chain => .error (.neither numbered chain) := by
  rw [ofText]
  split
  · rfl
  · cases Numbered.read s with
    | recognized dialect sketch notes => rfl
    | notApplicable numbered =>
      cases Chain.read s with
      | recognized dialect sketch notes => rfl
      | notApplicable chain => rfl

/-- The layout of a text does not matter: texts with the same lines, once they are
    trimmed and blank ones are left out, are read alike, apart from the numbers of
    the lines in the notes. -/
theorem summary_ofText_of_layout
    (h : ((Text.lines s).map trim).filter (fun line => !line.isEmpty) =
      ((Text.lines t).map trim).filter fun line => !line.isEmpty) :
    (ofText s).summary (fun n => (n.complaint, n.text)) =
      (ofText t).summary fun n => (n.complaint, n.text) := by
  have hinked : inkedTexts s = inkedTexts t := by
    rw [Text.inkedTexts_eq_inkOf, Text.inkedTexts_eq_inkOf]
    exact h
  have hblank : Text.isBlankText s = Text.isBlankText t := by
    rw [Bool.eq_iff_iff, Text.isBlankText_iff, Text.isBlankText_iff, hinked]
  have hnumbered := Numbered.summary_read (f := fun n => (n.complaint, n.text)) fun _ => rfl
  have hchain := Chain.summary_read_of_inkedTexts (f := fun n => (n.complaint, n.text))
    (fun _ => rfl) hinked
  rw [summary_ofText, summary_ofText, hblank, hnumbered, hnumbered, hinked, hchain]

/-- For instance with line ends of other kinds, blank lines and blanks around the
    lines. -/
theorem summary_ofText_of_layout_crlf :
    ((Text.lines "3.A\r\n\r\n b \r\n3 -> 4\r\nx->".toList).map trim).filter
        (fun line => !line.isEmpty) =
      ((Text.lines "\n  3.A \x0bb\t\n3 -> 4\x0c\x0c x->\n\n".toList).map trim).filter
        (fun line => !line.isEmpty) ∧
      (ofText "3.A\r\n\r\n b \r\n3 -> 4\r\nx->".toList).summary
          (fun n => (n.complaint, n.text)) =
        (ofText "\n  3.A \x0bb\t\n3 -> 4\x0c\x0c x->\n\n".toList).summary
          (fun n => (n.complaint, n.text)) ∧
      ofText "3.A\r\n\r\n b \r\n3 -> 4\r\nx->".toList =
        .recognized numberedDialect
          (.numbered [⟨"3".toList, "A\nb".toList⟩] [⟨"3".toList, "4".toList, []⟩])
          [⟨5, .notNumeric "x".toList, "x->".toList⟩, ⟨5, .emptyHop, "x->".toList⟩] := by
  have h : ((Text.lines "3.A\r\n\r\n b \r\n3 -> 4\r\nx->".toList).map trim).filter
        (fun line => !line.isEmpty) =
      ((Text.lines "\n  3.A \x0bb\t\n3 -> 4\x0c\x0c x->\n\n".toList).map trim).filter
        (fun line => !line.isEmpty) := by decide +kernel
  exact ⟨h, summary_ofText_of_layout h, by decide +kernel⟩

end Reading

end FlowScript
