import FlowScript.Proofs.Script.Note

/-!
# What notes point at, and when there are none

Notes go along with the lines that are read, so their numbers do not decrease. The
number of an inked line is its place in the text, counted from one, blank lines
included; so a note of the numbered notation gives the place of a line and the line
itself, without the blanks at its ends. A note of the chain notation gives the place
of the first of the lines that make up a chain, and these lines joined by blanks.

In the numbered notation nothing is noted iff the lines are *in order*
(`Orderly`): no token is defined twice, nothing but connections stands in front of the
first definition, and every segment of a connection leads to a numeral and closes the
pipe that it opens. This is one condition on each line and those in front of it
(`orderly_append_singleton`), which the reader checks line by line
(`Draft.notes_read_eq_iff`). Blank lines are in order anywhere (`orderly_filter`).
-/

namespace FlowScript

open Text (InkedLine isNumeral)

namespace Numbered

variable {ls ls' : List Text} {line segment token : Text} {i : InkedLine} {is : List InkedLine}
  {d : Draft}

/-! ## Lines in order -/

/-- The segment leads to a numeral, and closes a pipe that it opens with. -/
structure OrderlySegment (segment : Text) : Prop where
  /-- The target is a numeral. -/
  numeral : isNumeral (Hop.ofSegment segment).target = true
  /-- A pipe in front has another one behind it. -/
  closed : ∀ rest, Text.trim segment = '|' :: rest → '|' ∈ rest

/-- Trimmed lines on which there is nothing to be noted. -/
structure Orderly (ls : List Text) : Prop where
  /-- No token is defined twice. -/
  distinct : (definedTokens ls).Nodup
  /-- In front of the first definition all lines are blank, or connect. -/
  opening : ∀ line ∈ ls.takeWhile fun line => (definedToken? line).isNone,
    line = [] ∨ isConnection line = true
  /-- All segments of connections are in order. -/
  segments : ∀ line ∈ ls, isConnection line = true →
    ∀ segment ∈ Arrow.split line, OrderlySegment segment

/-- There is nothing to be noted of the line behind others. -/
structure Fits (ls : List Text) (line : Text) : Prop where
  /-- A token that it defines is new. -/
  fresh : ∀ token, definedToken? line = some token → token ∉ definedTokens ls
  /-- In front of the first definition it is blank, or connects. -/
  opening : definedTokens ls = [] → definedToken? line = none →
    line = [] ∨ isConnection line = true
  /-- If it connects, its segments are in order. -/
  segments : isConnection line = true → ∀ segment ∈ Arrow.split line, OrderlySegment segment

theorem orderly_nil : Orderly [] :=
  ⟨List.nodup_nil, fun _ h => absurd h List.not_mem_nil, fun _ h => absurd h List.not_mem_nil⟩

theorem nodup_definedTokens_append_singleton : (definedTokens (ls ++ [line])).Nodup ↔
    (definedTokens ls).Nodup ∧
      ∀ token, definedToken? line = some token → token ∉ definedTokens ls := by
  rw [definedTokens_append, List.nodup_append']
  cases hdef : definedToken? line with
  | none => simp [definedTokens, hdef]
  | some token =>
    have hline : definedTokens [line] = [token] := by simp [definedTokens, hdef]
    simp [hline]

theorem opening_append_singleton :
    (∀ l ∈ (ls ++ [line]).takeWhile fun line => (definedToken? line).isNone,
      l = [] ∨ isConnection l = true) ↔
    (∀ l ∈ ls.takeWhile fun line => (definedToken? line).isNone,
      l = [] ∨ isConnection l = true) ∧
    (definedTokens ls = [] → definedToken? line = none → line = [] ∨ isConnection line = true) := by
  by_cases hnil : definedTokens ls = []
  · have hnone := definedTokens_eq_nil_iff.1 hnil
    have hall := takeWhile_append_of_forall hnone []
    rw [List.takeWhile_nil, List.append_nil] at hall
    rw [takeWhile_append_of_forall hnone, hall, List.forall_mem_append]
    cases hdef : definedToken? line <;> simp [hnil, hdef]
  · have hmem : ∃ l ∈ ls, definedToken? l ≠ none := by
      simpa [definedTokens_eq_nil_iff] using hnil
    rw [takeWhile_append_of_mem hmem]
    simp [hnil]

/-- Lines are in order iff each is behind those in front of it. -/
theorem orderly_append_singleton : Orderly (ls ++ [line]) ↔ Orderly ls ∧ Fits ls line := by
  constructor
  · rintro ⟨hdistinct, hopening, hsegments⟩
    rw [nodup_definedTokens_append_singleton] at hdistinct
    rw [opening_append_singleton] at hopening
    rw [List.forall_mem_append, List.forall_mem_singleton] at hsegments
    exact ⟨⟨hdistinct.1, hopening.1, hsegments.1⟩, ⟨hdistinct.2, hopening.2, hsegments.2⟩⟩
  · rintro ⟨horderly, hfits⟩
    refine ⟨nodup_definedTokens_append_singleton.2 ⟨horderly.distinct, hfits.fresh⟩,
      opening_append_singleton.2 ⟨horderly.opening, hfits.opening⟩, ?_⟩
    rw [List.forall_mem_append, List.forall_mem_singleton]
    exact ⟨horderly.segments, hfits.segments⟩

/-- Only the tokens in front of a line matter to it. -/
theorem Fits.congr (h : Fits ls line) (htokens : definedTokens ls = definedTokens ls') :
    Fits ls' line :=
  ⟨htokens ▸ h.fresh, htokens ▸ h.opening, h.segments⟩

theorem fits_blank (ls : List Text) : Fits ls [] where
  fresh _ h := nomatch h
  opening _ _ := .inl rfl
  segments h := nomatch h

/-- A definition fits if its token is new. -/
theorem fits_of_definition (hdef : definedToken? line = some token) :
    Fits ls line ↔ token ∉ definedTokens ls := by
  have hconnection : isConnection line = false := by simp [isConnection, hdef]
  exact ⟨fun h => h.fresh token hdef,
    fun h => ⟨by simpa [hdef] using h, by simp [hdef], by simp [hconnection]⟩⟩

/-- A connection fits anywhere if its segments are in order. -/
theorem fits_of_connection (hconnection : isConnection line = true) :
    Fits ls line ↔ ∀ segment ∈ Arrow.split line, OrderlySegment segment := by
  have hnone : definedToken? line = none :=
    Option.isNone_iff_eq_none.1 (Bool.and_eq_true_iff.1 hconnection).1
  exact ⟨fun h => h.segments hconnection,
    fun h => ⟨by simp [hnone], fun _ _ => .inr hconnection, fun _ => h⟩⟩

/-- Any other line fits behind a definition. -/
theorem fits_of_continuation (hnone : definedToken? line = none)
    (hconnection : isConnection line = false) (hne : line ≠ []) :
    Fits ls line ↔ definedTokens ls ≠ [] := by
  refine ⟨fun h hnil => ?_,
    fun h => ⟨by simp [hnone], fun hnil => absurd hnil h, by simp [hconnection]⟩⟩
  rcases h.opening hnil hnone with hblank | hconnects
  · exact hne hblank
  · exact absurd hconnects (by simp [hconnection])

theorem definedTokens_filter (ls : List Text) :
    definedTokens (ls.filter fun line => !line.isEmpty) = definedTokens ls := by
  induction ls with
  | nil => rfl
  | cons line ls ih =>
    cases line with
    | nil => exact ih
    | cons c line =>
      rw [List.filter_cons_of_pos rfl]
      simp only [definedTokens, List.filterMap_cons] at ih ⊢
      rw [ih]

/-- Blank lines are in order. -/
theorem orderly_filter : Orderly (ls.filter fun line => !line.isEmpty) ↔ Orderly ls := by
  induction ls using List.reverseRecOn with
  | nil => rfl
  | append_singleton ls line ih =>
    rw [List.filter_append, orderly_append_singleton]
    cases line with
    | nil =>
      rw [List.filter_cons_of_neg (by decide), List.filter_nil, List.append_nil, ih]
      exact (and_iff_left (fits_blank ls)).symm
    | cons c line =>
      rw [List.filter_cons_of_pos rfl, List.filter_nil, orderly_append_singleton, ih]
      exact and_congr_right fun _ => ⟨fun h => h.congr (definedTokens_filter ls),
        fun h => h.congr (definedTokens_filter ls).symm⟩

/-! ## What the reader notes -/

/-- Nothing is noted of a segment iff it is in order. -/
theorem orderlySegment_iff : OrderlySegment segment ↔
    (Hop.ofSegment segment).complaint = none ∧
      isNumeral (Hop.ofSegment segment).target = true := by
  have hclosed : (∀ rest, Text.trim segment = '|' :: rest → '|' ∈ rest) ↔
      (Hop.ofSegment segment).complaint = none := by
    rw [Hop.ofSegment]
    split
    · next rest heq =>
      have hmem : (∀ rest', Text.trim segment = '|' :: rest' → '|' ∈ rest') ↔ '|' ∈ rest := by
        simp [heq]
      rw [hmem, ← not_iff_not, ← Text.cut?_eq_none_iff]
      cases Text.cut? '|' rest <;> simp
    · next hne => exact iff_of_true (fun rest heq => absurd heq (hne rest)) rfl
  rw [← hclosed]
  exact ⟨fun h => ⟨h.closed, h.numeral⟩, fun h => ⟨h.2, h.1⟩⟩

/-- A line brings no note iff it fits behind those that have been read. -/
theorem Draft.notes_read_eq_iff (h : d.Follows ls) (hne : i.text ≠ []) :
    (d.read i).notes = d.notes ↔ Fits ls i.text := by
  rw [Draft.read]
  -- One case for each kind of line.
  split
  · next token label hk =>
    obtain ⟨hnum, rest, hline, -⟩ := eq_of_ofText_definition hk
    have hdef : definedToken? i.text = some token := hline ▸ definedToken?_definition hnum rest
    rw [fits_of_definition hdef, ← h.defines_iff, Draft.define]
    split
    · next hthere =>
      exact iff_of_false (by simp [relabel, note]) (not_not_intro hthere)
    · next hnew => exact iff_of_true rfl hnew
  · next hk =>
    have hnotes : (d.connect i).notes = d.notes ++ connectionNotes i := rfl
    rw [fits_of_connection (ofText_eq_connection_iff.1 hk), hnotes, List.append_right_eq_self,
      connectionNotes_eq_nil_iff, Hop.ofLine, List.forall_mem_map]
    simp only [← orderlySegment_iff]
  · next hk =>
    obtain ⟨harrow, hdef⟩ := ofText_eq_continuation_iff.1 hk
    have hconnection : isConnection i.text = false := by simp [isConnection, harrow]
    rw [fits_of_continuation (definedToken?_eq_none_iff.2 hdef) hconnection hne, Draft.proceed,
      h.current, ne_eq, ← List.getLast?_eq_none_iff]
    split
    · next hcurrent => exact iff_of_false (by simp [note]) (not_not_intro hcurrent)
    · next token hcurrent => exact iff_of_true rfl (by simp [hcurrent])

/-- Nothing is noted on lines iff they are in order. -/
theorem notes_foldl_eq_nil_iff (hne : ∀ i ∈ is, i.text ≠ []) :
    (is.foldl Draft.read Draft.empty).notes = [] ↔ Orderly (is.map InkedLine.text) := by
  induction is using List.reverseRecOn with
  | nil => exact iff_of_true rfl orderly_nil
  | append_singleton is i ih =>
    rw [List.forall_mem_append, List.forall_mem_singleton] at hne
    have hfollows := Draft.follows_empty.foldl hne.1
    have hread := Draft.notes_read_eq_iff hfollows hne.2
    obtain ⟨own, hown, -⟩ := (is.foldl Draft.read Draft.empty).exists_notes_read i
    rw [hown, List.append_right_eq_self, List.nil_append] at hread
    rw [List.foldl_append, List.foldl_cons, List.foldl_nil, hown, List.append_eq_nil_iff,
      ih hne.1, hread, List.map_append, List.map_singleton, orderly_append_singleton]

/-- Nothing is noted on a text iff its lines are in order. -/
theorem notes_draft_eq_nil_iff (s : Text) :
    (draft s).notes = [] ↔ Orderly ((Text.lines s).map Text.trim) := by
  rw [draft, notes_foldl_eq_nil_iff fun i hi => (Text.mem_inkedLines hi).ne_nil, Text.inkedLines,
    Text.map_text_inkedFrom, orderly_filter]

end Numbered

/-- Notes point at what they are about. In both notations they are in the order of the
    lines. In the numbered notation the text of a note is the line of its number,
    trimmed, and there are no notes iff the lines are in order. In the chain notation the
    text of a note is a chain: the lines, trimmed, that are joined to one, the first of which
    has the number of the note. -/
theorem notes_point_at_lines (s : Text) :
    (∀ dialect sketch notes, Numbered.read s = .recognized dialect sketch notes →
      (notes.Pairwise fun n m => n.line ≤ m.line) ∧
      (∀ note ∈ notes, 1 ≤ note.line ∧
        (Text.lines s)[note.line - 1]?.map Text.trim = some note.text) ∧
      (notes = [] ↔ Numbered.Orderly ((Text.lines s).map Text.trim))) ∧
    ∀ dialect sketch notes, Chain.read s = .recognized dialect sketch notes →
      (notes.Pairwise fun n m => n.line ≤ m.line) ∧
      ∀ note ∈ notes, ∃ first rest, first :: rest ∈ Wrap.groups s ∧ note.line = first.number ∧
        note.text = Text.join [' '] ((first :: rest).map InkedLine.text) ∧
        ∀ i ∈ first :: rest, i.text ≠ [] ∧ 1 ≤ i.number ∧
          (Text.lines s)[i.number - 1]?.map Text.trim = some i.text := by
  constructor
  · intro dialect sketch notes hread
    obtain ⟨-, -, -, rfl⟩ := Numbered.read_eq_recognized_iff.1 hread
    have halong := Numbered.along_draft s
    refine ⟨halong.pairwise_line (Text.pairwise_number_inkedLines s), fun note hnote => ?_,
      Numbered.notes_draft_eq_nil_iff s⟩
    obtain ⟨i, hi, hon⟩ := halong.exists_isOn hnote
    rw [hon.number, hon.text]
    exact Text.getElem?_of_mem_inkedLines hi
  · intro dialect sketch notes hread
    obtain ⟨-, -, -, -, rfl⟩ := Chain.read_eq_recognized_iff.1 hread
    have halong := Chain.along_unwrappedLines s
    refine ⟨halong.pairwise_line (Wrap.pairwise_number_unwrappedLines s), fun note hnote => ?_⟩
    obtain ⟨i, hi, hon⟩ := halong.exists_isOn hnote
    obtain ⟨group, hgroup, rfl⟩ := List.mem_map.1 hi
    have hne : group ≠ [] := List.ne_nil_of_mem_splitBy hgroup
    obtain ⟨first, rest, rfl⟩ := List.exists_cons_of_ne_nil hne
    refine ⟨first, rest, hgroup, hon.number, hon.text, fun j hj => ?_⟩
    have hmem := Wrap.mem_of_mem_groups hgroup hj
    exact ⟨(Text.mem_inkedLines hmem).ne_nil, Text.getElem?_of_mem_inkedLines hmem⟩

/-- A token that is defined again below a blank line, and a chain that goes on below
    one. -/
theorem notes_point_at_lines_behind_blank_line :
    (∃ notes : List Note, notes.map Note.line = [4] ∧
      Numbered.read "1.A\n1->1\n\n 1.B".toList =
        .recognized numberedDialect (.numbered [⟨['1'], ['B']⟩] [⟨['1'], ['1'], []⟩]) notes ∧
      ¬Numbered.Orderly ((Text.lines "1.A\n1->1\n\n 1.B".toList).map Text.trim)) ∧
    ∃ first rest, first :: rest ∈ Wrap.groups "\nA ->\n\n|x B".toList ∧ first.number = 2 ∧
      Text.join [' '] ((first :: rest).map InkedLine.text) = "A -> |x B".toList := by
  constructor
  · have hread : Numbered.read "1.A\n1->1\n\n 1.B".toList =
        .recognized numberedDialect (.numbered [⟨['1'], ['B']⟩] [⟨['1'], ['1'], []⟩])
          [⟨4, .redefined ['1'], "1.B".toList⟩] := by decide +kernel
    obtain ⟨-, -, hnil⟩ := (notes_point_at_lines _).1 _ _ _ hread
    exact ⟨_, rfl, hread, fun horderly => absurd (hnil.2 horderly) (List.cons_ne_nil _ _)⟩
  · have hread : Chain.read "\nA ->\n\n|x B".toList =
        .recognized chainDialect (.labelled [['A'], "x B".toList] [⟨['A'], "x B".toList, []⟩])
          [⟨2, .malformedLabel "|x B".toList, "A -> |x B".toList⟩] := by decide +kernel
    obtain ⟨-, hnotes⟩ := (notes_point_at_lines _).2 _ _ _ hread
    obtain ⟨first, rest, hgroup, hnumber, htext, -⟩ := hnotes _ List.mem_cons_self
    exact ⟨first, rest, hgroup, hnumber.symm, htext.symm⟩

end FlowScript
