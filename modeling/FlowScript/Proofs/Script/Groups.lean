import FlowScript.Proofs.Script.Division
import FlowScript.Proofs.Script.Wrap
import Mathlib.Data.List.Nodup

/-!
# The groups of wrapped lines

Two inked lines in a row *go on* from one another if an arrow ends the first or
begins the second (`GoesOn`). The inked lines of a text come in groups (`Grouping`): the
groups are all the lines, in order, each line is in one group, and two lines in a
row are in the same group iff they go on.

Main statement: the unwrapped lines of a text are such groups, each written on one
line under the number of its first (`exists_grouping`). Lines that go on end up in
the same group whatever stands around them (`exists_group_of_rel`), and lines that
do not are never together, since no line comes twice (`not_exists_group`).
-/

namespace FlowScript.Wrap

open Text (InkedLine inkedLines lines trim)

variable {s : Text}

/-! ## Runs of a list -/

section Runs

variable {α : Type} {r : α → α → Bool} {i j : α} {before after : List α}

/-- The first run of a list begins as the list does. -/
theorem exists_splitBy_eq_cons (r : α → α → Bool) {l : List α} (h : l ≠ []) :
    ∃ a g gs, l.splitBy r = (a :: g) :: gs ∧ l.head? = some a := by
  obtain ⟨g, gs, hsplit⟩ := List.exists_cons_of_ne_nil ((List.splitBy_ne_nil (r := r)).2 h)
  obtain ⟨a, g, rfl⟩ := List.exists_cons_of_ne_nil
    (List.ne_nil_of_mem_splitBy (hsplit ▸ List.mem_cons_self))
  refine ⟨a, g, gs, hsplit, ?_⟩
  rw [← List.flatten_splitBy r l, hsplit]
  rfl

/-- Neighbours that are related are in one run. -/
theorem exists_group_of_rel (h : r i j = true) (before after : List α) :
    ∃ g ∈ (before ++ i :: j :: after).splitBy r, i ∈ g ∧ j ∈ g := by
  induction before with
  | nil =>
    obtain ⟨b, g, gs, hsplit, hhead⟩ := exists_splitBy_eq_cons r (List.cons_ne_nil j after)
    obtain rfl : j = b := Option.some.inj hhead
    refine ⟨i :: j :: g, ?_, by simp, by simp⟩
    rw [List.nil_append, splitBy_cons hsplit, if_pos h]
    exact List.mem_cons_self
  | cons a before ih =>
    obtain ⟨g, hg, hi, hj⟩ := ih
    obtain ⟨b, first, gs, hsplit, -⟩ :=
      exists_splitBy_eq_cons r (l := before ++ i :: j :: after) (by simp)
    rw [List.cons_append, splitBy_cons hsplit]
    rw [hsplit] at hg
    -- The new element joins the first run or makes one of its own.
    split
    · rcases List.mem_cons.1 hg with rfl | hg
      · exact ⟨_, List.mem_cons_self, List.mem_cons_of_mem a hi, List.mem_cons_of_mem a hj⟩
      · exact ⟨g, List.mem_cons_of_mem _ hg, hi, hj⟩
    · exact ⟨g, List.mem_cons_of_mem _ hg, hi, hj⟩

/-- Neighbours that are not related are in no run together, if nothing comes
    twice. -/
theorem not_exists_group (h : r i j = false) (hnodup : (before ++ i :: j :: after).Nodup) :
    ¬∃ g ∈ (before ++ i :: j :: after).splitBy r, i ∈ g ∧ j ∈ g := by
  rintro ⟨g, hg, hi, hj⟩
  rw [List.append_cons] at hg hnodup
  rw [List.splitBy_append_cons after (by simpa using h), List.mem_append] at hg
  have hdisjoint := List.disjoint_of_nodup_append hnodup
  -- A run is on one side of the gap between the two.
  rcases hg with hg | hg
  · have hmem : j ∈ before ++ [i] := by
      rw [← List.flatten_splitBy r (before ++ [i])]
      exact List.mem_flatten.2 ⟨g, hg, hj⟩
    exact hdisjoint hmem List.mem_cons_self
  · have hmem : i ∈ j :: after := by
      rw [← List.flatten_splitBy r (j :: after)]
      exact List.mem_flatten.2 ⟨g, hg, hi⟩
    exact hdisjoint (List.mem_append_right _ List.mem_cons_self) hmem

end Runs

/-! ## Groups of inked lines -/

/-- An arrow ends the first line or begins the second. -/
def GoesOn (line next : Text) : Prop :=
  (∃ arrow : Arrow.Spelling, arrow.text <:+ line) ∨ ∃ arrow : Arrow.Spelling, arrow.text <+: next

/-- The groups are those of the inked lines `is`. -/
structure Grouping (is : List InkedLine) (gs : List (List InkedLine)) : Prop where
  /-- They are all the lines, in order. -/
  flatten : gs.flatten = is
  /-- None is empty. -/
  ne_nil : ∀ g ∈ gs, g ≠ []
  /-- Each line is in one of them only. -/
  existsUnique : ∀ i ∈ is, ∃! g, g ∈ gs ∧ i ∈ g
  /-- Two lines in a row are together iff they go on from one another. -/
  together : ∀ before i j after, is = before ++ i :: j :: after →
    ((∃ g ∈ gs, i ∈ g ∧ j ∈ g) ↔ GoesOn i.text j.text)

/-- A group as it is written on one line. -/
structure Unwraps (group : List InkedLine) (line : InkedLine) : Prop where
  /-- The line has the number of the first. -/
  number : ∃ first rest, group = first :: rest ∧ line.number = first.number
  /-- The lines are joined by spaces. -/
  text : line.text = Text.join [' '] (group.map InkedLine.text)

theorem joins_iff {i j : InkedLine} : joins i j = true ↔ GoesOn i.text j.text := by
  rw [joins, GoesOn, Bool.or_eq_true, Arrow.closes_iff_spelling, Arrow.opens_iff_spelling]

theorem nodup_inkedLines (s : Text) : (inkedLines s).Nodup :=
  (Text.pairwise_number_inkedLines s).imp fun hlt heq => by simp [heq] at hlt

/-- The groups of a text group its inked lines. -/
theorem grouping_groups (s : Text) : Grouping (inkedLines s) (groups s) where
  flatten := List.flatten_splitBy joins (inkedLines s)
  ne_nil _ hg := List.ne_nil_of_mem_splitBy hg
  existsUnique i hi := by
    have hflat : (groups s).flatten = inkedLines s := List.flatten_splitBy joins (inkedLines s)
    rw [← hflat] at hi
    obtain ⟨g, hg, hig⟩ := List.mem_flatten.1 hi
    refine ⟨g, ⟨hg, hig⟩, fun g' ⟨hg', hig'⟩ => ?_⟩
    -- Groups with a line in common are the same, as no line comes twice.
    by_contra hne
    have hnodup := nodup_inkedLines s
    rw [← hflat, List.nodup_flatten] at hnodup
    have hsymm : Std.Symm (List.Disjoint (α := InkedLine)) := ⟨fun _ _ h _ ha hb => h hb ha⟩
    exact hnodup.2.forall hg' hg hne hig' hig
  together before i j after heq := by
    have hnodup := nodup_inkedLines s
    rw [groups, ← joins_iff, heq]
    rw [heq] at hnodup
    by_cases hjoins : joins i j = true
    · exact iff_of_true (exists_group_of_rel hjoins before after) hjoins
    · exact iff_of_false (not_exists_group (by simpa using hjoins) hnodup) hjoins

theorem unwraps_unwrap {group : List InkedLine} (h : group ≠ []) :
    Unwraps group (unwrap group) := by
  obtain ⟨first, rest, rfl⟩ := List.exists_cons_of_ne_nil h
  exact ⟨⟨first, rest, rfl, rfl⟩, rfl⟩

/-- Nothing is lost when the lines of a text are unwrapped. The inked lines are the
    lines of the text that are not blank, trimmed, each with its number counted
    from one. They come in groups, and the unwrapped lines are these groups, each on
    one line, in the order of their numbers. -/
theorem exists_grouping (s : Text) :
    (∀ i, i ∈ inkedLines s ↔ ∃ k line,
      (lines s)[k]? = some line ∧ i.number = 1 + k ∧ i.text = trim line ∧ i.text ≠ []) ∧
    (inkedLines s).Pairwise (fun i j => i.number < j.number) ∧
    ∃ gs, Grouping (inkedLines s) gs ∧ List.Forall₂ Unwraps gs (unwrappedLines s) ∧
      (unwrappedLines s).Pairwise fun i j => i.number < j.number := by
  have hgroups := grouping_groups s
  refine ⟨fun i => Text.mem_inkedLines_iff, Text.pairwise_number_inkedLines s,
    groups s, hgroups, ?_, pairwise_number_unwrappedLines s⟩
  rw [unwrappedLines, List.forall₂_map_right_iff, List.forall₂_same]
  exact fun g hg => unwraps_unwrap (hgroups.ne_nil g hg)

example : unwrappedLines "\nA ->\n\n B \nC\n--> D ->\n→ E".toList =
    [⟨2, "A -> B".toList⟩, ⟨5, "C --> D -> → E".toList⟩] := by decide

end FlowScript.Wrap
