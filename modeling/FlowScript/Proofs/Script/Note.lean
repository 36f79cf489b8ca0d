import FlowScript.Proofs.Script.Chain
import FlowScript.Proofs.Script.NumberedMeaning

/-!
# Notes and their lines

A note is taken while a line is read, and has the number and the text of that line
(`Note.IsOn`). So notes go along with the lines that are read, in both notations
(`Note.Along`): they are in the order of the lines, and each is on one of them.
-/

namespace FlowScript

open Text (InkedLine)

variable {lines : List InkedLine} {line : InkedLine} {notes : List Note} {note : Note}

/-- The note has the number and the text of the line. -/
structure Note.IsOn (note : Note) (line : InkedLine) : Prop where
  /-- The number is that of the line. -/
  number : note.line = line.number
  /-- So is the text. -/
  text : note.text = line.text

/-- The notes go along with the lines: line by line, each has notes of its own. -/
inductive Note.Along : List InkedLine → List Note → Prop
  /-- Without lines there are no notes. -/
  | nil : Along [] []
  /-- The notes on the first line come first. -/
  | cons {line : InkedLine} {lines : List InkedLine} {own notes : List Note} :
      (∀ note ∈ own, note.IsOn line) → Along lines notes → Along (line :: lines) (own ++ notes)

namespace Note.Along

theorem exists_isOn (h : Along lines notes) (hnote : note ∈ notes) :
    ∃ line ∈ lines, note.IsOn line := by
  induction h with
  | nil => cases hnote
  | @cons line _ _ _ hown _ ih =>
    rcases List.mem_append.1 hnote with hnote | hnote
    · exact ⟨line, List.mem_cons_self, hown note hnote⟩
    · obtain ⟨i, hi, hon⟩ := ih hnote
      exact ⟨i, List.mem_cons_of_mem _ hi, hon⟩

/-- Notes are in the order of their lines. -/
theorem pairwise_line (h : Along lines notes)
    (hlines : lines.Pairwise fun i j => i.number < j.number) :
    notes.Pairwise fun n m => n.line ≤ m.line := by
  induction h with
  | nil => exact List.Pairwise.nil
  | cons hown hrest ih =>
    rw [List.pairwise_cons] at hlines
    refine List.pairwise_append.2 ⟨?_, ih hlines.2, fun n hn m hm => ?_⟩
    · exact List.pairwise_of_forall_mem_list fun n hn m hm =>
        ((hown n hn).number.trans (hown m hm).number.symm).le
    · obtain ⟨i, hi, hon⟩ := hrest.exists_isOn hm
      rw [(hown n hn).number, hon.number]
      exact (hlines.1 i hi).le

theorem flatMap {f : InkedLine → List Note} (h : ∀ line, ∀ note ∈ f line, note.IsOn line)
    (lines : List InkedLine) : Along lines (lines.flatMap f) := by
  induction lines with
  | nil => exact .nil
  | cons line rest ih => exact .cons (h line) ih

end Note.Along

/-! ## The numbered notation -/

namespace Numbered

/-- The notes on a connection. -/
def connectionNotes (line : InkedLine) : List Note :=
  ((Hop.ofLine line.text).flatMap hopComplaints).map fun c => ⟨line.number, c, line.text⟩

theorem isOn_of_mem_connectionNotes : ∀ note ∈ connectionNotes line, note.IsOn line := by
  intro note hnote
  obtain ⟨c, -, rfl⟩ := List.mem_map.1 hnote
  exact ⟨rfl, rfl⟩

/-- Nothing is noted on a connection of numerals. -/
theorem connectionNotes_eq_nil_iff : connectionNotes line = [] ↔
    ∀ hop ∈ Hop.ofLine line.text, hop.complaint = none ∧ Text.isNumeral hop.target = true := by
  rw [connectionNotes, List.map_eq_nil_iff, List.flatMap_eq_nil_iff]
  refine forall₂_congr fun hop _ => ?_
  rw [hopComplaints, List.append_eq_nil_iff, Option.toList_eq_nil_iff]
  refine and_congr_right fun _ => ?_
  by_cases htarget : hop.hasTarget = true
  · simp [htarget]
  · -- What leads to nothing is no numeral.
    have hnil : hop.target = [] := by simpa [Hop.hasTarget] using htarget
    simp [htarget, hnil, Text.isNumeral]

namespace Draft

/-- All that is noted when a line is read is on that line. -/
theorem exists_notes_read (d : Draft) (line : InkedLine) :
    ∃ own, (d.read line).notes = d.notes ++ own ∧ ∀ note ∈ own, note.IsOn line := by
  have hone (complaint : Complaint) : ∀ note ∈ [(⟨line.number, complaint, line.text⟩ : Note)],
      note.IsOn line := List.forall_mem_singleton.2 ⟨rfl, rfl⟩
  have hnone : ∃ own, d.notes = d.notes ++ own ∧ ∀ note ∈ own, note.IsOn line :=
    ⟨[], (List.append_nil _).symm, fun _ hnote => absurd hnote List.not_mem_nil⟩
  rw [Draft.read]
  split
  · rw [define]
    split
    · exact ⟨_, rfl, hone _⟩
    · exact hnone
  · exact ⟨connectionNotes line, rfl, isOn_of_mem_connectionNotes⟩
  · rw [proceed]
    split
    · exact ⟨_, rfl, hone _⟩
    · exact hnone

theorem exists_notes_foldl (d : Draft) (lines : List InkedLine) :
    ∃ notes, (lines.foldl read d).notes = d.notes ++ notes ∧ Note.Along lines notes := by
  induction lines generalizing d with
  | nil => exact ⟨[], (List.append_nil _).symm, .nil⟩
  | cons line rest ih =>
    obtain ⟨own, hown, hon⟩ := d.exists_notes_read line
    obtain ⟨notes, hnotes, halong⟩ := ih (d.read line)
    exact ⟨own ++ notes, by rw [List.foldl_cons, hnotes, hown, List.append_assoc],
      .cons hon halong⟩

end Draft

/-- The notes on a text go along with its inked lines. -/
theorem along_draft (s : Text) : Note.Along (Text.inkedLines s) (draft s).notes := by
  obtain ⟨notes, hnotes, halong⟩ := Draft.empty.exists_notes_foldl (Text.inkedLines s)
  exact hnotes ▸ halong

end Numbered

/-! ## The chain notation -/

namespace Chain

theorem isOn_of_mem_notes (line : InkedLine) : ∀ note ∈ Chain.notes line, note.IsOn line := by
  intro note hnote
  obtain ⟨c, -, rfl⟩ := List.mem_map.1 hnote
  exact ⟨rfl, rfl⟩

/-- The notes on a text go along with its unwrapped lines. -/
theorem along_unwrappedLines (s : Text) :
    Note.Along (Wrap.unwrappedLines s) ((Wrap.unwrappedLines s).flatMap Chain.notes) :=
  .flatMap isOn_of_mem_notes _

end Chain

end FlowScript
