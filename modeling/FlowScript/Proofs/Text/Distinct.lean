import FlowScript.Text.Basic
import Mathlib.Data.List.Induction
import Mathlib.Data.List.Nodup

/-!
# Distinct texts

Erasing the repetitions from a list of texts keeps each text at the place where it
is first seen (`firstSeen_eraseDups`), and no other list does (`FirstSeen.eq_eraseDups`).
One more text at the end is kept if it is new (`eraseDups_append_singleton`): so a
reader can go on with what it has seen.
-/

namespace FlowScript.Text

variable {parts : List Text}

/-- One more text is kept if it is new. -/
theorem eraseDups_append_singleton (parts : List Text) (s : Text) :
    (parts ++ [s]).eraseDups = if s ∈ parts then parts.eraseDups else parts.eraseDups ++ [s] := by
  rw [List.eraseDups_append]
  split
  · next h => simp [List.removeAll, h]
  · next h => simp [List.removeAll, h, List.eraseDups_cons]

/-- Distinct texts stay as they are. -/
theorem eraseDups_of_nodup (h : parts.Nodup) : parts.eraseDups = parts := by
  induction parts using List.reverseRecOn with
  | nil => rfl
  | append_singleton parts s ih =>
    obtain ⟨hparts, -, hne⟩ := List.nodup_append.1 h
    have hs : s ∉ parts := fun hs => hne s hs s List.mem_cons_self rfl
    rw [eraseDups_append_singleton, if_neg hs, ih hparts]

/-- Texts that have been seen add nothing. -/
theorem eraseDups_append_of_subset {more : List Text} (h : more ⊆ parts) :
    (parts ++ more).eraseDups = parts.eraseDups := by
  induction more using List.reverseRecOn with
  | nil => rw [List.append_nil]
  | append_singleton more s ih =>
    have hs : s ∈ parts ++ more := List.mem_append_left _ (h (by simp))
    rw [← List.append_assoc, eraseDups_append_singleton, if_pos hs,
      ih (List.Subset.trans (List.subset_append_left _ _) h)]

theorem filter_eraseDups (p : Text → Bool) (parts : List Text) :
    parts.eraseDups.filter p = (parts.filter p).eraseDups := by
  induction parts using List.reverseRecOn with
  | nil => rfl
  | append_singleton parts s ih =>
    rw [eraseDups_append_singleton, List.filter_append]
    by_cases hs : p s = true
    · rw [List.filter_cons_of_pos hs, List.filter_nil, eraseDups_append_singleton, ← ih]
      simp only [List.mem_filter, hs, and_true]
      split
      · rfl
      · rw [List.filter_append, List.filter_cons_of_pos hs, List.filter_nil]
    · -- The text is left out on both sides.
      rw [List.filter_cons_of_neg hs, List.filter_nil, List.append_nil, ← ih]
      split
      · rfl
      · rw [List.filter_append, List.filter_cons_of_neg hs, List.filter_nil, List.append_nil]

/-- The texts of `seen` are those of `parts`, each once, in the order in which they
    are first seen there. -/
structure FirstSeen (seen parts : List Text) : Prop where
  /-- They are the same texts. -/
  mem_iff : ∀ s, s ∈ seen ↔ s ∈ parts
  /-- What is seen first comes first. -/
  order : seen.Pairwise fun s t => parts.idxOf s < parts.idxOf t

/-- Erasing repetitions keeps every text where it is first seen. -/
theorem firstSeen_eraseDups (parts : List Text) : FirstSeen parts.eraseDups parts := by
  refine ⟨fun s => List.mem_eraseDups, ?_⟩
  induction parts using List.reverseRecOn with
  | nil => exact .nil
  | append_singleton parts s ih =>
    have hleft {t : Text} (ht : t ∈ parts) : (parts ++ [s]).idxOf t = parts.idxOf t :=
      List.idxOf_append_of_mem ht
    -- What has been seen keeps its place, whether or not the last text is new.
    have ih : parts.eraseDups.Pairwise fun t u =>
        (parts ++ [s]).idxOf t < (parts ++ [s]).idxOf u := by
      refine ih.imp_of_mem fun ht hu h => ?_
      rwa [hleft (List.mem_eraseDups.1 ht), hleft (List.mem_eraseDups.1 hu)]
    rw [eraseDups_append_singleton]
    split
    · exact ih
    · next hs =>
      refine List.pairwise_append.2 ⟨ih, List.pairwise_singleton _ _, fun t ht u hu => ?_⟩
      have ht := List.mem_eraseDups.1 ht
      rw [List.mem_singleton.1 hu, hleft ht, List.idxOf_append_of_notMem hs]
      exact Nat.lt_of_lt_of_le (List.idxOf_lt_length_of_mem ht) (Nat.le_add_right _ _)

theorem FirstSeen.nodup {seen : List Text} (h : FirstSeen seen parts) : seen.Nodup := by
  refine h.order.imp fun hlt heq => ?_
  rw [heq] at hlt
  exact Nat.lt_irrefl _ hlt

/-- What is left once repetitions are erased is distinct. -/
theorem nodup_eraseDups (parts : List Text) : parts.eraseDups.Nodup :=
  (firstSeen_eraseDups parts).nodup

/-- There is no other list of the texts as they are first seen. -/
theorem FirstSeen.eq_eraseDups {seen : List Text} (h : FirstSeen seen parts) :
    seen = parts.eraseDups := by
  have hperm : seen.Perm parts.eraseDups := (List.perm_ext_iff_of_nodup h.nodup
    (nodup_eraseDups parts)).2 fun s => (h.mem_iff s).trans List.mem_eraseDups.symm
  refine hperm.eq_of_pairwise (fun s t _ _ hst hts => ?_) h.order (firstSeen_eraseDups parts).order
  exact absurd (Nat.lt_trans hst hts) (Nat.lt_irrefl _)

/-- Two texts are left iff two differ. -/
theorem two_le_length_eraseDups_iff :
    2 ≤ parts.eraseDups.length ↔ ∃ s ∈ parts, ∃ t ∈ parts, s ≠ t := by
  have hnodup := nodup_eraseDups parts
  constructor
  · intro h
    match hparts : parts.eraseDups, h with
    | s :: t :: rest, _ =>
      rw [hparts] at hnodup
      refine ⟨s, ?_, t, ?_, fun heq => ?_⟩
      · rw [← List.mem_eraseDups, hparts]
        exact List.mem_cons_self
      · rw [← List.mem_eraseDups, hparts]
        exact List.mem_cons_of_mem _ List.mem_cons_self
      · exact (List.nodup_cons.1 hnodup).1 (heq ▸ List.mem_cons_self)
  · rintro ⟨s, hs, t, ht, hne⟩
    have hsub : [s, t] ⊆ parts.eraseDups := by simp [hs, ht]
    have hpair : [s, t].Nodup := by simpa using hne
    exact hpair.length_le_of_subset hsub

end FlowScript.Text
