import FlowScript.Proofs.Script.Division
import FlowScript.Proofs.Text.Line
import FlowScript.Script.Arrow

/-!
# Clean edge labels

An edge label is *clean* when it can be written between pipes on a line: it is
trimmed and unbroken, and has neither pipes nor arrows in it. Every text is
made clean (`clean_normalize`), and the clean texts are those that are left as
they are (`normalize_eq_self_iff`).

* `normalize_cleans`: both in the words of the notation, where an arrow is one in
  any spelling (`clean_iff`), and that a label that has been made clean stays so.
-/

namespace FlowScript.EdgeLabel

open Text

/-- The text can be written between pipes on a line. -/
structure Clean (s : Text) : Prop where
  /-- No blank at either end. -/
  trimmed : Trimmed s
  /-- No character that ends a line. -/
  unbroken : Unbroken s
  /-- No pipe. -/
  no_pipe : '|' ∉ s
  /-- No arrow. -/
  no_arrow : Arrow.occursIn s = false

variable {s : Text}

theorem clean_nil : Clean [] :=
  ⟨trimmed_nil, unbroken_nil, List.not_mem_nil, rfl⟩

/-- The lines of a text that is flattened are on one line. -/
theorem unbroken_flatten (s : Text) : Unbroken (flatten s) := by
  refine Unbroken.join (by decide) fun l hl => ?_
  obtain ⟨i, hi, rfl⟩ := List.mem_map.1 hl
  exact (mem_inkedLines hi).unbroken

/-- A text on one line that is trimmed is flat. -/
theorem flatten_eq_self (ht : Trimmed s) (hu : Unbroken s) : flatten s = s := by
  by_cases hne : s = []
  · subst hne; rfl
  · have hs : Inked s := ⟨hne, ht, hu⟩
    rw [flatten, ← inkedTexts, inkedTexts_of_inked hs, join_singleton]

/-- Whatever the text, it becomes a label that can be written. -/
theorem clean_normalize (s : Text) : Clean (normalize s) where
  trimmed := trimmed_trim _
  unbroken := by
    refine Unbroken.trim (Unbroken.join (by decide) fun seg hseg => ?_)
    intro c hc
    -- A character of a segment was there before, or is the slash for a pipe.
    rcases mem_of_mem_replace (Arrow.mem_of_mem_split seg hseg c hc) with ⟨hc, -⟩ | hc
    · exact unbroken_flatten s c hc
    · rw [List.mem_singleton.1 hc]
      decide
  no_pipe := by
    intro hc
    -- The new arrow has no pipe, and in the segments pipes have been replaced.
    rcases mem_of_mem_join (mem_of_mem_trim hc) with hc | ⟨seg, hseg, hc⟩
    · exact absurd hc (by decide)
    · rcases mem_of_mem_replace (Arrow.mem_of_mem_split seg hseg _ hc) with ⟨-, hc⟩ | hc
      · exact hc rfl
      · exact absurd hc (by decide)
  no_arrow := Arrow.not_occursIn_of_infix (isInfix_trim _) (Arrow.not_occursIn_replace _)

/-- A clean label is left as it is. -/
theorem Clean.normalize_eq (h : Clean s) : normalize s = s := by
  rw [normalize, flatten_eq_self h.trimmed h.unbroken, replace_of_not_mem h.no_pipe,
    Arrow.replace_eq_self _ h.no_arrow, h.trimmed]

/-- The labels that are left as they are are the clean ones. -/
theorem normalize_eq_self_iff : normalize s = s ↔ Clean s :=
  ⟨fun h => h ▸ clean_normalize s, Clean.normalize_eq⟩

/-- A label is clean iff it has no pipe, no arrow in any spelling, no line end and
    no blank at its ends. -/
theorem clean_iff : Clean s ↔ '|' ∉ s ∧ (∀ arrow : Arrow.Spelling, ¬arrow.text <:+: s) ∧
    (∀ c ∈ s, isBreak c = false) ∧ trim s = s := by
  rw [← Arrow.not_occursIn_iff]
  constructor
  · rintro ⟨htrimmed, hunbroken, hpipe, harrow⟩
    exact ⟨hpipe, harrow, hunbroken, htrimmed⟩
  · rintro ⟨hpipe, harrow, hunbroken, htrimmed⟩
    exact ⟨htrimmed, hunbroken, hpipe, harrow⟩

/-- Whatever the text, the label that it becomes has no pipe, no arrow, no line end
    and no blank at its ends. Once is enough, and only a text with one of these is
    changed. -/
theorem normalize_cleans (s : Text) :
    ('|' ∉ normalize s ∧ (∀ arrow : Arrow.Spelling, ¬arrow.text <:+: normalize s) ∧
        (∀ c ∈ normalize s, isBreak c = false) ∧ trim (normalize s) = normalize s) ∧
      normalize (normalize s) = normalize s ∧
      (normalize s = s ↔ '|' ∉ s ∧ (∀ arrow : Arrow.Spelling, ¬arrow.text <:+: s) ∧
        (∀ c ∈ s, isBreak c = false) ∧ trim s = s) := by
  have hclean := clean_normalize s
  rw [← clean_iff, ← clean_iff]
  exact ⟨hclean, hclean.normalize_eq, normalize_eq_self_iff⟩

/-- Dashes that are left in front of a new `=>` make no arrow with it. -/
example : normalize " a-\r\n->b|--→--->> ".toList = "a- =>b/--=>=>>".toList := by decide

end FlowScript.EdgeLabel
