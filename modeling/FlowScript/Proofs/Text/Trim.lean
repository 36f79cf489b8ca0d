import FlowScript.Text.Half
import Mathlib.Data.List.DropRight

/-!
# Trimmed texts

A text is *trimmed* when trimming does not change it, which is to say that its
first and its last character are no blanks (`trimmed_iff`). Trimming gives a
trimmed text (`trimmed_trim`) whose characters are among those of the original
(`mem_of_mem_trim`), and blanks put around a trimmed text are trimmed away
again (`Trimmed.trim_append`, `Trimmed.trim_cons`). Halves of characters are no blanks,
so none is trimmed away (`Halves.isWhole_trim`).
-/

namespace FlowScript.Text

/-- The text has no blanks at its ends. -/
def Trimmed (s : Text) : Prop :=
  trim s = s

instance (s : Text) : Decidable (Trimmed s) :=
  inferInstanceAs (Decidable (trim s = s))

variable {s t : Text} {c : Char}

/-- Trimming on the right, as the library has it. -/
theorem trimRight_eq_rdropWhile (s : Text) : trimRight s = s.rdropWhile isBlank := by
  induction s using List.reverseRecOn with
  | nil => rfl
  | append_singleton s c ih =>
    by_cases hc : isBlank c = true
    · rw [trimRight_append_of_isBlank hc, ih, List.rdropWhile_concat_pos _ _ _ hc]
    · rw [trimRight_append_of_not_isBlank (by simpa using hc), List.rdropWhile_concat_neg _ _ _ hc]

theorem ne_of_isBlank {d : Char} (hc : isBlank c = true) (hd : isBlank d = false) : c ≠ d := by
  rintro rfl
  exact absurd hc (by simp [hd])

theorem trimmed_nil : Trimmed [] := rfl

/-- What is left after trimming lies in one piece in the text. -/
theorem isInfix_trim (s : Text) : trim s <:+: s := by
  rw [trim, trimRight_eq_rdropWhile, trimLeft]
  exact (List.rdropWhile_prefix _ _).isInfix.trans (List.dropWhile_suffix _).isInfix

theorem mem_of_mem_trim (h : c ∈ trim s) : c ∈ s :=
  (isInfix_trim s).subset h

/-- A text is trimmed iff neither its first nor its last character is a blank. -/
theorem trimmed_iff : Trimmed s ↔
    (∀ c, s.head? = some c → isBlank c = false) ∧
      ∀ c, s.getLast? = some c → isBlank c = false := by
  constructor
  · intro h
    have hleft : trimLeft s = s := by
      refine List.dropWhile_eq_self_iff.2 fun hpos hb => ?_
      -- A leading blank is dropped, and what is dropped does not come back: the
      -- trimmed text would be shorter than itself.
      have hlen := (List.rdropWhile_prefix isBlank (trimLeft s)).length_le
      rw [← trimRight_eq_rdropWhile, ← trim, h] at hlen
      obtain ⟨c, rest, rfl⟩ := List.exists_cons_of_length_pos hpos
      have := (List.dropWhile_suffix isBlank (l := rest)).length_le
      simp only [trimLeft, List.dropWhile_cons, show isBlank c = true from hb, if_true] at hlen
      simp at hlen
      omega
    rw [Trimmed, trim, hleft, trimRight_eq_rdropWhile, List.rdropWhile_eq_self_iff] at h
    rw [trimLeft, List.dropWhile_eq_self_iff] at hleft
    -- Both halves now say what they should, in the words of the library.
    constructor
    · intro c hc
      cases s with
      | nil => cases hc
      | cons d rest =>
        obtain rfl : d = c := by simpa using hc
        exact Bool.eq_false_iff.2 (hleft (Nat.zero_lt_succ _))
    · intro c hc
      have hne : s ≠ [] := by rintro rfl; cases hc
      rw [List.getLast?_eq_some_getLast hne, Option.some.injEq] at hc
      simpa [hc] using h hne
  · rintro ⟨hhead, hlast⟩
    have hleft : trimLeft s = s := by
      refine List.dropWhile_eq_self_iff.2 fun hpos => ?_
      obtain ⟨c, rest, rfl⟩ := List.exists_cons_of_length_pos hpos
      simp [hhead c rfl]
    rw [Trimmed, trim, hleft, trimRight_eq_rdropWhile, List.rdropWhile_eq_self_iff]
    intro hne
    simp [hlast _ (List.getLast?_eq_some_getLast hne)]

/-- Trimming gives a trimmed text. -/
theorem trimmed_trim (s : Text) : Trimmed (trim s) := by
  have hlast : (trim s).rdropWhile isBlank = trim s := by
    rw [trim, trimRight_eq_rdropWhile, List.rdropWhile_idempotent]
  rw [trimmed_iff]
  constructor
  · intro c hc
    -- The first character that is kept is the first one of the text without its
    -- leading blanks: trimming on the right leaves a prefix of that text.
    have hpre : trim s <+: trimLeft s := by
      rw [trim, trimRight_eq_rdropWhile]
      exact List.rdropWhile_prefix _ _
    obtain ⟨more, hmore⟩ := hpre
    have hhead : (trimLeft s).head? = some c := by
      rw [← hmore, List.head?_append, hc, Option.some_or]
    have := List.head?_dropWhile_not isBlank s
    rw [trimLeft] at hhead
    simpa [hhead] using this
  · intro c hc
    have hne : trim s ≠ [] := by intro h; simp [h] at hc
    rw [List.getLast?_eq_some_getLast hne, Option.some.injEq] at hc
    rw [List.rdropWhile_eq_self_iff] at hlast
    simpa [hc] using hlast hne

@[simp]
theorem trim_trim (s : Text) : trim (trim s) = trim s :=
  trimmed_trim s

/-- Between two trimmed texts that are not empty anything may stand. -/
theorem Trimmed.append_append (hs : Trimmed s) (ht : Trimmed t) (hs₀ : s ≠ []) (ht₀ : t ≠ [])
    (middle : Text) : Trimmed (s ++ middle ++ t) := by
  rw [trimmed_iff] at hs ht ⊢
  obtain ⟨c, s, rfl⟩ := List.exists_cons_of_ne_nil hs₀
  refine ⟨fun d hd => hs.1 d (by simpa using hd), fun d hd => ht.2 d ?_⟩
  rwa [List.getLast?_append_of_ne_nil _ ht₀] at hd

theorem Trimmed.append (hs : Trimmed s) (ht : Trimmed t) (hs₀ : s ≠ []) (ht₀ : t ≠ []) :
    Trimmed (s ++ t) := by
  simpa using hs.append_append ht hs₀ ht₀ []

theorem Trimmed.trimLeft_append (hs : Trimmed s) (hne : s ≠ []) (t : Text) :
    trimLeft (s ++ t) = s ++ t := by
  have hhead := (trimmed_iff.1 hs).1
  obtain ⟨c, s, rfl⟩ := List.exists_cons_of_ne_nil hne
  exact List.dropWhile_cons_of_neg (by simp [hhead c rfl])

/-- Behind a trimmed text that is not empty, blanks are trimmed at the end
    only. -/
theorem Trimmed.trim_append_eq (hs : Trimmed s) (hne : s ≠ []) (t : Text) :
    trim (s ++ t) = s ++ trimRight t := by
  rw [trim, hs.trimLeft_append hne]
  induction t using List.reverseRecOn with
  | nil =>
    have hleft := hs.trimLeft_append hne []
    rw [List.append_nil] at hleft
    rw [List.append_nil, trimRight, List.append_nil]
    conv_rhs => rw [← hs, trim, hleft]
  | append_singleton t c ih =>
    -- A blank at the end is dropped on both sides, any other character kept.
    rw [← List.append_assoc]
    by_cases hc : isBlank c = true
    · rw [trimRight_append_of_isBlank hc, trimRight_append_of_isBlank hc, ih]
    · have hc : isBlank c = false := by simpa using hc
      rw [trimRight_append_of_not_isBlank hc, trimRight_append_of_not_isBlank hc,
        List.append_assoc]

/-- As long as something is kept at the end of a text, so is all that stands in
    front of it. -/
theorem trimRight_append (h : trimRight t ≠ []) (s : Text) :
    trimRight (s ++ t) = s ++ trimRight t := by
  induction s with
  | nil => rfl
  | cons c s ih =>
    obtain ⟨d, kept, hkept⟩ := List.exists_cons_of_ne_nil h
    rw [List.cons_append, trimRight, ih, hkept]
    cases s <;> rfl

/-- A trimmed text that is not empty keeps the blanks on either side of it apart. -/
theorem Trimmed.trim_append_append (ht : Trimmed t) (hne : t ≠ []) (s u : Text) :
    trim (s ++ (t ++ u)) = trimLeft s ++ (t ++ trimRight u) := by
  have hright : trimRight (t ++ u) = t ++ trimRight u := by
    rw [← ht.trim_append_eq hne, trim, ht.trimLeft_append hne]
  have hleft : trimLeft (s ++ (t ++ u)) = trimLeft s ++ (t ++ u) := by
    rw [trimLeft, List.dropWhile_append, ← trimLeft, ← trimLeft]
    split
    · next hnil => rw [List.isEmpty_iff.1 hnil, ht.trimLeft_append hne, List.nil_append]
    · rfl
  rw [trim, hleft, trimRight_append (by rw [hright]; simp [hne]), hright]

/-- A text without its leading blanks is the trimmed one and more blanks. -/
theorem exists_trimLeft_eq (s : Text) :
    ∃ after, trimLeft s = trim s ++ after ∧ ∀ c ∈ after, isBlank c = true := by
  refine ⟨(trimLeft s).rtakeWhile isBlank, ?_, fun c hc => List.mem_rtakeWhile_imp hc⟩
  rw [trim, trimRight_eq_rdropWhile, List.rdropWhile_append_rtakeWhile]

/-- A text without its trailing blanks is the trimmed one behind more blanks, or
    nothing is left of it. -/
theorem exists_trimRight_eq (h : trim s ≠ []) :
    ∃ before, trimRight s = before ++ trim s ∧ ∀ c ∈ before, isBlank c = true := by
  refine ⟨s.takeWhile isBlank, ?_, fun c hc => List.mem_takeWhile_imp hc⟩
  conv_lhs => rw [← List.takeWhile_append_dropWhile (p := isBlank) (l := s)]
  exact trimRight_append h _

/-- A text of characters that are no blanks is trimmed. -/
theorem trimmed_of_forall (h : ∀ c ∈ s, isBlank c = false) : Trimmed s :=
  trimmed_iff.2 ⟨fun c hc => h c (List.mem_of_mem_head? hc),
    fun c hc => h c (List.mem_of_getLast? hc)⟩

/-- A leading blank is trimmed away. -/
theorem trim_cons_of_isBlank (hc : isBlank c = true) (s : Text) : trim (c :: s) = trim s := by
  rw [trim, trimLeft, List.dropWhile_cons_of_pos hc, trim, trimLeft]

/-- Leading blanks are trimmed away. -/
theorem trim_append_of_forall (h : ∀ c ∈ s, isBlank c = true) (t : Text) :
    trim (s ++ t) = trim t := by
  induction s with
  | nil => rfl
  | cons c s ih =>
    rw [List.forall_mem_cons] at h
    rw [List.cons_append, trim_cons_of_isBlank h.1, ih h.2]

/-- A trailing blank is trimmed away. -/
theorem trim_append_singleton_of_isBlank (hc : isBlank c = true) (s : Text) :
    trim (s ++ [c]) = trim s := by
  induction s with
  | nil => exact trim_cons_of_isBlank hc []
  | cons d s ih =>
    by_cases hd : isBlank d = true
    · rw [List.cons_append, trim_cons_of_isBlank hd, ih, trim_cons_of_isBlank hd]
    · -- Nothing is dropped on the left.
      have hleft (t : Text) : trimLeft (d :: t) = d :: t := List.dropWhile_cons_of_neg hd
      rw [List.cons_append, trim, trim, hleft, hleft, ← List.cons_append,
        trimRight_append_of_isBlank hc]

/-- Trailing blanks are trimmed away. -/
theorem trim_append_right_of_forall (h : ∀ c ∈ t, isBlank c = true) (s : Text) :
    trim (s ++ t) = trim s := by
  induction t using List.reverseRecOn with
  | nil => rw [List.append_nil]
  | append_singleton t c ih =>
    rw [List.forall_mem_append, List.forall_mem_singleton] at h
    rw [← List.append_assoc, trim_append_singleton_of_isBlank h.2, ih h.1]

theorem Trimmed.trim_append (hs : Trimmed s) (hc : isBlank c = true) : trim (s ++ [c]) = s :=
  (trim_append_singleton_of_isBlank hc s).trans hs

/-- A leading blank is trimmed away from a trimmed text. -/
theorem Trimmed.trim_cons (hs : Trimmed s) (hc : isBlank c = true) : trim (c :: s) = s := by
  rw [trim_cons_of_isBlank hc, hs]

/-- A text is what is left of it, between blanks. -/
theorem exists_eq_append_trim (s : Text) : ∃ before after, s = before ++ trim s ++ after ∧
    (∀ c ∈ before, isBlank c = true) ∧ ∀ c ∈ after, isBlank c = true := by
  obtain ⟨after, hafter, hblank⟩ := exists_trimLeft_eq s
  refine ⟨s.takeWhile isBlank, after, ?_, fun c hc => List.mem_takeWhile_imp hc, hblank⟩
  rw [List.append_assoc, ← hafter, trimLeft, List.takeWhile_append_dropWhile]

/-- Nothing is left just of blanks. -/
theorem trim_eq_nil_iff : trim s = [] ↔ ∀ c ∈ s, isBlank c = true := by
  constructor
  · intro h c hc
    obtain ⟨before, after, hs, hbefore, hafter⟩ := exists_eq_append_trim s
    rw [hs, h, List.append_nil, List.mem_append] at hc
    exact hc.elim (hbefore c) (hafter c)
  · intro h
    have hs := trim_append_of_forall h []
    rwa [List.append_nil] at hs

/-! ## Halves -/

theorem Halves.isWhole_of_forall (h : Halves) (hs : ∀ c ∈ s, isBlank c = true) :
    h.isWhole s = true := by
  rw [Halves.isWhole, List.all_eq_true]
  intro c hc
  cases hhalf : h.isHalf c with
  | false => rfl
  | true => exact absurd ((hs c hc).symm.trans (h.plain c hhalf).1) (by decide)

/-- Trimming takes no half out of a text. -/
theorem Halves.isWhole_trim (h : Halves) (s : Text) : h.isWhole (trim s) = h.isWhole s := by
  obtain ⟨before, after, hs, hbefore, hafter⟩ := exists_eq_append_trim s
  have hb := h.isWhole_of_forall hbefore
  have ha := h.isWhole_of_forall hafter
  rw [Halves.isWhole] at hb ha
  conv_rhs => rw [hs, Halves.isWhole, List.all_append, List.all_append, hb, ha]
  rw [Halves.isWhole, Bool.true_and, Bool.and_true]

end FlowScript.Text
