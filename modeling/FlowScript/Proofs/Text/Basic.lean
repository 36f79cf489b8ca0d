import FlowScript.Text.Basic
import Mathlib.Algebra.GroupWithZero.Nat

/-!
# Joining, cutting and replacing

What the small operations on texts do, each by an equation that later proofs
use in the place of the definition: joining part by part, cutting at the first
occurrence of a mark (`cut?_append`, `eq_append_of_cut?`), replacing one
character, and the decimal text of a number, from which the number can be read
off again (`ofNat_injective`).
-/

namespace FlowScript.Text

/-! ## Joining -/

section Join

variable {sep s t : Text} {parts more : List Text} {c : Char}

@[simp]
theorem join_nil : join sep [] = [] := by
  simp [join]

@[simp]
theorem join_singleton : join sep [s] = s := by
  simp [join]

theorem join_cons_cons : join sep (s :: t :: parts) = s ++ sep ++ join sep (t :: parts) :=
  List.intercalate_cons_cons

theorem join_cons (h : parts ≠ []) : join sep (s :: parts) = s ++ sep ++ join sep parts := by
  obtain ⟨t, rest, rfl⟩ := List.exists_cons_of_ne_nil h
  exact join_cons_cons

/-- Between two lists that are joined after one another stands a separator. -/
theorem join_append (hp : parts ≠ []) (hm : more ≠ []) :
    join sep (parts ++ more) = join sep parts ++ sep ++ join sep more := by
  induction parts with
  | nil => exact absurd rfl hp
  | cons s parts ih =>
    -- A separator follows `s` in both texts, but if nothing else is in the first
    -- list it is the one between the lists.
    cases parts with
    | nil => rw [join_singleton]; exact join_cons hm
    | cons t parts =>
      rw [List.cons_append, List.cons_append, join_cons_cons, join_cons_cons, ← List.cons_append,
        ih (List.cons_ne_nil _ _)]
      simp only [List.append_assoc]

/-- What is joined is made of the parts and the separator. -/
theorem mem_of_mem_join (h : c ∈ join sep parts) : c ∈ sep ∨ ∃ s ∈ parts, c ∈ s := by
  induction parts with
  | nil => simp at h
  | cons s parts ih =>
    cases parts with
    | nil => exact .inr ⟨s, by simp, by simpa using h⟩
    | cons t parts =>
      rw [join_cons_cons, List.append_assoc, List.mem_append, List.mem_append] at h
      rcases h with h | h | h
      · exact .inr ⟨s, by simp, h⟩
      · exact .inl h
      · exact (ih h).imp_right fun ⟨u, hu, hc⟩ => ⟨u, List.mem_cons_of_mem _ hu, hc⟩

/-- Every part lies in one piece in what is joined. -/
theorem infix_join (h : s ∈ parts) : s <:+: join sep parts := by
  induction parts with
  | nil => cases h
  | cons t parts ih =>
    rcases List.mem_cons.1 h with rfl | h
    · cases parts with
      | nil => exact join_singleton.symm ▸ List.infix_rfl
      | cons u parts =>
        rw [join_cons_cons, List.append_assoc]
        exact (List.prefix_append _ _).isInfix
    · rw [join_cons (List.ne_nil_of_mem h)]
      exact (ih h).trans (List.suffix_append _ _).isInfix

/-- The length of what is joined: the parts, and a separator less than there
    are parts. -/
theorem length_join_le : (join sep parts).length ≤
    (parts.map fun s => s.length + sep.length).sum := by
  induction parts with
  | nil => simp
  | cons s parts ih =>
    cases parts with
    | nil => simp
    | cons t parts =>
      rw [join_cons_cons, List.map_cons, List.sum_cons]
      simp only [List.length_append]
      omega

end Join

/-- A character in front of the first part belongs to that part. -/
theorem forall_mem_consFirst {p : Text → Prop} {c : Char} {parts : List Text} (hnil : p [c])
    (hcons : ∀ s ∈ parts, p s → p (c :: s)) (h : ∀ s ∈ parts, p s) :
    ∀ s ∈ consFirst c parts, p s := by
  cases parts with
  | nil => simpa [consFirst] using hnil
  | cons t parts =>
    rw [consFirst, List.forall_mem_cons]
    exact ⟨hcons t List.mem_cons_self (h t List.mem_cons_self),
      fun s hs => h s (List.mem_cons_of_mem _ hs)⟩

theorem consFirst_append {parts : List Text} (h : parts ≠ []) (c : Char) (more : List Text) :
    consFirst c (parts ++ more) = consFirst c parts ++ more := by
  obtain ⟨part, parts, rfl⟩ := List.exists_cons_of_ne_nil h
  rfl

/-! ## Cutting -/

section Cut

variable {mark : Char} {s before after : Text}

/-- The first occurrence is the one that nothing in front of it matches. -/
theorem cut?_append (h : mark ∉ before) :
    cut? mark (before ++ mark :: after) = some (before, after) := by
  induction before with
  | nil => simp [cut?]
  | cons c before ih =>
    rw [List.mem_cons, not_or] at h
    simp [cut?, Ne.symm h.1, ih h.2]

/-- A text is not cut iff the mark does not occur. -/
theorem cut?_eq_none_iff : cut? mark s = none ↔ mark ∉ s := by
  induction s with
  | nil => simp [cut?]
  | cons c s ih =>
    rw [cut?, List.mem_cons, not_or]
    split
    · next heq => simp [heq]
    · next hne => simp [ih, Ne.symm hne]

/-- The last occurrence is the one that nothing behind it matches. -/
theorem cutLast?_append (h : mark ∉ after) :
    cutLast? mark (before ++ mark :: after) = some (before, after) := by
  have hrev : mark ∉ after.reverse := fun hmem => h (List.mem_reverse.1 hmem)
  rw [cutLast?, List.reverse_append, List.reverse_cons, List.append_assoc, List.singleton_append,
    cut?_append hrev]
  simp

theorem eq_append_of_cut? (h : cut? mark s = some (before, after)) :
    s = before ++ mark :: after ∧ mark ∉ before := by
  induction s generalizing before with
  | nil => cases h
  | cons c s ih =>
    by_cases hc : c = mark
    · -- The mark comes first, so nothing is in front of it.
      subst hc
      simp only [cut?, if_true, Option.some.injEq, Prod.mk.injEq] at h
      obtain ⟨rfl, rfl⟩ := h
      exact ⟨rfl, List.not_mem_nil⟩
    · simp only [cut?, if_neg hc, Option.map_eq_some_iff, Prod.mk.injEq] at h
      obtain ⟨⟨b, a⟩, hcut, rfl, rfl⟩ := h
      obtain ⟨rfl, hb⟩ := ih hcut
      exact ⟨rfl, by simp [hb, Ne.symm hc]⟩

end Cut

/-! ## Replacing -/

/-- Where the character does not occur nothing is replaced. -/
theorem replace_of_not_mem {old : Char} {new s : Text} (h : old ∉ s) : replace old new s = s := by
  induction s with
  | nil => rfl
  | cons c s ih =>
    rw [List.mem_cons, not_or] at h
    have ih : s.flatMap (fun c => if c = old then new else [c]) = s := ih h.2
    rw [replace, List.flatMap_cons, ih, if_neg (Ne.symm h.1), List.singleton_append]

/-- A character of the outcome is one that was not replaced, or a new one. -/
theorem mem_of_mem_replace {old c : Char} {new s : Text} (h : c ∈ replace old new s) :
    (c ∈ s ∧ c ≠ old) ∨ c ∈ new := by
  obtain ⟨d, hd, hc⟩ := List.mem_flatMap.1 h
  by_cases hold : d = old
  · rw [if_pos hold] at hc
    exact .inr hc
  · rw [if_neg hold, List.mem_singleton] at hc
    exact .inl ⟨hc ▸ hd, hc ▸ hold⟩

/-- What is not replaced is still there. -/
theorem mem_replace_of_mem {old c : Char} {new s : Text} (h : c ∈ s) (hc : c ≠ old) :
    c ∈ replace old new s :=
  List.mem_flatMap.2 ⟨c, h, by rw [if_neg hc]; exact List.mem_singleton_self c⟩

/-! ## Decimal numbers -/

/-- Different numbers have different decimal texts. -/
theorem ofNat_injective {m n : Nat} (h : ofNat m = ofNat n) : m = n := by
  rw [← Nat.ofDigitChars_ten_toDigits (n := m), ← Nat.ofDigitChars_ten_toDigits (n := n)]
  exact congrArg (Nat.ofDigitChars 10 · 0) h

end FlowScript.Text
