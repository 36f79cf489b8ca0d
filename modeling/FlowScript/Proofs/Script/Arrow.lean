import FlowScript.Proofs.Text.Line
import FlowScript.Script.Arrow

/-!
# Arrows and the segments between them

Splitting a text at its arrows, by equations on its first character, and what
follows from them.

* `not_occursIn_of_mem_split`: no arrow is left in a segment;
* `Stands.split_append_append`: an arrow divides the segments of a text into those
  in front of it and those behind;
* `opens_iff`, `closes_iff`: an arrow stands at the start of a text, or at its end;
* `occursIn_append_cons`: a character that is no part of an arrow keeps arrows
  from forming across it;
* `occursIn_eq_any_inkedTexts`: an arrow of a text is one of an inked line.
-/

namespace FlowScript.Arrow

variable {s t seg : Text} {c : Char}

/-! ## Where arrows occur -/

/-- An arrow starts at the first character, or it occurs after that. -/
theorem occursIn_cons (c : Char) (s : Text) :
    occursIn (c :: s) = (c == '→' || (c == '-' && s.head? == some '>') || occursIn s) := by
  by_cases hu : c = '→'
  · subst hu; rfl
  · by_cases hd : c = '-'
    · subst hd
      cases s with
      | nil => rfl
      | cons d s =>
        by_cases ht : d = '>'
        · subst ht; rfl
        · rw [occursIn.eq_4 '-' (d :: s) (by decide) (by simpa using ht)]
          simp [ht]
    · rw [occursIn.eq_4 c s hu (by simp [hd])]
      simp [hu, hd]

theorem occursIn_append_left (h : occursIn s = true) (t : Text) : occursIn (s ++ t) = true := by
  induction s with
  | nil => cases h
  | cons c s ih =>
    rw [List.cons_append, occursIn_cons, Bool.or_eq_true]
    rw [occursIn_cons, Bool.or_eq_true] at h
    refine h.imp (fun h => ?_) ih
    cases s with
    | nil =>
      have hu : c = '→' := by simpa using h
      simp [hu]
    | cons d s => exact h

theorem occursIn_append_right (s : Text) (h : occursIn t = true) : occursIn (s ++ t) = true := by
  induction s with
  | nil => exact h
  | cons c s ih => rw [List.cons_append, occursIn_cons, ih, Bool.or_true]

/-- What lies in one piece in a text without arrows has none either. -/
theorem not_occursIn_of_infix (hst : s <:+: t) (h : occursIn t = false) : occursIn s = false := by
  obtain ⟨before, after, rfl⟩ := hst
  refine Bool.eq_false_iff.2 fun hs => ?_
  -- An arrow in the piece would be one in the whole.
  rw [occursIn_append_left (occursIn_append_right before hs) after] at h
  cases h

/-- A character that is no part of an arrow keeps arrows from forming across
    it. -/
theorem occursIn_append_cons (hd : c ≠ '-') (ht : c ≠ '>') (hu : c ≠ '→') :
    occursIn (s ++ c :: t) = (occursIn s || occursIn t) := by
  induction s with
  | nil => simp [occursIn_cons, hd, hu, occursIn]
  | cons d s ih =>
    rw [List.cons_append, occursIn_cons, ih, occursIn_cons d s]
    cases s with
    | nil =>
      have ht : (c == '>') = false := by simpa using ht
      simp [ht, occursIn]
    | cons e s => simp [Bool.or_assoc]

/-- Where no character can be part of an arrow there is none. -/
theorem not_occursIn_of_forall (h : ∀ c ∈ s, c ≠ '-' ∧ c ≠ '→') : occursIn s = false := by
  induction s with
  | nil => rfl
  | cons c s ih =>
    rw [List.forall_mem_cons] at h
    simp [occursIn_cons, h.1, ih h.2]

theorem isTail_of_isBlank (h : ∀ c ∈ s, Text.isBlank c = true) : isTail s = false := by
  cases s with
  | nil => rfl
  | cons c s =>
    rw [List.forall_mem_cons] at h
    exact isTail.eq_3 _ (by simp [Text.ne_of_isBlank h.1 (by decide : Text.isBlank '>' = false)])
      (by simp [Text.ne_of_isBlank h.1 (by decide : Text.isBlank '-' = false)])

/-- Blanks in front of a text are no part of an arrow. -/
theorem occursIn_append_of_isBlank (h : ∀ c ∈ s, Text.isBlank c = true) (t : Text) :
    occursIn (s ++ t) = occursIn t := by
  induction s with
  | nil => rfl
  | cons c s ih =>
    rw [List.forall_mem_cons] at h
    have hd : c ≠ '-' := Text.ne_of_isBlank h.1 (by decide)
    have hu : c ≠ '→' := Text.ne_of_isBlank h.1 (by decide)
    simp [occursIn_cons, hd, hu, ih h.2]

theorem not_occursIn_of_cons (h : occursIn (c :: s) = false) : occursIn s = false := by
  rw [occursIn_cons, Bool.or_eq_false_iff] at h
  exact h.2

/-- Dashes, or none, and a tip behind a dash are an arrow. -/
theorem occursIn_of_isTail (h : isTail s = true) : occursIn ('-' :: s) = true := by
  induction s using isTail.induct with
  | case1 rest => simp [occursIn_cons]
  | case2 rest ih => rw [occursIn_cons, ih (by simpa [isTail] using h), Bool.or_true]
  | case3 s hgt hdash => simp [isTail.eq_3 s hgt hdash] at h

/-- What follows a dash and other characters completes no arrow with them unless
    they end in a dash and it does so with that dash alone. -/
theorem isTail_append (h : ('-' :: s).getLast? = some '-' → isTail t = false) :
    isTail (s ++ t) = isTail s := by
  induction s using isTail.induct with
  | case1 rest => rfl
  | case2 rest ih => exact ih (by simpa using h)
  | case3 s hgt hdash =>
    rw [isTail.eq_3 s hgt hdash]
    cases s with
    | nil => exact h rfl
    | cons c s =>
      refine isTail.eq_3 _ (fun r hr => ?_) fun r hr => ?_
      · exact hgt s (by rw [(List.cons.inj hr).1])
      · exact hdash s (by rw [(List.cons.inj hr).1])

/-- Blanks behind a text are no part of an arrow. -/
theorem occursIn_append_right_of_isBlank (h : ∀ c ∈ t, Text.isBlank c = true) (s : Text) :
    occursIn (s ++ t) = occursIn s := by
  cases t with
  | nil => rw [List.append_nil]
  | cons c t =>
    rw [List.forall_mem_cons] at h
    have hne {d : Char} (hd : Text.isBlank d = false) : c ≠ d := Text.ne_of_isBlank h.1 hd
    rw [occursIn_append_cons (hne (by decide)) (hne (by decide)) (hne (by decide)),
      ← List.append_nil t, occursIn_append_of_isBlank h.2]
    exact Bool.or_false _

/-- Trimming takes nothing from an arrow. -/
theorem occursIn_trim (s : Text) : occursIn (Text.trim s) = occursIn s := by
  obtain ⟨before, after, hs, hbefore, hafter⟩ := Text.exists_eq_append_trim s
  conv_rhs =>
    rw [hs, occursIn_append_right_of_isBlank hafter, occursIn_append_of_isBlank hbefore]

/-- No arrow goes over a line end. -/
theorem occursIn_eq_any_inkedTexts (s : Text) :
    occursIn s = (Text.inkedTexts s).any occursIn := by
  have hline : ∀ line, Text.Unbroken line →
      occursIn line = (Text.inkedTexts line).any occursIn := by
    intro line h
    rw [Text.inkedTexts_of_unbroken h, ← occursIn_trim]
    by_cases hnil : Text.trim line = []
    · rw [Text.inkOf_singleton_of_eq_nil hnil, hnil]
      rfl
    · rw [Text.inkOf_singleton_of_ne_nil hnil]
      exact (Bool.or_false _).symm
  induction s using Text.line_induction with
  | hline line h => exact hline line h
  | hbreak line c t h hc ih =>
    have hne {d : Char} (hd : Text.isBlank d = false) : c ≠ d :=
      Text.ne_of_isBlank (Text.isBlank_of_isBreak hc) hd
    rw [occursIn_append_cons (hne (by decide)) (hne (by decide)) (hne (by decide)),
      Text.inkedTexts_append_break hc, List.any_append, hline line h]
    exact congrArg _ ih

/-! ## Segments -/

theorem split_arrow (s : Text) : split ('→' :: s) = [] :: split s := rfl

theorem split_dash_tip (s : Text) : split ('-' :: '>' :: s) = [] :: split s := rfl

theorem split_of_isTail (hne : ∀ r, s = '>' :: r → False) (h : isTail s = true) :
    split ('-' :: s) = split s := by
  rw [split.eq_4 s hne, if_pos h]

theorem split_dash (h : isTail s = false) : split ('-' :: s) = Text.consFirst '-' (split s) := by
  rw [split.eq_4 s (by rintro _ rfl; cases h), h]
  rfl

theorem split_cons (hd : c ≠ '-') (hu : c ≠ '→') :
    split (c :: s) = Text.consFirst c (split s) :=
  split.eq_5 c s hu (by simp [hd]) (by simpa using hd)

/-- A dash that is part of an arrow of `s` is so too in a text that begins with
    `s`. -/
theorem split_append_of_isTail (hne : ∀ r, s = '>' :: r → False) (h : isTail s = true)
    (ht : isTail (s ++ t) = isTail s) : split ('-' :: (s ++ t)) = split (s ++ t) := by
  refine split_of_isTail (fun r hr => ?_) (ht.trans h)
  cases s with
  | nil => cases h
  | cons c s => exact hne s (by rw [(List.cons.inj hr).1])

/-- There is always a first segment. -/
theorem split_ne_nil (s : Text) : split s ≠ [] := by
  have hcons (c : Char) (segs : List Text) : Text.consFirst c segs ≠ [] := by
    cases segs <;> simp [Text.consFirst]
  induction s using split.induct with
  | case1 => simp [split]
  | case2 rest _ => simp [split_arrow]
  | case3 rest _ => simp [split_dash_tip]
  | case4 rest hne htail ih => rwa [split_of_isTail hne htail]
  | case5 rest hne htail _ =>
    rw [split_dash (Bool.eq_false_iff.2 htail)]
    exact hcons '-' _
  | case6 c rest hu htip hd _ =>
    rw [split_cons (by simpa using hd) hu]
    exact hcons c _

/-- The first segment starts with a tip only if the text does. -/
theorem head?_of_split {segs : List Text} (h : split s = seg :: segs)
    (ht : seg.head? = some '>') : s.head? = some '>' := by
  induction s using split.induct generalizing seg segs with
  | case1 =>
    obtain ⟨rfl, -⟩ := List.cons.inj h
    cases ht
  | case2 rest _ =>
    obtain ⟨rfl, -⟩ := List.cons.inj h
    cases ht
  | case3 rest _ =>
    obtain ⟨rfl, -⟩ := List.cons.inj h
    cases ht
  | case4 rest hne htail ih =>
    -- An arrow of more dashes, before which the first segment is empty.
    rw [split_of_isTail hne htail] at h
    obtain ⟨r, rfl⟩ := List.head?_eq_some_iff.1 (ih h ht)
    exact absurd rfl (hne r)
  | case5 rest hne htail _ =>
    rw [split_dash (Bool.eq_false_iff.2 htail)] at h
    cases hs : split rest <;> rw [hs, Text.consFirst] at h <;>
      obtain ⟨rfl, -⟩ := List.cons.inj h <;> simp at ht
  | case6 c rest hu htip hd _ =>
    rw [split_cons (by simpa using hd) hu] at h
    cases hs : split rest <;> rw [hs, Text.consFirst] at h <;>
      obtain ⟨rfl, -⟩ := List.cons.inj h <;> simpa using ht

/-- No arrow is left in a segment. -/
theorem not_occursIn_of_mem_split : ∀ seg ∈ split s, occursIn seg = false := by
  induction s using split.induct with
  | case1 => simp [split, occursIn]
  | case2 rest ih =>
    rw [split_arrow, List.forall_mem_cons]
    exact ⟨rfl, ih⟩
  | case3 rest ih =>
    rw [split_dash_tip, List.forall_mem_cons]
    exact ⟨rfl, ih⟩
  | case4 rest hne htail ih => rwa [split_of_isTail hne htail]
  | case5 rest hne htail ih =>
    rw [split_dash (Bool.eq_false_iff.2 htail)]
    cases hs : split rest with
    | nil => simp [Text.consFirst, occursIn]
    | cons seg segs =>
      rw [hs] at ih
      rw [Text.consFirst, List.forall_mem_cons]
      refine ⟨?_, fun t ht => ih t (List.mem_cons_of_mem _ ht)⟩
      -- The dash is no arrow with the segment, which does not start with a tip.
      have htip : seg.head? ≠ some '>' := by
        intro htip
        obtain ⟨r, rfl⟩ := List.head?_eq_some_iff.1 (head?_of_split hs htip)
        exact hne r rfl
      simp [occursIn_cons, htip, ih seg List.mem_cons_self]
  | case6 c rest hu htip hd ih =>
    have hd : c ≠ '-' := by simpa using hd
    rw [split_cons hd hu]
    refine Text.forall_mem_consFirst ?_ (fun seg _ hseg => ?_) ih
    · simp [occursIn_cons, occursIn]
      exact hu
    · rw [occursIn_cons, hseg]
      simp [hd]
      exact hu

/-- A text without arrows is its only segment. -/
theorem split_eq_singleton (h : occursIn s = false) : split s = [s] := by
  induction s using split.induct with
  | case1 => rfl
  | case2 rest _ => simp [occursIn_cons] at h
  | case3 rest _ => simp [occursIn_cons] at h
  | case4 rest hne htail _ => simp [occursIn_of_isTail htail] at h
  | case5 rest hne htail ih =>
    rw [split_dash (Bool.eq_false_iff.2 htail), ih (not_occursIn_of_cons h)]
    rfl
  | case6 c rest hu htip hd ih =>
    rw [split_cons (by simpa using hd) hu, ih (not_occursIn_of_cons h)]
    rfl

/-- Before an arrow the segments of a text end, if no dash of the text is part of
    that arrow. -/
theorem split_append {segs : List Text} (ht : split t = [] :: segs)
    (h : s.getLast? = some '-' → isTail t = false) : split (s ++ t) = split s ++ segs := by
  have hlast {c : Char} {s : Text} (h : (c :: s).getLast? = some '-' → isTail t = false) :
      s.getLast? = some '-' → isTail t = false :=
    fun hs => h (by rw [List.getLast?_cons, hs]; rfl)
  induction s using split.induct with
  | case1 => exact ht
  | case2 rest ih => exact congrArg ([] :: ·) (ih (hlast h))
  | case3 rest ih => exact congrArg ([] :: ·) (ih (hlast (hlast h)))
  | case4 rest hne htail ih =>
    rw [List.cons_append, split_append_of_isTail hne htail (isTail_append h),
      split_of_isTail hne htail, ih (hlast h)]
  | case5 rest hne htail ih =>
    -- The dash is part of no arrow, neither of one in `s` nor of the one behind it.
    have htail : isTail rest = false := Bool.eq_false_iff.2 htail
    have htail' : isTail (rest ++ t) = false := by rw [isTail_append h, htail]
    rw [List.cons_append, split_dash htail', split_dash htail, ih (hlast h),
      Text.consFirst_append (split_ne_nil rest)]
  | case6 c rest hu htip hd ih =>
    have hd : c ≠ '-' := by simpa using hd
    rw [List.cons_append, split_cons hd hu, split_cons hd hu, ih (hlast h),
      Text.consFirst_append (split_ne_nil rest)]

/-- A character that is no part of an arrow belongs to the last segment of the
    text that it follows. -/
theorem split_append_singleton (hd : c ≠ '-') (ht : c ≠ '>') (hu : c ≠ '→') (s : Text) :
    ∃ segs seg, split s = segs ++ [seg] ∧ split (s ++ [c]) = segs ++ [seg ++ [c]] := by
  have htail (s : Text) : isTail (s ++ [c]) = isTail s :=
    isTail_append fun _ => isTail.eq_3 _ (by simp [ht]) (by simp [hd])
  have hcons (d : Char) (segs : List Text) (seg : Text) :
      ∃ segs' seg', Text.consFirst d (segs ++ [seg]) = segs' ++ [seg'] ∧
        Text.consFirst d (segs ++ [seg ++ [c]]) = segs' ++ [seg' ++ [c]] := by
    cases segs with
    | nil => exact ⟨[], d :: seg, rfl, rfl⟩
    | cons first segs => exact ⟨(d :: first) :: segs, seg, rfl, rfl⟩
  induction s using split.induct with
  | case1 => exact ⟨[], [], rfl, by rw [List.nil_append, split_cons hd hu]; rfl⟩
  | case2 rest ih =>
    obtain ⟨segs, seg, hs, hsc⟩ := ih
    exact ⟨[] :: segs, seg, congrArg ([] :: ·) hs, congrArg ([] :: ·) hsc⟩
  | case3 rest ih =>
    obtain ⟨segs, seg, hs, hsc⟩ := ih
    exact ⟨[] :: segs, seg, congrArg ([] :: ·) hs, congrArg ([] :: ·) hsc⟩
  | case4 rest hne htail' ih =>
    obtain ⟨segs, seg, hs, hsc⟩ := ih
    rw [List.cons_append, split_append_of_isTail hne htail' (htail rest),
      split_of_isTail hne htail', hs, hsc]
    exact ⟨segs, seg, rfl, rfl⟩
  | case5 rest hne htail' ih =>
    obtain ⟨segs, seg, hs, hsc⟩ := ih
    have htail' : isTail rest = false := Bool.eq_false_iff.2 htail'
    rw [List.cons_append, split_dash htail', split_dash ((htail rest).trans htail'), hs, hsc]
    exact hcons '-' segs seg
  | case6 d rest hu' htip hd' ih =>
    obtain ⟨segs, seg, hs, hsc⟩ := ih
    have hd' : d ≠ '-' := by simpa using hd'
    rw [List.cons_append, split_cons hd' hu', split_cons hd' hu', hs, hsc]
    exact hcons d segs seg

/-- A text without arrows that does not end in a dash is the first segment of
    the text in which a dashed arrow follows it. -/
theorem split_append_arrow (h : occursIn s = false) (hlast : s.getLast? ≠ some '-') :
    split (s ++ '-' :: '>' :: t) = s :: split t := by
  rw [split_append (split_dash_tip t) fun hs => absurd hs hlast, split_eq_singleton h]
  rfl

/-- The characters of the segments are characters of the text. -/
theorem mem_of_mem_split : ∀ seg ∈ split s, ∀ c ∈ seg, c ∈ s := by
  induction s using split.induct with
  | case1 => simp [split]
  | case2 rest ih =>
    rw [split_arrow, List.forall_mem_cons]
    exact ⟨by simp, fun seg hseg c hc => List.mem_cons_of_mem _ (ih seg hseg c hc)⟩
  | case3 rest ih =>
    rw [split_dash_tip, List.forall_mem_cons]
    exact ⟨by simp, fun seg hseg c hc =>
      List.mem_cons_of_mem _ (List.mem_cons_of_mem _ (ih seg hseg c hc))⟩
  | case4 rest hne htail ih =>
    rw [split_of_isTail hne htail]
    exact fun seg hseg c hc => List.mem_cons_of_mem _ (ih seg hseg c hc)
  | case5 rest hne htail ih =>
    rw [split_dash (Bool.eq_false_iff.2 htail)]
    exact Text.forall_mem_consFirst (by simp)
      (fun seg _ hseg => List.forall_mem_cons.2 ⟨List.mem_cons_self, hseg⟩)
      fun seg hseg c hc => List.mem_cons_of_mem _ (ih seg hseg c hc)
  | case6 c rest hu htip hd ih =>
    rw [split_cons (by simpa using hd) hu]
    exact Text.forall_mem_consFirst (by simp)
      (fun seg _ hseg => List.forall_mem_cons.2 ⟨List.mem_cons_self, hseg⟩)
      fun seg hseg c hc => List.mem_cons_of_mem _ (ih seg hseg c hc)

/-- There are at most as many segments as characters, and one more. -/
theorem length_split_le (s : Text) : (split s).length ≤ s.length + 1 := by
  have hcons (c : Char) (segs : List Text) : (Text.consFirst c segs).length ≤ segs.length + 1 := by
    cases segs <;> simp [Text.consFirst]
  induction s using split.induct with
  | case1 => simp [split]
  | case2 rest ih => simpa [split_arrow] using ih
  | case3 rest ih =>
    rw [split_dash_tip]
    simp only [List.length_cons]
    omega
  | case4 rest hne htail ih =>
    rw [split_of_isTail hne htail, List.length_cons]
    omega
  | case5 rest hne htail ih =>
    rw [split_dash (Bool.eq_false_iff.2 htail), List.length_cons]
    exact Nat.le_trans (hcons _ _) (Nat.succ_le_succ ih)
  | case6 c rest hu htip hd ih =>
    rw [split_cons (by simpa using hd) hu, List.length_cons]
    exact Nat.le_trans (hcons _ _) (Nat.succ_le_succ ih)

/-! ## Arrows at the ends -/

theorem occursIn_of_opens (h : opens s = true) : occursIn s = true := by
  cases s with
  | nil => cases h
  | cons c s =>
    by_cases hu : c = '→'
    · subst hu; rfl
    · by_cases hd : c = '-'
      · subst hd; exact occursIn_of_isTail h
      · rw [opens.eq_3 _ (by simp [hu]) (by simp [hd])] at h
        cases h

theorem occursIn_of_closes (h : closes s = true) : occursIn s = true := by
  rw [closes] at h
  split at h
  · next rest hr =>
    rw [← List.reverse_reverse s, hr, List.reverse_cons]
    exact occursIn_append_right _ rfl
  · next rest hr =>
    rw [← List.reverse_reverse s, hr, List.reverse_cons, List.reverse_cons, List.append_assoc]
    exact occursIn_append_right _ rfl
  · cases h

/-- What follows a text does not change whether it opens with an arrow, if no dash
    of the text is part of an arrow that it completes. -/
theorem opens_append (hs : s ≠ []) (h : s.getLast? = some '-' → isTail t = false) :
    opens (s ++ t) = opens s := by
  obtain ⟨c, s, rfl⟩ := List.exists_cons_of_ne_nil hs
  by_cases hu : c = '→'
  · subst hu; rfl
  · by_cases hd : c = '-'
    · subst hd; exact isTail_append h
    · rw [opens.eq_3 (c :: s) (by simp [hu]) (by simp [hd])]
      exact opens.eq_3 _ (by simp [hu]) (by simp [hd])

/-- An arrow at the start of a text is over before the first space. -/
theorem opens_append_space : opens (s ++ ' ' :: t) = opens s := by
  cases s with
  | nil => rfl
  | cons c s => exact opens_append (List.cons_ne_nil c s) fun _ => rfl

/-- What stands in front of a text does not change whether it closes with an
    arrow, if no dash in front is part of one of which the text is the tip. -/
theorem closes_append (ht : t ≠ []) (h : s.getLast? = some '-' → t ≠ ['>']) :
    closes (s ++ t) = closes t := by
  obtain ⟨c, r, hr⟩ := List.exists_cons_of_ne_nil (List.reverse_ne_nil_iff.2 ht)
  -- Reading backwards, `s` comes after the first two characters, or after the
  -- only one.
  rw [← List.head?_reverse, ← List.reverse_inj.ne, hr] at h
  rw [closes, closes, List.reverse_append, hr]
  cases r with
  | nil => grind
  | cons d r => grind

/-- An arrow at the end of a text starts after the last space. -/
theorem closes_append_space (ht : t ≠ []) : closes (s ++ ' ' :: t) = closes t := by
  rw [List.append_cons]
  exact closes_append ht (by simp)

/-! ## Arrows within a text -/

/-- `arrow` behind `before` is an arrow, with all the dashes that lead up to its
    tip. -/
inductive Stands (before : Text) : Text → Prop
  /-- The character `→` is an arrow wherever it stands. -/
  | short : Stands before ['→']
  /-- Dashes and a tip are an arrow, and no dash stands in front of it. -/
  | dashed (n : Nat) : before.getLast? ≠ some '-' →
      Stands before (List.replicate (n + 1) '-' ++ ['>'])

variable {before after arrow : Text}

theorem isTail_dashes (n : Nat) (t : Text) : isTail (List.replicate n '-' ++ '>' :: t) = true := by
  induction n with
  | zero => rfl
  | succ n ih => exact ih

namespace Stands

/-- Only a dash in front makes a difference to an arrow. -/
theorem of_getLast? (h : Stands before arrow) (hlast : s.getLast? ≠ some '-') :
    Stands s arrow := by
  cases h with
  | short => exact .short
  | dashed n _ => exact .dashed n hlast

theorem nil (h : Stands before arrow) : Stands [] arrow :=
  h.of_getLast? (by simp)

theorem ne_nil (h : Stands before arrow) : arrow ≠ [] := by
  cases h <;> simp

/-- What counts in front of an arrow is there in every end of the text. -/
theorem of_suffix (h : Stands before arrow) (hs : s <:+ before) : Stands s arrow := by
  by_cases hnil : s = []
  · exact hnil ▸ h.nil
  · obtain ⟨rest, rfl⟩ := hs
    cases h with
    | short => exact .short
    | dashed n hlast => exact .dashed n (by rwa [List.getLast?_append_of_ne_nil _ hnil] at hlast)

theorem isBlank_eq_false (h : Stands before arrow) : ∀ c ∈ arrow, Text.isBlank c = false := by
  intro c hc
  cases h with
  | short =>
    obtain rfl := List.mem_singleton.1 hc
    decide
  | dashed n _ =>
    rcases List.mem_append.1 hc with hc | hc
    · obtain rfl := List.eq_of_mem_replicate hc
      decide
    · obtain rfl := List.mem_singleton.1 hc
      decide

theorem trimmed (h : Stands before arrow) : Text.Trimmed arrow :=
  Text.trimmed_of_forall h.isBlank_eq_false

/-- Where an arrow stands there is ink. -/
theorem trim_ne_nil (h : Stands before arrow) (s t : Text) :
    Text.trim (s ++ (arrow ++ t)) ≠ [] := by
  simp [h.trimmed.trim_append_append h.ne_nil, h.ne_nil]

theorem unbroken (h : Stands before arrow) : Text.Unbroken arrow :=
  fun c hc => Bool.eq_false_iff.2 fun hbreak =>
    Bool.eq_false_iff.1 (h.isBlank_eq_false c hc) (Text.isBlank_of_isBreak hbreak)

/-- No dash is at the end of an arrow, nor of blanks behind it. -/
theorem getLast?_append {blanks : Text} (h : Stands before arrow)
    (hb : ∀ c ∈ blanks, Text.isBlank c = true) (s : Text) :
    (s ++ (arrow ++ blanks)).getLast? ≠ some '-' := by
  intro hlast
  rw [List.getLast?_append_of_ne_nil _ (by simp [h.ne_nil])] at hlast
  by_cases hnil : blanks = []
  · subst hnil
    rw [List.append_nil] at hlast
    cases h <;> simp at hlast
  · rw [List.getLast?_append_of_ne_nil _ hnil] at hlast
    exact Text.ne_of_isBlank (hb _ (List.mem_of_getLast? hlast)) (by decide) rfl

/-- An arrow is more than its tip. -/
theorem append_ne_tip (h : Stands before arrow) (after : Text) : arrow ++ after ≠ ['>'] := by
  cases h <;> simp [List.replicate_succ]

theorem isTail_eq_false (h : Stands before arrow) (after : Text) :
    before.getLast? = some '-' → isTail (arrow ++ after) = false := by
  cases h with
  | short => exact fun _ => rfl
  | dashed n hlast => exact fun h => absurd h hlast

theorem opens_append (h : Stands before arrow) (after : Text) : opens (arrow ++ after) = true := by
  cases h with
  | short => rfl
  | dashed n _ =>
    rw [List.append_assoc]
    exact isTail_dashes n after

theorem closes_append (h : Stands before arrow) (s : Text) : closes (s ++ arrow) = true := by
  cases h with
  | short => simp [closes]
  | dashed n _ => simp [closes, List.replicate_succ']

/-- The segment in front of an arrow ends there. -/
theorem split_append (h : Stands before arrow) (after : Text) :
    split (arrow ++ after) = [] :: split after := by
  cases h with
  | short => rfl
  | dashed n _ =>
    induction n with
    | zero => rfl
    | succ n ih =>
      rw [← ih]
      refine split_of_isTail (fun r hr => ?_) ?_
      · simp [List.replicate_succ] at hr
      · have htail := isTail_dashes (n + 1) after
        rw [List.append_cons] at htail
        exact htail

/-- An arrow divides the segments of a text into those in front of it and those
    behind. -/
theorem split_append_append (h : Stands before arrow) (after : Text) :
    split (before ++ (arrow ++ after)) = split before ++ split after :=
  Arrow.split_append (h.split_append after) (h.isTail_eq_false after)

end Stands

/-- Where an arrow goes on there are dashes, or none, and its tip. -/
theorem exists_dashes_of_isTail (h : isTail s = true) :
    ∃ n after, s = List.replicate n '-' ++ '>' :: after := by
  induction s using isTail.induct with
  | case1 after => exact ⟨0, after, rfl⟩
  | case2 rest ih =>
    obtain ⟨n, after, rfl⟩ := ih h
    exact ⟨n + 1, after, rfl⟩
  | case3 s hgt hdash => simp [isTail.eq_3 s hgt hdash] at h

/-- The dashes at the end of a text. -/
theorem exists_dashes (s : Text) :
    ∃ n before, s = before ++ List.replicate n '-' ∧ before.getLast? ≠ some '-' := by
  induction s using List.reverseRecOn with
  | nil => exact ⟨0, [], rfl, by simp⟩
  | append_singleton s c ih =>
    by_cases hc : c = '-'
    · obtain ⟨n, before, rfl, hlast⟩ := ih
      exact ⟨n + 1, before, by rw [hc, List.append_assoc, List.replicate_succ'], hlast⟩
    · exact ⟨0, s ++ [c], by simp, by simpa using hc⟩

/-- A text opens with an arrow iff one stands at its start. -/
theorem opens_iff : opens s = true ↔ ∃ arrow after, s = arrow ++ after ∧ Stands [] arrow := by
  constructor
  · intro h
    cases s with
    | nil => cases h
    | cons c s =>
      by_cases hu : c = '→'
      · exact ⟨['→'], s, by rw [hu]; rfl, .short⟩
      · by_cases hd : c = '-'
        · subst hd
          obtain ⟨n, after, rfl⟩ := exists_dashes_of_isTail h
          exact ⟨_, after, by simp [List.replicate_succ], .dashed n (by simp)⟩
        · rw [opens.eq_3 (c :: s) (by simp [hu]) (by simp [hd])] at h
          cases h
  · rintro ⟨arrow, after, rfl, h⟩
    exact h.opens_append after

/-- A text closes with an arrow iff one stands at its end. -/
theorem closes_iff :
    closes s = true ↔ ∃ before arrow, s = before ++ arrow ∧ Stands before arrow := by
  constructor
  · intro h
    rw [closes] at h
    split at h
    · next rest hr =>
      exact ⟨rest.reverse, ['→'], by rw [← List.reverse_reverse s, hr, List.reverse_cons], .short⟩
    · next rest hr =>
      -- All the dashes in front of the tip belong to the arrow.
      obtain ⟨n, before, hrest, hlast⟩ := exists_dashes rest.reverse
      refine ⟨before, _, ?_, .dashed n hlast⟩
      rw [← List.reverse_reverse s, hr, List.reverse_cons, List.reverse_cons, hrest,
        List.replicate_succ']
      simp only [List.append_assoc]
    · cases h
  · rintro ⟨before, arrow, rfl, h⟩
    exact h.closes_append before

/-! ## Replacing arrows -/

/-- Joining texts without arrows by a separator that opens with no part of an
    arrow, and does not begin one, brings none about. -/
theorem not_occursIn_join {sep : Text} {segs : List Text} (hd : c ≠ '-') (ht : c ≠ '>')
    (hu : c ≠ '→') (hsep : ∀ s, occursIn (sep ++ s) = occursIn s)
    (h : ∀ seg ∈ segs, occursIn seg = false) : occursIn (Text.join (c :: sep) segs) = false := by
  induction segs with
  | nil => rfl
  | cons seg segs ih =>
    rw [List.forall_mem_cons] at h
    cases segs with
    | nil => simpa using h.1
    | cons next segs =>
      rw [Text.join_cons_cons, List.append_assoc, List.cons_append, occursIn_append_cons hd ht hu,
        h.1, Bool.false_or, hsep, ih h.2]

/-- Where arrows are replaced by `=>` none is left. -/
theorem not_occursIn_replace (s : Text) : occursIn (replace ['=', '>'] s) = false :=
  not_occursIn_join (by decide) (by decide) (by decide)
    (fun s => by rw [List.singleton_append, occursIn_cons]; rfl) not_occursIn_of_mem_split

/-- Where there is no arrow nothing is replaced. -/
theorem replace_eq_self (new : Text) (h : occursIn s = false) : replace new s = s := by
  rw [replace, split_eq_singleton h, Text.join_singleton]

end FlowScript.Arrow
