import FlowScript.Proofs.Text.Basic
import FlowScript.Proofs.Text.Trim
import FlowScript.Text.Line

/-!
# Lines and joined lines

A text is *unbroken* when no character of it ends a line, and *inked* when it
is what one inked line holds: not empty, trimmed and unbroken.

* `mem_lines`, `mem_inkedLines`: lines are unbroken and inked lines inked;
* `inkedTexts_append_break`: a character that ends a line keeps the inked lines on
  both sides of it apart, whatever stands there;
* `inkedTexts_append_gap`: so do blanks with a line end among them, which are not
  inked themselves;
* `inkedTexts_join`: texts that are joined by line feeds keep their inked lines
  apart, whatever the texts and however they end;
* `inkedLines_join`: taking a text apart into its inked lines is the inverse of
  joining inked texts by line feeds;
* `lines_join_append_feed_iff`, `filter_isBreak_join_iff`: joined parts are on a line
  each iff none of them ends a line.
-/

namespace FlowScript.Text

/-- No character of the text ends a line. -/
def Unbroken (s : Text) : Prop :=
  ∀ c ∈ s, isBreak c = false

/-- The text is what one inked line holds. -/
structure Inked (s : Text) : Prop where
  /-- There is something on the line. -/
  ne_nil : s ≠ []
  /-- The line has been trimmed. -/
  trimmed : Trimmed s
  /-- It is one line. -/
  unbroken : Unbroken s

instance (s : Text) : Decidable (Unbroken s) :=
  List.decidableBAll _ s

instance (s : Text) : Decidable (Inked s) :=
  decidable_of_iff (s ≠ [] ∧ Trimmed s ∧ Unbroken s)
    ⟨fun ⟨hne, htrim, hunbroken⟩ => ⟨hne, htrim, hunbroken⟩,
      fun h => ⟨h.ne_nil, h.trimmed, h.unbroken⟩⟩

variable {s t : Text} {ls : List Text} {c : Char}

/-! ## Unbroken texts -/

theorem unbroken_nil : Unbroken [] :=
  fun _ h => absurd h List.not_mem_nil

theorem unbroken_cons : Unbroken (c :: s) ↔ isBreak c = false ∧ Unbroken s :=
  List.forall_mem_cons

theorem unbroken_append : Unbroken (s ++ t) ↔ Unbroken s ∧ Unbroken t :=
  List.forall_mem_append

theorem Unbroken.of_subset (h : Unbroken s) (hst : ∀ c ∈ t, c ∈ s) : Unbroken t :=
  fun c hc => h c (hst c hc)

theorem Unbroken.trim (h : Unbroken s) : Unbroken (trim s) :=
  h.of_subset fun _ => mem_of_mem_trim

theorem Unbroken.join {sep : Text} (hsep : Unbroken sep) (h : ∀ l ∈ ls, Unbroken l) :
    Unbroken (join sep ls) := by
  intro c hc
  rcases mem_of_mem_join hc with hc | ⟨l, hl, hc⟩
  · exact hsep c hc
  · exact h l hl c hc

/-- Whatever ends a line is a blank. -/
theorem isBlank_of_isBreak (h : isBreak c = true) : isBlank c = true := by
  simp only [isBreak, breaks, isBlank, blanks, inRanges, List.any_cons, List.any_nil,
    Bool.or_eq_true, Bool.and_eq_true, decide_eq_true_eq, Bool.or_false] at h ⊢
  omega

/-! ## The lines of a text -/

theorem lines_cons (hc : c ≠ '\r') :
    lines (c :: s) = if isBreak c then [] :: lines s else consFirst c (lines s) :=
  lines.eq_3 c s fun _ h _ => hc h

theorem ne_carriage_return (hc : isBreak c = false) : c ≠ '\r' := by
  rintro rfl
  exact absurd hc (by decide)

/-- An unbroken text that is not empty is one line. -/
theorem lines_of_unbroken (h : Unbroken s) (hne : s ≠ []) : lines s = [s] := by
  induction s with
  | nil => exact absurd rfl hne
  | cons c s ih =>
    rw [unbroken_cons] at h
    rw [lines_cons (ne_carriage_return h.1), h.1]
    cases s with
    | nil => rfl
    | cons d s => rw [ih h.2 (List.cons_ne_nil _ _)]; rfl

/-- An unbroken text is the beginning of the first line of what it begins. -/
theorem exists_lines_append (hs : Unbroken s) (hne : s ≠ []) (t : Text) :
    ∃ rest more, lines (s ++ t) = (s ++ rest) :: more := by
  induction s with
  | nil => exact absurd rfl hne
  | cons c s ih =>
    rw [unbroken_cons] at hs
    rw [List.cons_append, lines_cons (ne_carriage_return hs.1), hs.1]
    by_cases hnil : s = []
    · subst hnil
      cases ht : lines t with
      | nil => exact ⟨[], [], by simp [ht, consFirst]⟩
      | cons l more => exact ⟨l, more, by simp [ht, consFirst]⟩
    · obtain ⟨rest, more, hlines⟩ := ih hs.2 hnil
      exact ⟨rest, more, by simp [hlines, consFirst]⟩

/-- The lines of a text are unbroken. -/
theorem mem_lines : ∀ l ∈ lines s, Unbroken l := by
  induction s using lines.induct with
  | case1 => simp [lines]
  | case2 rest ih =>
    rw [lines, List.forall_mem_cons]
    exact ⟨unbroken_nil, ih⟩
  | case3 c rest hcr hc ih =>
    rw [lines.eq_3 c rest hcr, if_pos hc, List.forall_mem_cons]
    exact ⟨unbroken_nil, ih⟩
  | case4 c rest hcr hc ih =>
    -- The character is put in front of the first of the other lines.
    rw [lines.eq_3 c rest hcr, if_neg hc]
    have hc : isBreak c = false := by simpa using hc
    exact forall_mem_consFirst (unbroken_cons.2 ⟨hc, unbroken_nil⟩)
      (fun l _ hl => unbroken_cons.2 ⟨hc, hl⟩) ih

/-- The characters of the lines are characters of the text. -/
theorem mem_of_mem_lines : ∀ l ∈ lines s, ∀ d ∈ l, d ∈ s := by
  induction s using lines.induct with
  | case1 => simp [lines]
  | case2 rest ih =>
    rw [lines, List.forall_mem_cons]
    exact ⟨by simp, fun l hl d hd => List.mem_cons_of_mem _ (List.mem_cons_of_mem _ (ih l hl d hd))⟩
  | case3 c rest hcr hc ih =>
    rw [lines.eq_3 c rest hcr, if_pos hc, List.forall_mem_cons]
    exact ⟨by simp, fun l hl d hd => List.mem_cons_of_mem _ (ih l hl d hd)⟩
  | case4 c rest hcr hc ih =>
    rw [lines.eq_3 c rest hcr, if_neg hc]
    refine forall_mem_consFirst (by simp) (fun l _ hl => ?_)
      fun l hl d hd => List.mem_cons_of_mem _ (ih l hl d hd)
    rw [List.forall_mem_cons]
    exact ⟨List.mem_cons_self, hl⟩

theorem sum_length_consFirst (c : Char) (ls : List Text) :
    ((consFirst c ls).map fun l => l.length + 1).sum ≤
      (ls.map fun l => l.length + 1).sum + 2 := by
  cases ls <;> simp [consFirst]
  omega

/-- All lines together, each with one more character, are at most twice as long
    as the text. -/
theorem sum_length_lines (s : Text) :
    ((lines s).map fun l => l.length + 1).sum ≤ 2 * s.length := by
  induction s using lines.induct with
  | case1 => simp [lines]
  | case2 rest ih =>
    rw [lines]
    simp only [List.map_cons, List.sum_cons, List.length_cons, List.length_nil]
    omega
  | case3 c rest hcr hc ih =>
    rw [lines.eq_3 c rest hcr, if_pos hc]
    simp only [List.map_cons, List.sum_cons, List.length_cons, List.length_nil]
    omega
  | case4 c rest hcr hc ih =>
    rw [lines.eq_3 c rest hcr, if_neg hc, List.length_cons]
    have := sum_length_consFirst c (lines rest)
    omega

/-! ## The inked lines of a text -/

theorem mem_inkedFrom {n : Nat} {i : InkedLine} (h : i ∈ inkedFrom n ls) :
    ∃ l ∈ ls, i.text = trim l ∧ i.text ≠ [] := by
  induction ls generalizing n with
  | nil => cases h
  | cons l ls ih =>
    rw [inkedFrom] at h
    split at h
    · obtain ⟨m, hm, hi⟩ := ih h
      exact ⟨m, List.mem_cons_of_mem _ hm, hi⟩
    · next hne =>
      rcases List.mem_cons.1 h with rfl | h
      · exact ⟨l, List.mem_cons_self, rfl, hne⟩
      · obtain ⟨m, hm, hi⟩ := ih h
        exact ⟨m, List.mem_cons_of_mem _ hm, hi⟩

/-- An inked line is a line without the blanks at its ends, and has its number. -/
theorem getElem?_of_mem_inkedFrom {n : Nat} {i : InkedLine} (h : i ∈ inkedFrom n ls) :
    ∃ k, i.number = n + k ∧ ls[k]?.map trim = some i.text := by
  induction ls generalizing n with
  | nil => cases h
  | cons l ls ih =>
    -- A line behind the first is counted from the second.
    have hrest (h : i ∈ inkedFrom (n + 1) ls) :
        ∃ k, i.number = n + k ∧ (l :: ls)[k]?.map trim = some i.text := by
      obtain ⟨k, hk, hline⟩ := ih h
      exact ⟨k + 1, by omega, hline⟩
    rw [inkedFrom] at h
    split at h
    · exact hrest h
    · rcases List.mem_cons.1 h with rfl | h
      · exact ⟨0, rfl, rfl⟩
      · exact hrest h

/-- An inked line of a text is the line that its number counts from one. -/
theorem getElem?_of_mem_inkedLines {i : InkedLine} (h : i ∈ inkedLines s) :
    1 ≤ i.number ∧ (lines s)[i.number - 1]?.map trim = some i.text := by
  obtain ⟨k, hk, hline⟩ := getElem?_of_mem_inkedFrom h
  rw [hk, Nat.add_sub_cancel_left]
  exact ⟨Nat.le_add_right 1 k, hline⟩

/-- Among lines that are counted from `n`, the inked ones are those that are not
    blank, trimmed, under their numbers. -/
theorem mem_inkedFrom_iff {n : Nat} {i : InkedLine} : i ∈ inkedFrom n ls ↔
    ∃ k line, ls[k]? = some line ∧ i.number = n + k ∧ i.text = trim line ∧ i.text ≠ [] := by
  constructor
  · intro h
    obtain ⟨k, hk, hline⟩ := getElem?_of_mem_inkedFrom h
    obtain ⟨line, hget, htrim⟩ := Option.map_eq_some_iff.1 hline
    obtain ⟨-, -, -, hne⟩ := mem_inkedFrom h
    exact ⟨k, line, hget, hk, htrim.symm, hne⟩
  · rintro ⟨k, line, hget, hk, htext, hne⟩
    induction ls generalizing n k with
    | nil => cases hget
    | cons l ls ih =>
      rw [inkedFrom]
      cases k with
      | zero =>
        obtain rfl : l = line := Option.some.inj hget
        split
        · next hnil => exact absurd (htext.trans hnil) hne
        · rw [← htext]
          exact List.mem_cons.2 (.inl (congrArg (InkedLine.mk · i.text) hk))
      | succ k =>
        have hrest : i ∈ inkedFrom (n + 1) ls := ih k hget (by omega)
        split
        · exact hrest
        · exact List.mem_cons_of_mem _ hrest

/-- The inked lines of a text are its lines that are not blank, trimmed and counted
    from one. -/
theorem mem_inkedLines_iff {i : InkedLine} : i ∈ inkedLines s ↔
    ∃ k line, (lines s)[k]? = some line ∧ i.number = 1 + k ∧ i.text = trim line ∧ i.text ≠ [] :=
  mem_inkedFrom_iff

/-- The characters of the inked lines are characters of the text. -/
theorem mem_of_mem_inkedLines {i : InkedLine} (h : i ∈ inkedLines s) (hc : c ∈ i.text) :
    c ∈ s := by
  obtain ⟨k, line, hline, -, htrim, -⟩ := mem_inkedLines_iff.1 h
  exact mem_of_mem_lines line (List.mem_of_getElem? hline) c (mem_of_mem_trim (htrim ▸ hc))

/-- Inked lines are inked. -/
theorem mem_inkedLines {i : InkedLine} (h : i ∈ inkedLines s) : Inked i.text := by
  obtain ⟨l, hl, hi, hne⟩ := mem_inkedFrom h
  exact ⟨hne, hi ▸ trimmed_trim l, hi ▸ (mem_lines l hl).trim⟩

theorem le_number_of_mem_inkedFrom {n : Nat} {i : InkedLine} (h : i ∈ inkedFrom n ls) :
    n ≤ i.number := by
  obtain ⟨k, hk, -⟩ := getElem?_of_mem_inkedFrom h
  omega

theorem pairwise_number_inkedFrom (n : Nat) (ls : List Text) :
    (inkedFrom n ls).Pairwise fun i j => i.number < j.number := by
  induction ls generalizing n with
  | nil => exact List.Pairwise.nil
  | cons l ls ih =>
    rw [inkedFrom]
    split
    · exact ih (n + 1)
    · exact List.Pairwise.cons (fun _ hi => le_number_of_mem_inkedFrom hi) (ih (n + 1))

/-- The inked lines of a text are in the order of their numbers. -/
theorem pairwise_number_inkedLines (s : Text) :
    (inkedLines s).Pairwise fun i j => i.number < j.number :=
  pairwise_number_inkedFrom 1 (lines s)

/-- The texts of the inked lines of a text, in order. -/
def inkedTexts (s : Text) : List Text :=
  (inkedLines s).map InkedLine.text

/-- The inked lines are those of which something is left when they are
    trimmed. -/
theorem map_text_inkedFrom (n : Nat) (ls : List Text) :
    (inkedFrom n ls).map InkedLine.text = (ls.map trim).filter fun l => !l.isEmpty := by
  induction ls generalizing n with
  | nil => rfl
  | cons l ls ih =>
    rw [inkedFrom, List.map_cons]
    cases trim l with
    | nil => exact ih (n + 1)
    | cons c l => exact congrArg _ (ih (n + 1))

/-- An inked text is its only inked line. -/
theorem inkedTexts_of_inked (h : Inked s) : inkedTexts s = [s] := by
  have htrim : trim s = s := h.trimmed
  rw [inkedTexts, inkedLines, map_text_inkedFrom, lines_of_unbroken h.unbroken h.ne_nil,
    List.map_singleton, htrim]
  simp [h.ne_nil]

/-! ## Inked lines at a line end -/

/-- What has ink among `ls`, trimmed. -/
def inkOf (ls : List Text) : List Text :=
  (ls.map trim).filter fun l => !l.isEmpty

theorem inkOf_append (ls ms : List Text) : inkOf (ls ++ ms) = inkOf ls ++ inkOf ms := by
  rw [inkOf, List.map_append, List.filter_append]
  rfl

theorem inkOf_cons (l : Text) (ls : List Text) : inkOf (l :: ls) = inkOf [l] ++ inkOf ls :=
  inkOf_append [l] ls

theorem inkedTexts_eq_inkOf (s : Text) : inkedTexts s = inkOf (lines s) :=
  map_text_inkedFrom 1 (lines s)

/-- Where lines open with an empty one, or there are none, nothing is lost with
    the first. -/
theorem inkOf_headD_tail (ls : List Text) : inkOf ls = inkOf [ls.headD []] ++ inkOf ls.tail := by
  cases ls with
  | nil => rfl
  | cons l ls => exact inkOf_cons l ls

/-- The inked lines are what has ink between the line ends: cutting at every line
    end gives the lines and some empty ones, within a carriage return and a line
    feed and behind the last line end. -/
theorem inkedTexts_eq_splitOnP (s : Text) : inkedTexts s = inkOf (s.splitOnP isBreak) := by
  have hfirst : (lines s).headD [] = (s.splitOnP isBreak).headD [] ∧
      inkOf (lines s).tail = inkOf (s.splitOnP isBreak).tail := by
    induction s using lines.induct with
    | case1 => exact ⟨rfl, rfl⟩
    | case2 rest ih =>
      refine ⟨rfl, ?_⟩
      rw [lines, List.splitOnP_cons_eq_if_modifyHead, if_pos (by decide),
        List.splitOnP_cons_eq_if_modifyHead, if_pos (by decide), List.tail_cons, List.tail_cons,
        inkOf_cons [], inkOf_headD_tail, ih.1, ih.2, ← inkOf_headD_tail]
      rfl
    | case3 c rest hcr hc ih =>
      rw [lines.eq_3 c rest hcr, if_pos hc, List.splitOnP_cons_eq_if_modifyHead, if_pos hc]
      refine ⟨rfl, ?_⟩
      rw [List.tail_cons, List.tail_cons, inkOf_headD_tail, ih.1, ih.2, ← inkOf_headD_tail]
    | case4 c rest hcr hc ih =>
      -- The character belongs to the first line on both sides.
      rw [lines.eq_3 c rest hcr, if_neg hc, List.splitOnP_cons_eq_if_modifyHead, if_neg hc]
      obtain ⟨l, ls, hsplit⟩ := List.exists_cons_of_ne_nil (List.splitOnP_ne_nil isBreak rest)
      rw [hsplit] at ih ⊢
      cases hlines : lines rest with
      | nil =>
        rw [hlines] at ih
        exact ⟨congrArg (c :: ·) ih.1, ih.2⟩
      | cons m ms =>
        rw [hlines] at ih
        exact ⟨congrArg (c :: ·) ih.1, ih.2⟩
  rw [inkedTexts_eq_inkOf, inkOf_headD_tail, hfirst.1, hfirst.2, ← inkOf_headD_tail]

/-- A line end keeps the inked lines apart. Everything about them follows from
    this equation. -/
theorem inkedTexts_append_break (hc : isBreak c = true) (s t : Text) :
    inkedTexts (s ++ c :: t) = inkedTexts s ++ inkedTexts t := by
  rw [inkedTexts_eq_splitOnP, List.splitOnP_append_cons _ _ hc, inkOf_append,
    ← inkedTexts_eq_splitOnP, ← inkedTexts_eq_splitOnP]

/-- An unbroken text is one line, which is inked unless it is blank. -/
theorem inkedTexts_of_unbroken (h : Unbroken s) : inkedTexts s = inkOf [s] := by
  rw [inkedTexts_eq_splitOnP, List.splitOnP_eq_singleton h]

/-- Only what is left of a line when it is trimmed matters. -/
theorem inkOf_congr (h : trim s = trim t) : inkOf [s] = inkOf [t] := by
  rw [inkOf, inkOf, List.map_singleton, List.map_singleton, h]

theorem inkOf_singleton_of_ne_nil (h : trim s ≠ []) : inkOf [s] = [trim s] := by
  simp [inkOf, h]

theorem inkOf_singleton_of_eq_nil (h : trim s = []) : inkOf [s] = [] := by
  simp [inkOf, h]

/-- A text is unbroken, or an unbroken line, its end and another text. -/
theorem line_induction {P : Text → Prop} (hline : ∀ line, Unbroken line → P line)
    (hbreak : ∀ line c t, Unbroken line → isBreak c = true → P t → P (line ++ c :: t)) (s : Text) :
    P s := by
  -- Of the text that is left, the first line is in part read already.
  have hread : ∀ line, Unbroken line → P (line ++ s) := by
    induction s with
    | nil => exact fun line h => by rw [List.append_nil]; exact hline line h
    | cons c s ih =>
      intro line h
      by_cases hc : isBreak c = true
      · exact hbreak line c s h hc (ih [] unbroken_nil)
      · rw [List.append_cons]
        exact ih (line ++ [c]) (unbroken_append.2
          ⟨h, unbroken_cons.2 ⟨Bool.eq_false_iff.2 hc, unbroken_nil⟩⟩)
  exact hread [] unbroken_nil

/-- A text is its first line, and what other lines it has are inked whatever
    stands in front. -/
theorem exists_firstLine (t : Text) : ∃ line rest, line <+: t ∧ Unbroken line ∧
    ∀ s, inkedTexts (s ++ t) = inkedTexts (s ++ line) ++ inkedTexts rest := by
  induction t with
  | nil => exact ⟨[], [], List.prefix_rfl, unbroken_nil, fun s => (List.append_nil _).symm⟩
  | cons c t ih =>
    by_cases hc : isBreak c = true
    · refine ⟨[], t, List.nil_prefix, unbroken_nil, fun s => ?_⟩
      rw [inkedTexts_append_break hc, List.append_nil]
    · obtain ⟨line, rest, hpre, hline, hinked⟩ := ih
      refine ⟨c :: line, rest, List.cons_prefix_cons.2 ⟨rfl, hpre⟩,
        unbroken_cons.2 ⟨Bool.eq_false_iff.2 hc, hline⟩, fun s => ?_⟩
      simpa using hinked (s ++ [c])

/-- A text is its last line behind others, which are inked whatever follows. -/
theorem exists_lastLine (s : Text) : ∃ rest line, line <:+ s ∧ Unbroken line ∧
    ∀ t, inkedTexts (s ++ t) = inkedTexts rest ++ inkedTexts (line ++ t) := by
  induction s using List.reverseRecOn with
  | nil => exact ⟨[], [], List.suffix_rfl, unbroken_nil, fun t => rfl⟩
  | append_singleton s c ih =>
    by_cases hc : isBreak c = true
    · refine ⟨s, [], List.nil_suffix, unbroken_nil, fun t => ?_⟩
      rw [List.append_assoc, List.singleton_append, inkedTexts_append_break hc, List.nil_append]
    · obtain ⟨rest, line, hsuf, hline, hinked⟩ := ih
      refine ⟨rest, line ++ [c], List.suffix_append_self_iff.2 hsuf,
        unbroken_append.2 ⟨hline, unbroken_cons.2 ⟨Bool.eq_false_iff.2 hc, unbroken_nil⟩⟩,
        fun t => ?_⟩
      simpa using hinked (c :: t)

/-- Blanks in front of a text are not inked. -/
theorem inkedTexts_append_left_of_isBlank (h : ∀ c ∈ s, isBlank c = true) (t : Text) :
    inkedTexts (s ++ t) = inkedTexts t := by
  induction s with
  | nil => rfl
  | cons c s ih =>
    rw [List.forall_mem_cons] at h
    rw [List.cons_append, ← ih h.2]
    by_cases hc : isBreak c = true
    · exact inkedTexts_append_break hc [] (s ++ t)
    · -- The blank stands on the first line.
      have hc : Unbroken [c] := unbroken_cons.2 ⟨Bool.eq_false_iff.2 hc, unbroken_nil⟩
      obtain ⟨line, rest, -, hline, hinked⟩ := exists_firstLine (s ++ t)
      have htrim : trim ([c] ++ line) = trim line := trim_cons_of_isBlank h.1 line
      have hcons := hinked [c]
      have hnil := hinked []
      rw [inkedTexts_of_unbroken (unbroken_append.2 ⟨hc, hline⟩), inkOf_congr htrim] at hcons
      rw [List.nil_append, List.nil_append, inkedTexts_of_unbroken hline] at hnil
      exact hcons.trans hnil.symm

/-- Blanks behind a text are not inked. -/
theorem inkedTexts_append_right_of_isBlank (h : ∀ c ∈ t, isBlank c = true) (s : Text) :
    inkedTexts (s ++ t) = inkedTexts s := by
  induction t using List.reverseRecOn with
  | nil => rw [List.append_nil]
  | append_singleton t c ih =>
    rw [List.forall_mem_append, List.forall_mem_singleton] at h
    rw [← ih h.1, ← List.append_assoc]
    by_cases hc : isBreak c = true
    · exact (inkedTexts_append_break hc (s ++ t) []).trans (List.append_nil _)
    · -- The blank stands on the last line.
      have hc : Unbroken [c] := unbroken_cons.2 ⟨Bool.eq_false_iff.2 hc, unbroken_nil⟩
      obtain ⟨rest, line, -, hline, hinked⟩ := exists_lastLine (s ++ t)
      have hcons := hinked [c]
      have hnil := hinked []
      rw [inkedTexts_of_unbroken (unbroken_append.2 ⟨hline, hc⟩),
        inkOf_congr (trim_append_singleton_of_isBlank h.2 line)] at hcons
      rw [List.append_nil, List.append_nil, inkedTexts_of_unbroken hline] at hnil
      exact hcons.trans hnil.symm

/-- Blanks with a line end among them keep the inked lines apart. -/
theorem inkedTexts_append_gap {gap : Text} (h : ∀ c ∈ gap, isBlank c = true)
    (hbreak : ∃ c ∈ gap, isBreak c = true) (s t : Text) :
    inkedTexts (s ++ (gap ++ t)) = inkedTexts s ++ inkedTexts t := by
  obtain ⟨c, hc, hbreak⟩ := hbreak
  obtain ⟨before, after, rfl⟩ := List.append_of_mem hc
  rw [List.forall_mem_append, List.forall_mem_cons] at h
  rw [List.append_assoc, List.cons_append, ← List.append_assoc, inkedTexts_append_break hbreak,
    inkedTexts_append_right_of_isBlank h.1, inkedTexts_append_left_of_isBlank h.2.2]

/-- Texts that are joined by line feeds keep their inked lines apart, however
    they end. -/
theorem inkedTexts_join (parts : List Text) :
    inkedTexts (join ['\n'] parts) = parts.flatMap inkedTexts := by
  induction parts with
  | nil => rfl
  | cons part parts ih =>
    cases parts with
    | nil => simp
    | cons next parts =>
      rw [join_cons_cons, List.append_assoc, List.singleton_append,
        inkedTexts_append_break (by decide), ih]
      rfl

/-- Inked lines that are joined are the inked lines that come out again. -/
theorem inkedLines_join (h : ∀ l ∈ ls, Inked l) :
    (inkedLines (join ['\n'] ls)).map InkedLine.text = ls := by
  rw [← inkedTexts, inkedTexts_join]
  induction ls with
  | nil => rfl
  | cons l ls ih =>
    rw [List.forall_mem_cons] at h
    rw [List.flatMap_cons, inkedTexts_of_inked h.1, ih h.2, List.singleton_append]

/-- An inked text is the beginning of the first inked line of what it begins. -/
theorem exists_inkedTexts_append (hs : Inked s) (t : Text) :
    ∃ rest more, inkedTexts (s ++ t) = (s ++ rest) :: more := by
  obtain ⟨rest, more, hlines⟩ := exists_lines_append hs.unbroken hs.ne_nil t
  refine ⟨trimRight rest, (more.map trim).filter fun l => !l.isEmpty, ?_⟩
  rw [inkedTexts, inkedLines, map_text_inkedFrom, hlines, List.map_cons,
    hs.trimmed.trim_append_eq hs.ne_nil, List.filter_cons_of_pos (by simp [hs.ne_nil])]

theorem sum_length_inkedFrom (n : Nat) (ls : List Text) :
    ((inkedFrom n ls).map fun i => i.text.length + 1).sum ≤
      (ls.map fun l => l.length + 1).sum := by
  induction ls generalizing n with
  | nil => simp [inkedFrom]
  | cons l ls ih =>
    rw [inkedFrom]
    have hlen := (isInfix_trim l).length_le
    have ih := ih (n + 1)
    -- A line that is left out counts nothing, any other at most as before.
    split
    · simp only [List.map_cons, List.sum_cons]
      omega
    · simp only [List.map_cons, List.sum_cons]
      omega

/-- The inked lines together are at most twice as long as the text. -/
theorem sum_length_inkedLines (s : Text) :
    ((inkedLines s).map fun i => i.text.length + 1).sum ≤ 2 * s.length :=
  (sum_length_inkedFrom 1 (lines s)).trans (sum_length_lines s)

/-- A text has no ink iff it has no inked line. -/
theorem isBlankText_iff : isBlankText s = true ↔ inkedTexts s = [] := by
  have hline : ∀ line, Unbroken line → (isBlankText line = true ↔ inkedTexts line = []) := by
    intro line h
    rw [inkedTexts_of_unbroken h, isBlankText, List.all_eq_true, ← trim_eq_nil_iff]
    simp [inkOf]
  induction s using line_induction with
  | hline line h => exact hline line h
  | hbreak line c t h hc ih =>
    rw [inkedTexts_append_break hc, List.append_eq_nil_iff]
    refine Iff.trans ?_ (and_congr (hline line h) ih)
    simp [isBlankText, isBlank_of_isBreak hc]

/-- A text with a character that is no blank has ink. -/
theorem isBlankText_eq_false (hc : c ∈ s) (h : isBlank c = false) : isBlankText s = false := by
  rw [isBlankText, List.all_eq_false]
  exact ⟨c, hc, by simp [h]⟩

/-! ## Joined lines -/

/-- A line feed ends the line in front of it. -/
theorem lines_append_feed (h : Unbroken s) (t : Text) : lines (s ++ '\n' :: t) = s :: lines t := by
  induction s with
  | nil => rw [List.nil_append, lines_cons (by decide), if_pos (by decide)]
  | cons c s ih =>
    rw [unbroken_cons] at h
    rw [List.cons_append, lines_cons (ne_carriage_return h.1), h.1, ih h.2]
    rfl

/-- Parts that are joined by line feeds, with one more at the end, are the lines
    of the whole iff each of them is on one line. -/
theorem lines_join_append_feed_iff (hne : ls ≠ []) :
    lines (join ['\n'] ls ++ ['\n']) = ls ↔ ∀ l ∈ ls, Unbroken l := by
  refine ⟨fun h l hl => mem_lines l (h.symm ▸ hl), fun h => ?_⟩
  induction ls with
  | nil => exact absurd rfl hne
  | cons l ls ih =>
    rw [List.forall_mem_cons] at h
    by_cases hls : ls = []
    · rw [hls, join_singleton, lines_append_feed h.1, lines]
    · rw [join_cons hls, List.append_assoc, List.append_assoc, List.singleton_append,
        lines_append_feed h.1, ih hls h.2]

/-- The line ends of joined parts are those of the parts and one between each
    two of them. -/
theorem countP_isBreak_join (ls : List Text) : (join ['\n'] ls).countP isBreak =
    (ls.map fun l => l.countP isBreak).sum + (ls.length - 1) := by
  induction ls with
  | nil => simp
  | cons l ls ih =>
    by_cases hls : ls = []
    · simp [hls]
    · have hfeed : ['\n'].countP isBreak = 1 := by decide
      have hpos := List.length_pos_of_ne_nil hls
      rw [join_cons hls, List.countP_append, List.countP_append, hfeed, ih, List.map_cons,
        List.sum_cons, List.length_cons]
      omega

/-- The only line ends of joined parts are the line feeds between them iff each
    part is on one line. -/
theorem filter_isBreak_join_iff : (join ['\n'] ls).filter isBreak =
    List.replicate (ls.length - 1) '\n' ↔ ∀ l ∈ ls, Unbroken l := by
  have hcount := countP_isBreak_join ls
  constructor
  · intro h l hl c hc
    -- All line ends that there may be are those between the parts.
    rw [List.countP_eq_length_filter, h, List.length_replicate, Nat.right_eq_add,
      List.sum_eq_zero_iff_forall_eq_nat] at hcount
    have hzero := List.countP_eq_zero.1 (hcount _ (List.mem_map_of_mem hl))
    simpa using hzero c hc
  · intro h
    have hzero : (ls.map fun l => l.countP isBreak).sum = 0 := by
      rw [List.sum_eq_zero_iff_forall_eq_nat, List.forall_mem_map]
      exact fun l hl => List.countP_eq_zero.2 fun c hc => by simp [h l hl c hc]
    rw [List.eq_replicate_iff, ← List.countP_eq_length_filter, hcount, hzero, Nat.zero_add]
    refine ⟨rfl, fun c hc => ?_⟩
    obtain ⟨hmem, hbreak⟩ := List.mem_filter.1 hc
    rcases mem_of_mem_join hmem with hmem | ⟨l, hl, hmem⟩
    · exact List.mem_singleton.1 hmem
    · exact absurd hbreak (by simp [h l hl c hmem])

end FlowScript.Text
