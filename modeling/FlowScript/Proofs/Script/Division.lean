import FlowScript.Proofs.Script.Arrow

/-!
# Texts divided at arrows

An arrow has a *spelling*: it is one character, or a dash, more dashes and a
tip. A text has an arrow, opens with one or closes with one iff some spelling
lies in it, begins it or ends it (`occursIn_iff_spelling`, `opens_iff_spelling`,
`closes_iff_spelling`).

A *division* of a text is a row of segments with a spelled arrow between each two
neighbours. It is *maximal* if no arrow is left in a segment, and no dash at the
end of one could go to the dashed arrow behind it.

* `Division.split_text`: a maximal division has the segments that splitting
  gives;
* `Division.IsMaximal.ext_text`: a text has at most one maximal division. The
  segments are the same as they are those of splitting, and no spelling begins
  another (`Spelling.append_inj`);
* `exists_division`: it has one, and that is how it is split.
-/

namespace FlowScript.Arrow

variable {s t seg before after arrow : Text} {c : Char}

/-! ## Spellings -/

/-- An arrow as it may be written. -/
inductive Spelling where
  /-- As one character. -/
  | short
  /-- As a dash, `n` more dashes and a tip. -/
  | dashed (n : Nat)

namespace Spelling

/-- The arrow as it is written. -/
def text : Spelling → Text
  | short => ['→']
  | dashed n => List.replicate (n + 1) '-' ++ ['>']

/-- An arrow stands wherever no dash is in front of it. -/
theorem stands (arrow : Spelling) (h : s.getLast? ≠ some '-') : Stands s arrow.text := by
  cases arrow with
  | short => exact .short
  | dashed n => exact .dashed n h

/-- No spelling begins another. -/
theorem append_inj {a b : Spelling} (h : a.text ++ s = b.text ++ t) : a = b ∧ s = t := by
  cases a with
  | short =>
    cases b with
    | short => exact ⟨rfl, (List.cons.inj h).2⟩
    | dashed m => exact absurd (List.cons.inj h).1 (by decide)
  | dashed n =>
    cases b with
    | short => exact absurd (List.cons.inj h).1 (by decide)
    | dashed m =>
      -- Dash by dash, until one of the tips comes.
      induction n generalizing m with
      | zero =>
        cases m with
        | zero => exact ⟨rfl, (List.cons.inj (List.cons.inj h).2).2⟩
        | succ m => exact absurd (List.cons.inj (List.cons.inj h).2).1 (by decide)
      | succ n ih =>
        cases m with
        | zero => exact absurd (List.cons.inj (List.cons.inj h).2).1 (by decide)
        | succ m =>
          obtain ⟨heq, hst⟩ := ih m (List.cons.inj h).2
          exact ⟨by rw [dashed.inj heq], hst⟩

end Spelling

/-- What stands as an arrow has a spelling. -/
theorem Stands.exists_spelling (h : Stands before arrow) : ∃ a : Spelling, a.text = arrow := by
  cases h with
  | short => exact ⟨.short, rfl⟩
  | dashed n _ => exact ⟨.dashed n, rfl⟩

/-- Only a dashed arrow asks for something in front of it. -/
theorem stands_iff {a : Spelling} :
    Stands before a.text ↔ ∀ n, a = .dashed n → before.getLast? ≠ some '-' := by
  constructor
  · rintro h n rfl
    generalize htext : (Spelling.dashed n).text = arrow at h
    cases h with
    | short => exact absurd (List.cons.inj htext).1 (by decide)
    | dashed m hlast => exact hlast
  · intro h
    cases a with
    | short => exact .short
    | dashed n => exact .dashed n (h n rfl)

/-! ## Where spellings lie in a text -/

/-- What opens with an arrow does so whatever follows. -/
theorem opens_append_of_opens (h : opens s = true) (t : Text) : opens (s ++ t) = true := by
  obtain ⟨arrow, after, rfl, hstands⟩ := opens_iff.1 h
  rw [List.append_assoc]
  exact hstands.opens_append _

/-- The first arrow is at the start, or behind the first character. -/
theorem occursIn_cons_iff : occursIn (c :: s) = true ↔ opens (c :: s) = true ∨ occursIn s = true := by
  constructor
  · intro h
    rw [occursIn_cons, Bool.or_eq_true, Bool.or_eq_true, Bool.and_eq_true] at h
    rcases h with (hu | ⟨hd, ht⟩) | h
    · obtain rfl := beq_iff_eq.1 hu
      exact .inl rfl
    · obtain rfl := beq_iff_eq.1 hd
      obtain ⟨r, rfl⟩ := List.head?_eq_some_iff.1 (beq_iff_eq.1 ht)
      exact .inl rfl
    · exact .inr h
  · rintro (h | h)
    · exact occursIn_of_opens h
    · exact occursIn_append_right [c] h

/-- A text with an arrow is what stands in front of its first one, that arrow with
    all its dashes, and the rest. -/
theorem exists_first (h : occursIn s = true) : ∃ before arrow after,
    s = before ++ (arrow ++ after) ∧ Stands before arrow ∧ occursIn before = false := by
  induction s with
  | nil => cases h
  | cons c s ih =>
    by_cases hopens : opens (c :: s) = true
    · obtain ⟨arrow, after, heq, hstands⟩ := opens_iff.1 hopens
      exact ⟨[], arrow, after, heq, hstands, rfl⟩
    · obtain ⟨before, arrow, after, rfl, hstands, hbefore⟩ :=
        ih ((occursIn_cons_iff.1 h).resolve_left hopens)
      refine ⟨c :: before, arrow, after, rfl, ?_, Bool.eq_false_iff.2 fun hc => ?_⟩
      · -- If the first character were a dash of the arrow, the text would open with
        -- that.
        cases hstands with
        | short => exact .short
        | dashed n hlast =>
          refine .dashed n fun hdash => ?_
          cases before with
          | nil =>
            obtain rfl : c = '-' := by simpa using hdash
            exact hopens (isTail_dashes (n + 1) after ▸ by simp [opens])
          | cons d before => exact hlast (by rwa [List.getLast?_cons_cons] at hdash)
      · rcases occursIn_cons_iff.1 hc with hc | hc
        · exact hopens (opens_append_of_opens hc _)
        · rw [hbefore] at hc
          cases hc

/-- There is an arrow in a text iff a spelling lies in it. -/
theorem occursIn_iff_spelling : occursIn s = true ↔ ∃ arrow : Spelling, arrow.text <:+: s := by
  constructor
  · intro h
    obtain ⟨before, arrow, after, rfl, hstands, -⟩ := exists_first h
    obtain ⟨a, rfl⟩ := hstands.exists_spelling
    exact ⟨a, before, after, List.append_assoc ..⟩
  · rintro ⟨a, before, after, rfl⟩
    have h : Stands [] a.text := a.stands (by simp)
    rw [List.append_assoc]
    exact occursIn_append_right before (occursIn_of_opens (h.opens_append after))

theorem not_occursIn_iff : occursIn s = false ↔ ∀ arrow : Spelling, ¬arrow.text <:+: s := by
  rw [Bool.eq_false_iff, ne_eq, occursIn_iff_spelling, not_exists]

/-- A text opens with an arrow iff a spelling begins it. -/
theorem opens_iff_spelling : opens s = true ↔ ∃ arrow : Spelling, arrow.text <+: s := by
  constructor
  · intro h
    obtain ⟨arrow, after, rfl, hstands⟩ := opens_iff.1 h
    obtain ⟨a, rfl⟩ := hstands.exists_spelling
    exact ⟨a, after, rfl⟩
  · rintro ⟨a, after, rfl⟩
    have h : Stands [] a.text := a.stands (by simp)
    exact h.opens_append after

/-- A text closes with an arrow iff a spelling ends it. -/
theorem closes_iff_spelling : closes s = true ↔ ∃ arrow : Spelling, arrow.text <:+ s := by
  constructor
  · intro h
    obtain ⟨before, arrow, rfl, hstands⟩ := closes_iff.1 h
    obtain ⟨a, rfl⟩ := hstands.exists_spelling
    exact ⟨a, before, rfl⟩
  · rintro ⟨a, before, rfl⟩
    have h : Stands [] a.text := a.stands (by simp)
    exact h.closes_append before

/-! ## Divisions -/

/-- A text in segments, with an arrow between each two neighbours. -/
structure Division where
  /-- The segments with an arrow behind them, each with that arrow. -/
  steps : List (Text × Spelling)
  /-- The last segment. -/
  last : Text

namespace Division

/-- The text that is divided. -/
def text (d : Division) : Text :=
  (d.steps.flatMap fun (seg, arrow) => seg ++ arrow.text) ++ d.last

/-- The segments, in order. -/
def segments (d : Division) : List Text :=
  d.steps.map Prod.fst ++ [d.last]

/-- Whatever may be an arrow is one, with all the dashes that it can have. -/
structure IsMaximal (d : Division) : Prop where
  /-- No arrow is in a segment. -/
  free : ∀ seg ∈ d.segments, ∀ arrow : Spelling, ¬arrow.text <:+: seg
  /-- No segment in front of a dashed arrow ends with a dash. -/
  full : ∀ seg n, (seg, .dashed n) ∈ d.steps → seg.getLast? ≠ some '-'

variable {d d' : Division} {arrow : Spelling} {steps : List (Text × Spelling)} {last : Text}

theorem text_cons :
    text ⟨(seg, arrow) :: steps, last⟩ = seg ++ (arrow.text ++ text ⟨steps, last⟩) := by
  simp [text]

theorem segments_cons : segments ⟨(seg, arrow) :: steps, last⟩ = seg :: segments ⟨steps, last⟩ :=
  rfl

theorem isMaximal_nil : IsMaximal ⟨[], last⟩ ↔ occursIn last = false := by
  rw [not_occursIn_iff]
  refine ⟨fun h => h.free last (by simp [segments]), fun h => ⟨?_, ?_⟩⟩
  · rintro seg hseg
    obtain rfl : seg = last := by simpa [segments] using hseg
    exact h
  · exact fun seg n hmem => absurd hmem List.not_mem_nil

/-- A division is maximal step by step. -/
theorem isMaximal_cons : IsMaximal ⟨(seg, arrow) :: steps, last⟩ ↔
    occursIn seg = false ∧ Stands seg arrow.text ∧ IsMaximal ⟨steps, last⟩ := by
  rw [not_occursIn_iff, stands_iff]
  constructor
  · rintro ⟨hfree, hfull⟩
    rw [segments_cons, List.forall_mem_cons] at hfree
    refine ⟨hfree.1, fun n hn => hfull seg n (by simp [hn]), hfree.2, fun seg' n hmem => ?_⟩
    exact hfull seg' n (List.mem_cons_of_mem _ hmem)
  · rintro ⟨hseg, hstands, hfree, hfull⟩
    refine ⟨by rw [segments_cons, List.forall_mem_cons]; exact ⟨hseg, hfree⟩, fun seg' n hmem => ?_⟩
    rcases List.mem_cons.1 hmem with heq | hmem
    · obtain ⟨rfl, rfl⟩ := Prod.mk.inj heq
      exact hstands n rfl
    · exact hfull seg' n hmem

/-- A maximal division has the segments that splitting gives. -/
theorem split_text (h : d.IsMaximal) : split d.text = d.segments := by
  obtain ⟨steps, last⟩ := d
  induction steps with
  | nil => exact split_eq_singleton (isMaximal_nil.1 h)
  | cons step steps ih =>
    obtain ⟨seg, arrow⟩ := step
    obtain ⟨hseg, hstands, hrest⟩ := isMaximal_cons.1 h
    rw [text_cons, hstands.split_append_append, split_eq_singleton hseg, ih hrest, segments_cons]
    rfl

/-- The segments of a text leave no choice of arrows. -/
theorem ext_of_segments (hsegs : d.segments = d'.segments) (htext : d.text = d'.text) :
    d = d' := by
  obtain ⟨steps, last⟩ := d
  obtain ⟨steps', last'⟩ := d'
  have hlen := congrArg List.length hsegs
  induction steps generalizing steps' with
  | nil =>
    cases steps' with
    | nil =>
      have hlast : last = last' := (List.cons.inj hsegs).1
      rw [hlast]
    | cons step' steps' => simp [segments] at hlen
  | cons step steps ih =>
    cases steps' with
    | nil => simp [segments] at hlen
    | cons step' steps' =>
      obtain ⟨seg, arrow⟩ := step
      obtain ⟨seg', arrow'⟩ := step'
      rw [segments_cons, segments_cons] at hsegs hlen
      obtain ⟨rfl, hrest⟩ := List.cons.inj hsegs
      rw [text_cons, text_cons, List.append_cancel_left_eq] at htext
      obtain ⟨rfl, hafter⟩ := Spelling.append_inj htext
      obtain ⟨rfl, rfl⟩ := Division.mk.inj (ih steps' hrest hafter (Nat.succ.inj hlen))
      rfl

/-- A text has at most one maximal division. -/
theorem IsMaximal.ext_text (h : d.IsMaximal) (h' : d'.IsMaximal) (htext : d.text = d'.text) :
    d = d' :=
  ext_of_segments (by rw [← split_text h, ← split_text h', htext]) htext

/-- A text without arrows is not divided, any other is. -/
theorem occursIn_text_iff (h : d.IsMaximal) : occursIn d.text = true ↔ 1 ≤ d.steps.length := by
  obtain ⟨steps, last⟩ := d
  cases steps with
  | nil => simp [text, isMaximal_nil.1 h]
  | cons step steps =>
    obtain ⟨seg, arrow⟩ := step
    refine iff_of_true (occursIn_iff_spelling.2 ⟨arrow, ?_⟩) (Nat.succ_pos _)
    rw [text_cons, ← List.append_assoc]
    exact List.infix_append _ _ _

/-- Every text can be divided so. -/
theorem exists_isMaximal (s : Text) : ∃ d : Division, d.text = s ∧ d.IsMaximal := by
  induction hlen : s.length using Nat.strongRecOn generalizing s with
  | ind len ih =>
    by_cases h : occursIn s = true
    · -- What is behind the first arrow is shorter.
      obtain ⟨seg, arrow, after, rfl, hstands, hseg⟩ := exists_first h
      have hpos := List.length_pos_of_ne_nil hstands.ne_nil
      obtain ⟨⟨steps, last⟩, rfl, hrest⟩ := ih after.length (by simp at hlen; omega) after rfl
      obtain ⟨a, rfl⟩ := hstands.exists_spelling
      exact ⟨⟨(seg, a) :: steps, last⟩, text_cons, isMaximal_cons.2 ⟨hseg, hstands, hrest⟩⟩
    · exact ⟨⟨[], s⟩, rfl, isMaximal_nil.2 (by simpa using h)⟩

end Division

/-- A text divides at its arrows in just one way, if each arrow takes all the dashes
    that it can and none is left: into the segments that splitting gives. There is
    an arrow in the text iff it is divided at all. -/
theorem exists_division (s : Text) : ∃ d : Division, d.text = s ∧ d.IsMaximal ∧
    split s = d.segments ∧ (∀ d' : Division, d'.text = s → d'.IsMaximal → d' = d) ∧
    (occursIn s = true ↔ 1 ≤ d.steps.length) := by
  obtain ⟨d, rfl, h⟩ := Division.exists_isMaximal s
  exact ⟨d, rfl, h, Division.split_text h, fun d' heq h' => h'.ext_text h heq,
    Division.occursIn_text_iff h⟩

example : split "a - --->> b-→->".toList =
    ["a - ".toList, "> b-".toList, [], []] := by decide

end FlowScript.Arrow
