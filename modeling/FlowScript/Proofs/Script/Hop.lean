import FlowScript.Proofs.Script.EdgeLabel
import FlowScript.Script.Hop

/-!
# What hops are read as

A hop of one line leads to something trimmed that is free of arrows and line
ends, by an edge label that is clean (`mem_ofLine`). Conversely a target is
read as it is written unless it opens with a pipe, in which case something
shorter is read (`length_target_lt`); behind a label between pipes it is read
as it is written in any case (`ofSegment_labelled`).
-/

namespace FlowScript

open Text

/-- What a hop can lead to: ink on one line, without arrows. -/
structure IsTarget (s : Text) : Prop extends Inked s where
  /-- No arrow. -/
  no_arrow : Arrow.occursIn s = false

variable {s t l : Text}

/-- A target does not go on with a chain. -/
theorem IsTarget.opens (h : IsTarget s) : Arrow.opens s = false :=
  Bool.eq_false_iff.2 fun ho => Bool.eq_false_iff.1 h.no_arrow (Arrow.occursIn_of_opens ho)

/-- After a target a chain does not go on. -/
theorem IsTarget.closes (h : IsTarget s) : Arrow.closes s = false :=
  Bool.eq_false_iff.2 fun hc => Bool.eq_false_iff.1 h.no_arrow (Arrow.occursIn_of_closes hc)

namespace Hop

/-- Only the trimmed segment matters. -/
theorem ofSegment_congr (h : trim s = trim t) : ofSegment s = ofSegment t := by
  rw [ofSegment, ofSegment, h]

/-! ## Reading one segment -/

/-- What does not open with a pipe is a target. -/
theorem ofSegment_bare (hpipe : (trim s).head? ≠ some '|') :
    ofSegment s = ⟨[], trim s, none⟩ := by
  rw [ofSegment]
  split
  · next rest h => simp [h] at hpipe
  · rfl

/-- Between pipes stands the label of the edge to what follows. -/
theorem ofSegment_labelled (h : trim s = '|' :: l ++ '|' :: t) (hl : '|' ∉ l) :
    ofSegment s = ⟨trim l, trim t, none⟩ := by
  rw [ofSegment, h, List.cons_append]
  simp only [cut?_append hl]

/-- What does not open with a pipe is read as it is written. -/
theorem ofSegment_of_isTarget (h : IsTarget s) (hpipe : s.head? ≠ some '|') :
    ofSegment s = ⟨[], s, none⟩ := by
  rw [ofSegment_bare (by rwa [h.trimmed]), h.trimmed]

/-- A label between pipes, and blanks, in front of a target: a segment that is
    read as it is meant, however the target begins. -/
theorem ofSegment_piped {gap : Text} (hl : EdgeLabel.Clean l) (ht : IsTarget t)
    (hgap : ∀ c ∈ gap, isBlank c = true) :
    Trimmed ('|' :: l ++ '|' :: (gap ++ t)) ∧
      Arrow.occursIn ('|' :: l ++ '|' :: (gap ++ t)) = false ∧
      ofSegment ('|' :: l ++ '|' :: (gap ++ t)) = ⟨l, t, none⟩ := by
  have htrim : Trimmed ('|' :: l ++ '|' :: (gap ++ t)) := by
    simpa using (by decide : Trimmed ['|']).append_append ht.trimmed (by simp) ht.ne_nil
      (l ++ '|' :: gap)
  refine ⟨htrim, ?_, ?_⟩
  · rw [Arrow.occursIn_append_cons (by decide) (by decide) (by decide), Arrow.occursIn_cons,
      hl.no_arrow, Arrow.occursIn_append_of_isBlank hgap, ht.no_arrow]
    rfl
  · rw [ofSegment_labelled htrim hl.no_pipe, hl.trimmed, trim_append_of_forall hgap, ht.trimmed]

/-- What opens with a pipe has a target that is shorter. -/
theorem length_target_lt (hpipe : (trim s).head? = some '|') :
    (ofSegment s).target.length < (trim s).length := by
  obtain ⟨rest, h⟩ := List.head?_eq_some_iff.1 hpipe
  rw [ofSegment, h]
  split
  · next rest' heq =>
    obtain rfl : rest = rest' := (List.cons.inj heq).2
    -- Either way the pipe is lost, and trimming adds nothing.
    split
    · next label target hcut =>
      have := (eq_append_of_cut? hcut).1
      have := (isInfix_trim target).length_le
      simp only [*, List.length_cons, List.length_append]
      omega
    · have := (isInfix_trim rest).length_le
      simp only [List.length_cons]
      omega
  · next hne => exact absurd rfl (hne rest)

/-- What is read from a segment is clean if the segment is. -/
theorem clean_ofSegment (hu : Unbroken s) (ha : Arrow.occursIn s = false) :
    EdgeLabel.Clean (ofSegment s).label ∧ Trimmed (ofSegment s).target ∧
      Unbroken (ofSegment s).target ∧ Arrow.occursIn (ofSegment s).target = false := by
  have hu := hu.trim
  have ha := Arrow.not_occursIn_of_infix (isInfix_trim s) ha
  rw [ofSegment]
  split
  · next rest h =>
    rw [h, unbroken_cons] at hu
    have ha := Arrow.not_occursIn_of_cons (h ▸ ha)
    split
    · next label target hcut =>
      -- The label and the target are pieces of the segment, apart from pipes.
      obtain ⟨rfl, hpipe⟩ := eq_append_of_cut? hcut
      rw [unbroken_append, unbroken_cons] at hu
      have hl : Arrow.occursIn label = false :=
        Arrow.not_occursIn_of_infix (List.prefix_append _ _).isInfix ha
      have ht : Arrow.occursIn target = false :=
        Arrow.not_occursIn_of_infix (List.suffix_append_of_suffix (List.suffix_cons _ _)).isInfix ha
      exact ⟨⟨trimmed_trim _, hu.2.1.trim, fun hc => hpipe (mem_of_mem_trim hc),
        Arrow.not_occursIn_of_infix (isInfix_trim _) hl⟩, trimmed_trim _, hu.2.2.2.trim,
        Arrow.not_occursIn_of_infix (isInfix_trim _) ht⟩
    · exact ⟨EdgeLabel.clean_nil, trimmed_trim _, hu.2.trim,
        Arrow.not_occursIn_of_infix (isInfix_trim _) ha⟩
  · exact ⟨EdgeLabel.clean_nil, trimmed_trim _, hu, ha⟩

/-- The target of a segment is made of its characters. -/
theorem mem_of_mem_target {c : Char} (hc : c ∈ (ofSegment s).target) : c ∈ s := by
  refine mem_of_mem_trim ?_
  rw [ofSegment] at hc
  split at hc
  · next rest heq =>
    rw [heq]
    refine List.mem_cons_of_mem _ ?_
    split at hc
    · next label target hcut =>
      rw [(eq_append_of_cut? hcut).1]
      exact List.mem_append_right _ (List.mem_cons_of_mem _ (mem_of_mem_trim hc))
    · exact mem_of_mem_trim hc
  · exact hc

/-! ## Reading a line -/

theorem hasTarget_iff {h : Hop} : h.hasTarget = true ↔ h.target ≠ [] := by
  simp [hasTarget]

/-- The hops of a line have clean labels, and what they lead to is a target. -/
theorem mem_ofLine (hs : Unbroken s) : ∀ h ∈ ofLine s,
    EdgeLabel.Clean h.label ∧ (h.hasTarget = true → IsTarget h.target) := by
  intro h hh
  obtain ⟨seg, hseg, rfl⟩ := List.mem_map.1 hh
  have hu := hs.of_subset (Arrow.mem_of_mem_split seg hseg)
  obtain ⟨hl, ht, hu, ha⟩ := clean_ofSegment hu (Arrow.not_occursIn_of_mem_split seg hseg)
  exact ⟨hl, fun hne => ⟨⟨hasTarget_iff.1 hne, ht, hu⟩, ha⟩⟩

/-- Blanks in front of a line belong to no hop. -/
theorem ofLine_append_left_of_isBlank (hs : ∀ c ∈ s, isBlank c = true) (t : Text) :
    ofLine (s ++ t) = ofLine t := by
  induction s with
  | nil => rfl
  | cons c s ih =>
    rw [List.forall_mem_cons] at hs
    have hd : c ≠ '-' := ne_of_isBlank hs.1 (by decide)
    have hu : c ≠ '→' := ne_of_isBlank hs.1 (by decide)
    obtain ⟨seg, segs, hsplit⟩ := List.exists_cons_of_ne_nil (Arrow.split_ne_nil (s ++ t))
    rw [← ih hs.2, ofLine, ofLine, List.cons_append, Arrow.split_cons hd hu, hsplit, consFirst,
      List.map_cons, List.map_cons, ofSegment_congr (trim_cons_of_isBlank hs.1 seg)]

/-- Blanks behind a line belong to no hop. -/
theorem ofLine_append_right_of_isBlank (ht : ∀ c ∈ t, isBlank c = true) (s : Text) :
    ofLine (s ++ t) = ofLine s := by
  induction t using List.reverseRecOn with
  | nil => rw [List.append_nil]
  | append_singleton t c ih =>
    rw [List.forall_mem_append, List.forall_mem_singleton] at ht
    have hne {d : Char} (hd : isBlank d = false) : c ≠ d := ne_of_isBlank ht.2 hd
    obtain ⟨segs, seg, hsplit, hsplit'⟩ := Arrow.split_append_singleton (hne (by decide))
      (hne (by decide)) (hne (by decide)) (s ++ t)
    rw [← ih ht.1, ← List.append_assoc, ofLine, ofLine, hsplit, hsplit', List.map_append,
      List.map_append, List.map_singleton, List.map_singleton,
      ofSegment_congr (trim_append_singleton_of_isBlank ht.2 seg)]

/-- Trimming takes nothing from the hops of a line. -/
theorem ofLine_trim (s : Text) : ofLine (trim s) = ofLine s := by
  obtain ⟨before, after, hs, hbefore, hafter⟩ := exists_eq_append_trim s
  conv_rhs =>
    rw [hs, ofLine_append_right_of_isBlank hafter, ofLine_append_left_of_isBlank hbefore]

/-- An arrow divides the hops of a line into those in front of it and those
    behind. -/
theorem ofLine_append_append {before arrow : Text} (h : Arrow.Stands before arrow) (after : Text) :
    ofLine (before ++ (arrow ++ after)) = ofLine before ++ ofLine after := by
  rw [ofLine, h.split_append_append, List.map_append, ofLine, ofLine]

/-- Behind an arrow at its end a line goes on in the place of its last hop, which
    is empty. -/
theorem ofLine_append_of_closes (h : Arrow.closes s = true) (t : Text) :
    ofLine (s ++ ' ' :: t) = (ofLine s).dropLast ++ ofLine t := by
  obtain ⟨before, arrow, rfl, ha⟩ := Arrow.closes_iff.1 h
  have hs : ofLine (before ++ arrow) = ofLine before ++ ofLine [] := by
    rw [← ofLine_append_append ha, List.append_nil]
  have hspace : ∀ c ∈ [' '], isBlank c = true := List.forall_mem_singleton.2 (by decide)
  have ht : ofLine (' ' :: t) = ofLine t := ofLine_append_left_of_isBlank hspace t
  rw [List.append_assoc, ofLine_append_append ha, ht, hs]
  exact congrArg (· ++ ofLine t) List.dropLast_concat.symm

/-- In front of an arrow at its start a line begins in the place of its first
    hop, which is empty. -/
theorem ofLine_append_of_opens (s : Text) (h : Arrow.opens t = true) :
    ofLine (s ++ ' ' :: t) = ofLine s ++ (ofLine t).tail := by
  obtain ⟨arrow, after, rfl, ha⟩ := Arrow.opens_iff.1 h
  have hspace : ∀ c ∈ [' '], isBlank c = true := List.forall_mem_singleton.2 (by decide)
  have hs : ofLine (s ++ [' ']) = ofLine s := ofLine_append_right_of_isBlank hspace s
  have ht : ofLine (arrow ++ after) = ofLine [] ++ ofLine after := ofLine_append_append ha after
  rw [List.append_cons, ofLine_append_append (ha.of_getLast? (by simp)), hs, ht]
  rfl

/-- A line with one arrow has two hops. -/
theorem ofLine_append_arrow (hs : Arrow.occursIn s = false) (hdash : s.getLast? ≠ some '-')
    (ht : Arrow.occursIn t = false) :
    ofLine (s ++ '-' :: '>' :: t) = [ofSegment s, ofSegment t] := by
  rw [ofLine, Arrow.split_append_arrow hs hdash, Arrow.split_eq_singleton ht]
  rfl

end Hop

/-! ## Links -/

/-- A link leads from one hop to another and has the label of the latter. -/
theorem Link.mem_ofHops {hops : List Hop} {link : Link} (h : link ∈ Link.ofHops hops) :
    ∃ a ∈ hops, ∃ b ∈ hops, link = ⟨a.target, b.target, b.label⟩ := by
  rw [Link.ofHops, ← List.map_uncurry_zip_eq_zipWith] at h
  obtain ⟨⟨a, b⟩, hab, rfl⟩ := List.mem_map.1 h
  obtain ⟨ha, hb⟩ := List.of_mem_zip hab
  exact ⟨a, ha, b, List.mem_of_mem_tail hb, rfl⟩

/-- Links join hops when they lead from each hop to the next, in order, and have the
    labels of the hops to which they lead. -/
structure Link.Join (hops : List Hop) (links : List Link) : Prop where
  /-- There are as many links as steps from hop to hop. -/
  length_eq : links.length = hops.length - 1
  /-- Each step is a link. -/
  step : ∀ (i : Nat) (a b : Hop), hops[i]? = some a → hops[i + 1]? = some b →
    links[i]? = some ⟨a.target, b.target, b.label⟩

theorem Link.join_ofHops (hops : List Hop) : Link.Join hops (Link.ofHops hops) where
  length_eq := by
    rw [Link.ofHops, List.length_zipWith, List.length_tail]
    omega
  step i a b ha hb := by
    rw [Link.ofHops, List.getElem?_zipWith, List.getElem?_tail, ha, hb]

/-- The links of each of several rows of hops join it. -/
theorem Link.forall₂_join_ofHops (rows : List (List Hop)) :
    List.Forall₂ Link.Join rows (rows.map Link.ofHops) := by
  induction rows with
  | nil => exact .nil
  | cons hops rest ih => exact .cons (Link.join_ofHops hops) ih

/-- A hop behind others is linked to the last of them. -/
theorem Link.mem_ofHops_of_getLast? {before after : List Hop} {a b : Hop}
    (h : before.getLast? = some a) :
    ⟨a.target, b.target, b.label⟩ ∈ Link.ofHops (before ++ b :: after) := by
  obtain ⟨init, rfl⟩ := List.getLast?_eq_some_iff.1 h
  refine List.mem_of_getElem? ((Link.join_ofHops _).step init.length a b ?_ ?_)
  · simp
  · simp

theorem Link.length_ofHops_le (hops : List Hop) : (Link.ofHops hops).length ≤ hops.length := by
  rw [Link.ofHops, List.length_zipWith]
  exact Nat.min_le_left _ _

/-- A link that can come out of a line: from target to target, by a clean
    label. -/
structure Link.WellFormed (link : Link) : Prop where
  /-- It starts at something. -/
  source : IsTarget link.source
  /-- It ends at something. -/
  target : IsTarget link.target
  /-- Its label can be written. -/
  label : EdgeLabel.Clean link.label

/-- The links of a line are well-formed. -/
theorem Link.wellFormed_of_mem (hs : Unbroken s) :
    ∀ link ∈ Link.ofHops ((Hop.ofLine s).filter Hop.hasTarget), link.WellFormed := by
  intro link hlink
  obtain ⟨a, ha, b, hb, rfl⟩ := Link.mem_ofHops hlink
  obtain ⟨ha, hat⟩ := List.mem_filter.1 ha
  obtain ⟨hb, hbt⟩ := List.mem_filter.1 hb
  exact ⟨(Hop.mem_ofLine hs a ha).2 hat, (Hop.mem_ofLine hs b hb).2 hbt,
    (Hop.mem_ofLine hs b hb).1⟩

end FlowScript
