import FlowScript.Proofs.Script.Reading
import Mathlib.Data.List.MinMax

/-!
# Writing in the chain notation

Links are written as chains of two labels, a line each, and the labels that
have no link follow, a line each. No line opens or closes with an arrow, so
none is joined to another, and every line is read for itself. What it is read
as depends on how its labels begin: a label that opens with a pipe loses it
(and more), and one that opens like a definition turns the whole text into the
numbered notation.

Main statements: the links and labels are read back if they are `Faithful`
(`ofText_write`), and only then (`faithful_of_ofText`).
-/

namespace FlowScript

open Text (InkedLine Inked Trimmed isNumeral)

namespace Chain

/-- What is written behind the arrow of a link: its label, if it has one,
    between pipes, and its end. -/
def behind (l : Link) : Text :=
  if l.label.isEmpty then l.target else '|' :: l.label ++ '|' :: ' ' :: l.target

/-- The chain of a link. -/
def chain (l : Link) : Text :=
  let arrow :=
    if l.label.isEmpty then [' ', '-', '>', ' ']
    else [' ', '-', '>', ' ', '|'] ++ l.label ++ ['|', ' ']
  l.source ++ arrow ++ l.target

/-- The lines that are written: chains of links, then single labels. -/
def entries (links : List Link) (single : List Text) : List Text :=
  links.map chain ++ single

/-- The chains of links and single labels as a text. -/
def write (links : List Link) (single : List Text) : Text :=
  Text.join ['\n'] (entries links single)

/-- Links and single labels that can be written, each on a line. -/
structure Writable (links : List Link) (single : List Text) : Prop where
  /-- Links join what can be the end of one. -/
  link : ∀ l ∈ links, l.WellFormed
  /-- Single labels could be the ends of links. -/
  target : ∀ s ∈ single, IsTarget s

/-- Links and single labels that are read as they are meant. -/
structure Faithful (links : List Link) (single : List Text) : Prop where
  /-- There is an arrow. -/
  linked : links ≠ []
  /-- A source is not taken for the label of an edge. -/
  source : ∀ l ∈ links, l.source.head? ≠ some '|'
  /-- Nor is a target, unless a label stands in front of it. -/
  target : ∀ l ∈ links, l.label = [] → l.target.head? ≠ some '|'
  /-- Nor is a single label. -/
  unpiped : ∀ s ∈ single, s.head? ≠ some '|'
  /-- A source does not begin a definition. -/
  undefined : ∀ l ∈ links, ¬Numbered.OpensDefinition l.source
  /-- Nor does a single label. -/
  singleUndefined : ∀ s ∈ single, ¬Numbered.OpensDefinition s

variable {links : List Link} {single : List Text} {link : Link} {s t entry : Text}

/-! ## Lines -/

theorem chain_eq (l : Link) : chain l = (l.source ++ [' ']) ++ '-' :: '>' :: ' ' :: behind l := by
  rw [chain, behind]
  split <;> simp

theorem inked_chain (h : link.WellFormed) : Inked (chain link) where
  ne_nil := by simp [chain, h.source.ne_nil]
  trimmed := h.source.trimmed.append_append h.target.trimmed h.source.ne_nil h.target.ne_nil _
  unbroken := by
    rw [chain, Text.unbroken_append, Text.unbroken_append]
    refine ⟨⟨h.source.unbroken, ?_⟩, h.target.unbroken⟩
    split
    · decide
    · rw [Text.unbroken_append, Text.unbroken_append]
      exact ⟨⟨by decide, h.label.unbroken⟩, by decide⟩

theorem opens_chain (h : link.WellFormed) : Arrow.opens (chain link) = false := by
  rw [chain_eq, List.append_assoc, List.singleton_append, Arrow.opens_append_space]
  exact h.source.opens

theorem closes_chain (h : link.WellFormed) : Arrow.closes (chain link) = false := by
  have hline : ∃ before, chain link = before ++ ' ' :: link.target := by
    rw [chain]
    split
    · exact ⟨link.source ++ [' ', '-', '>'], by simp⟩
    · exact ⟨link.source ++ [' ', '-', '>', ' ', '|'] ++ link.label ++ ['|'], by simp⟩
  obtain ⟨before, hline⟩ := hline
  rw [hline, Arrow.closes_append_space h.target.ne_nil]
  exact h.target.closes

/-- Every line has ink. -/
theorem Writable.inked (h : Writable links single) : ∀ e ∈ entries links single, Inked e := by
  intro e he
  rcases List.mem_append.1 he with he | he
  · obtain ⟨l, hl, rfl⟩ := List.mem_map.1 he
    exact inked_chain (h.link l hl)
  · exact (h.target e he).toInked

/-- No line goes on before or behind it. -/
theorem Writable.whole (h : Writable links single) :
    ∀ e ∈ entries links single, Arrow.opens e = false ∧ Arrow.closes e = false := by
  intro e he
  rcases List.mem_append.1 he with he | he
  · obtain ⟨l, hl, rfl⟩ := List.mem_map.1 he
    exact ⟨opens_chain (h.link l hl), closes_chain (h.link l hl)⟩
  · exact ⟨(h.target e he).opens, (h.target e he).closes⟩

/-- Lines of which none goes on are not joined. -/
theorem splitBy_joins {is : List InkedLine}
    (h : ∀ i ∈ is, Arrow.opens i.text = false ∧ Arrow.closes i.text = false) :
    is.splitBy Wrap.joins = is.map fun i => [i] := by
  rw [List.splitBy_eq_iff]
  -- Each line is a group, and no group is joined to the next one.
  refine ⟨by simp [← List.flatMap_def], by simp, by simp, ?_⟩
  rw [List.isChain_map]
  refine List.Pairwise.isChain (List.pairwise_of_forall_mem_list fun a ha b hb => ?_)
  exact ⟨by simp, by simp, by simp [Wrap.joins, (h a ha).2, (h b hb).1]⟩

/-- The lines that are read are those that are written. -/
theorem map_text_unwrappedLines (h : Writable links single) :
    (Wrap.unwrappedLines (write links single)).map InkedLine.text = entries links single := by
  have htext := Text.inkedLines_join h.inked
  have hgroups : Wrap.groups (write links single) =
      (Text.inkedLines (write links single)).map fun i => [i] :=
    splitBy_joins fun i hi => h.whole i.text (htext ▸ List.mem_map_of_mem hi)
  rw [Wrap.unwrappedLines, hgroups, List.map_map, List.map_map, ← htext]
  refine List.map_congr_left fun i _ => ?_
  simp [Wrap.unwrap]

/-! ## Hops of a line -/

/-- The hops that a line leads to. -/
def hopsOf (line : Text) : List Hop :=
  (Hop.ofLine line).filter Hop.hasTarget

/-- The hop that is read behind the arrow of a link. -/
def targetHop (l : Link) : Hop :=
  if l.label.isEmpty then Hop.ofSegment l.target else ⟨l.label, l.target, none⟩

/-- The hops of a chain. A label in front of the target shields it. -/
theorem ofLine_chain (h : link.WellFormed) :
    Hop.ofLine (chain link) = [Hop.ofSegment link.source, targetHop link] := by
  have hs : Arrow.occursIn (link.source ++ [' ']) = false := by
    rw [Arrow.occursIn_append_cons (by decide) (by decide) (by decide), h.source.no_arrow]
    rfl
  have hdash : (link.source ++ [' ']).getLast? ≠ some '-' := by simp
  have hsource : Hop.ofSegment (link.source ++ [' ']) = Hop.ofSegment link.source :=
    Hop.ofSegment_congr (by rw [h.source.trimmed.trim_append (by decide), h.source.trimmed])
  have htail : Trimmed (behind link) ∧ Arrow.occursIn (behind link) = false ∧
      Hop.ofSegment (behind link) = targetHop link := by
    rw [behind, targetHop]
    split
    · exact ⟨h.target.trimmed, h.target.no_arrow, rfl⟩
    · exact Hop.ofSegment_piped h.label h.target (List.forall_mem_singleton.2 (by decide))
  obtain ⟨htrim, harrow, hhop⟩ := htail
  have harrow' : Arrow.occursIn (' ' :: behind link) = false := by
    rw [Arrow.occursIn_cons, harrow]
    rfl
  have htarget : Hop.ofSegment (' ' :: behind link) = targetHop link := by
    rw [← hhop]
    exact Hop.ofSegment_congr (by rw [htrim.trim_cons (by decide), htrim])
  rw [chain_eq, Hop.ofLine_append_arrow hs hdash harrow', hsource, htarget]

/-- A single label has one hop. -/
theorem ofLine_single (h : IsTarget s) : Hop.ofLine s = [Hop.ofSegment s] := by
  rw [Hop.ofLine, Arrow.split_eq_singleton h.no_arrow]
  rfl

/-- What opens with a pipe is not read as it is written. -/
theorem target_ofSegment_ne (h : IsTarget s) (hpipe : s.head? = some '|') :
    (Hop.ofSegment s).target ≠ s := by
  intro heq
  have hlt := Hop.length_target_lt (s := s) (by rwa [h.trimmed])
  rw [heq, h.trimmed] at hlt
  exact Nat.lt_irrefl _ hlt

/-- A chain without bare pipes has the hops that are meant. -/
theorem hopsOf_chain (h : link.WellFormed) (hs : link.source.head? ≠ some '|')
    (ht : link.label = [] → link.target.head? ≠ some '|') :
    hopsOf (chain link) = [⟨[], link.source, none⟩, ⟨link.label, link.target, none⟩] := by
  have htarget : targetHop link = ⟨link.label, link.target, none⟩ := by
    rw [targetHop]
    split
    · next hl =>
      have hl : link.label = [] := List.isEmpty_iff.1 hl
      rw [Hop.ofSegment_of_isTarget h.target (ht hl), hl]
    · rfl
  rw [hopsOf, ofLine_chain h, Hop.ofSegment_of_isTarget h.source hs, htarget]
  simp [Hop.hasTarget, List.filter_cons, h.source.ne_nil, h.target.ne_nil]

/-- Two hops make one link, or none if one of them leads nowhere. -/
theorem ofHops_pair (a b : Hop) : Link.ofHops ([a, b].filter Hop.hasTarget) = [] ∨
    Link.ofHops ([a, b].filter Hop.hasTarget) = [⟨a.target, b.target, b.label⟩] := by
  cases ha : a.hasTarget <;> cases hb : b.hasTarget <;> simp [Link.ofHops, ha, hb]

theorem length_ofHops_chain (h : link.WellFormed) :
    (Link.ofHops (hopsOf (chain link))).length ≤ 1 := by
  rw [hopsOf, ofLine_chain h]
  rcases ofHops_pair (Hop.ofSegment link.source) (targetHop link) with h | h <;> simp [h]

theorem ofHops_single (h : IsTarget s) : Link.ofHops (hopsOf s) = [] := by
  rw [hopsOf, ofLine_single h, List.filter_singleton]
  cases (Hop.ofSegment s).hasTarget <;> rfl

/-- A chain from which the link is read that was meant has not been shortened at
    a pipe. -/
theorem ends_of_ofHops (h : link.WellFormed) (hl : Link.ofHops (hopsOf (chain link)) = [link]) :
    (Hop.ofSegment link.source).target = link.source ∧ (targetHop link).target = link.target := by
  rw [hopsOf, ofLine_chain h] at hl
  rcases ofHops_pair (Hop.ofSegment link.source) (targetHop link) with hp | hp
  · rw [hp] at hl
    cases hl
  · rw [hp, List.singleton_inj] at hl
    exact ⟨congrArg Link.source hl, congrArg Link.target hl⟩

theorem unpiped_of_ofHops (h : link.WellFormed) (hl : Link.ofHops (hopsOf (chain link)) = [link]) :
    link.source.head? ≠ some '|' ∧ (link.label = [] → link.target.head? ≠ some '|') := by
  obtain ⟨hs, ht⟩ := ends_of_ofHops h hl
  refine ⟨fun hpipe => target_ofSegment_ne h.source hpipe hs, fun hlabel hpipe => ?_⟩
  rw [targetHop, hlabel, List.isEmpty_nil, if_pos rfl] at ht
  exact target_ofSegment_ne h.target hpipe ht

/-! ## All lines -/

variable {lines : List InkedLine} {label : Text}

/-- The links that are read from the lines that are written: single labels have
    none. -/
theorem links_eq_flatMap (h : Writable links single)
    (hlines : lines.map InkedLine.text = entries links single) :
    Chain.links lines = links.flatMap fun l => Link.ofHops (hopsOf (chain l)) := by
  have htexts : Chain.links lines =
      (lines.map InkedLine.text).flatMap fun t => Link.ofHops (hopsOf t) := by
    rw [List.flatMap_map]
    rfl
  have hsingle : (single.flatMap fun t => Link.ofHops (hopsOf t)) = [] :=
    List.flatMap_eq_nil_iff.2 fun s hs => ofHops_single (h.target s hs)
  rw [htexts, hlines, entries, List.flatMap_append, hsingle, List.append_nil, List.flatMap_map]

/-- The labels that are read from the lines that are written. -/
theorem mem_labels_iff (hlines : lines.map InkedLine.text = entries links single) :
    label ∈ labels lines ↔ ∃ e ∈ entries links single, ∃ h ∈ hopsOf e, h.target = label := by
  rw [mem_labels, ← hlines]
  simp only [List.mem_map, exists_exists_and_eq_and]
  rfl

/-- If every member gives at most one value and all together give the list
    itself, every member gives itself. -/
theorem eq_singleton_of_flatMap_eq {α : Type} {f : α → List α} {l : List α}
    (hf : ∀ a ∈ l, (f a).length ≤ 1) (h : l.flatMap f = l) : ∀ a ∈ l, f a = [a] := by
  have hle (l : List α) (hf : ∀ a ∈ l, (f a).length ≤ 1) : (l.flatMap f).length ≤ l.length := by
    induction l with
    | nil => rfl
    | cons a l ih =>
      rw [List.forall_mem_cons] at hf
      have := ih hf.2
      rw [List.flatMap_cons, List.length_append, List.length_cons]
      omega
  induction l with
  | nil => simp
  | cons a l ih =>
    rw [List.forall_mem_cons] at hf
    obtain ⟨ha, hl⟩ := hf
    rw [List.flatMap_cons] at h
    match hfa : f a with
    | [] =>
      -- Then the others would have to give one value more than they are.
      rw [hfa, List.nil_append] at h
      have := hle l hl
      rw [h, List.length_cons] at this
      omega
    | [b] =>
      rw [hfa, List.singleton_append, List.cons.injEq] at h
      rw [List.forall_mem_cons]
      exact ⟨by rw [hfa, h.1], ih hl h.2⟩
    | _ :: _ :: _ => simp [hfa] at ha

/-! ## Definitions -/

/-- A chain is a definition only if its source opens like one. -/
theorem opensDefinition_chain (h : Numbered.OpensDefinition (chain link)) :
    Numbered.OpensDefinition link.source := by
  rw [chain_eq, List.append_assoc] at h
  refine h.of_append fun c hc => ?_
  obtain rfl : ' ' = c := Option.some.inj hc
  decide

/-- What is written is not numbered iff no label in front opens like a
    definition. -/
theorem read_notApplicable_iff (h : Writable links single) :
    (∃ reason, Numbered.read (write links single) = .notApplicable reason) ↔
      ∀ e ∈ entries links single, ¬Numbered.OpensDefinition e := by
  rw [Numbered.read_notApplicable_iff, ← Text.inkedLines_join h.inked, write, List.forall_mem_map]
  refine forall₂_congr fun i _ => ?_
  rw [← Numbered.exists_ofText_definition_iff]
  simp only [not_exists]

/-! ## Round trip -/

/-- The label is drawn: at an end of a link or on its own. -/
def Drawn (links : List Link) (single : List Text) (label : Text) : Prop :=
  (∃ l ∈ links, label = l.source ∨ label = l.target) ∨ label ∈ single

/-- An arrow is written iff there is a link. -/
theorem occursIn_write (h : Writable links single) :
    Arrow.occursIn (write links single) = true ↔ links ≠ [] := by
  constructor
  · rintro harrow rfl
    have hnot : Arrow.occursIn (write [] single) = false :=
      Arrow.not_occursIn_join (by decide) (by decide) (by decide) (fun _ => rfl)
        fun s hs => (h.target s hs).no_arrow
    rw [hnot] at harrow
    cases harrow
  · intro hne
    obtain ⟨l, rest, rfl⟩ := List.exists_cons_of_ne_nil hne
    have hchain : Arrow.occursIn (chain l) = true := by
      rw [chain_eq]
      exact Arrow.occursIn_append_right _ rfl
    refine Bool.not_eq_false _ ▸ fun hnot => ?_
    have hpart : chain l <:+: write (l :: rest) single := Text.infix_join (by simp [entries])
    rw [Arrow.not_occursIn_of_infix hpart hnot] at hchain
    cases hchain

/-- Faithful links are read as they are meant. -/
theorem Faithful.hopsOf_chain (hf : Faithful links single) (h : Writable links single)
    (hl : link ∈ links) :
    hopsOf (chain link) = [⟨[], link.source, none⟩, ⟨link.label, link.target, none⟩] :=
  Chain.hopsOf_chain (h.link link hl) (hf.source link hl) (hf.target link hl)

theorem Faithful.hopsOf_single (hf : Faithful links single) (h : Writable links single)
    (hs : s ∈ single) : hopsOf s = [⟨[], s, none⟩] := by
  rw [hopsOf, ofLine_single (h.target s hs),
    Hop.ofSegment_of_isTarget (h.target s hs) (hf.unpiped s hs)]
  simp [Hop.hasTarget, (h.target s hs).ne_nil]

/-- From faithful lines just the labels that are drawn are read. -/
theorem Faithful.mem_labels_iff (hf : Faithful links single) (h : Writable links single)
    (hlines : lines.map InkedLine.text = entries links single) :
    label ∈ labels lines ↔ Drawn links single label := by
  rw [Chain.mem_labels_iff hlines, Drawn]
  constructor
  · rintro ⟨e, he, hop, hhop, rfl⟩
    rcases List.mem_append.1 he with he | he
    · obtain ⟨l, hl, rfl⟩ := List.mem_map.1 he
      rw [hf.hopsOf_chain h hl] at hhop
      simp only [List.mem_cons, List.not_mem_nil, or_false] at hhop
      rcases hhop with rfl | rfl
      · exact .inl ⟨l, hl, .inl rfl⟩
      · exact .inl ⟨l, hl, .inr rfl⟩
    · rw [hf.hopsOf_single h he, List.mem_singleton] at hhop
      exact .inr (hhop ▸ he)
  · rintro (⟨l, hl, hend⟩ | hs)
    · refine ⟨chain l, List.mem_append_left _ (List.mem_map_of_mem hl), ?_⟩
      rw [hf.hopsOf_chain h hl]
      rcases hend with rfl | rfl
      · exact ⟨_, List.mem_cons_self, rfl⟩
      · exact ⟨_, List.mem_cons_of_mem _ List.mem_cons_self, rfl⟩
    · refine ⟨label, List.mem_append_right _ hs, ?_⟩
      rw [hf.hopsOf_single h hs]
      exact ⟨_, List.mem_cons_self, rfl⟩

/-- Faithful links and labels, of which two differ, are read back. -/
theorem ofText_write (h : Writable links single) (hf : Faithful links single)
    (htwo : ∃ a b, a ≠ b ∧ Drawn links single a ∧ Drawn links single b) :
    ∃ labels notes, Reading.ofText (write links single) =
        .recognized chainDialect (.labelled labels links) notes ∧
      ∀ label, label ∈ labels ↔ Drawn links single label := by
  have hlines := map_text_unwrappedLines h
  have harrow := (occursIn_write h).2 hf.linked
  have hlinks : Chain.links (Wrap.unwrappedLines (write links single)) = links := by
    rw [links_eq_flatMap h hlines]
    conv_rhs => rw [← List.flatMap_singleton' links]
    refine List.flatMap_congr fun l hl => ?_
    rw [hf.hopsOf_chain h hl]
    rfl
  have hmem (label : Text) : label ∈ labels (Wrap.unwrappedLines (write links single)) ↔
      Drawn links single label := hf.mem_labels_iff h hlines
  have hlength : 2 ≤ (labels (Wrap.unwrappedLines (write links single))).length := by
    obtain ⟨a, b, hne, ha, hb⟩ := htwo
    have hsub : [a, b] ⊆ labels (Wrap.unwrappedLines (write links single)) := by
      simp [(hmem a).2 ha, (hmem b).2 hb]
    have hnodup : [a, b].Nodup := by simpa using hne
    exact hnodup.length_le_of_subset hsub
  have hread : read (write links single) = .recognized chainDialect
      (.labelled (labels (Wrap.unwrappedLines (write links single))) links)
      ((Wrap.unwrappedLines (write links single)).flatMap notes) :=
    read_eq_recognized_iff.2 ⟨harrow, hlength, rfl, by rw [hlinks], rfl⟩
  obtain ⟨reason, hnum⟩ := (read_notApplicable_iff h).2 <| by
    intro e he hdef
    rcases List.mem_append.1 he with he | he
    · obtain ⟨l, hl, rfl⟩ := List.mem_map.1 he
      exact hf.undefined l hl (opensDefinition_chain hdef)
    · exact hf.singleUndefined e he hdef
  have hink : Text.isBlankText (write links single) = false := by
    refine Bool.eq_false_iff.2 fun hblank => ?_
    -- There is an arrow, and no blank is a part of one.
    rw [Arrow.not_occursIn_of_forall fun c hc => ?_] at harrow
    · cases harrow
    · have hc := List.all_eq_true.1 hblank c hc
      constructor
      · rintro rfl
        exact absurd hc (by decide)
      · rintro rfl
        exact absurd hc (by decide)
  exact ⟨_, _, Reading.ofText_of_chain hink hnum hread, hmem⟩

/-- A label that is read from a single label is that label, or shorter because
    a pipe was lost. -/
theorem target_of_mem_hopsOf_single (h : IsTarget s) {hop : Hop} (hhop : hop ∈ hopsOf s) :
    (s.head? ≠ some '|' ∧ hop.target = s) ∨
      s.head? = some '|' ∧ hop.target.length < s.length := by
  rw [hopsOf, ofLine_single h] at hhop
  obtain rfl := List.mem_singleton.1 (List.mem_filter.1 hhop).1
  by_cases hpipe : s.head? = some '|'
  · have hlt := Hop.length_target_lt (s := s) (by rwa [h.trimmed])
    rw [h.trimmed] at hlt
    exact .inr ⟨hpipe, hlt⟩
  · exact .inl ⟨hpipe, by rw [Hop.ofSegment_of_isTarget h hpipe]⟩

/-- A label that is read from a chain is an end of the link, if that is what is
    read. -/
theorem target_of_mem_hopsOf_chain (h : link.WellFormed)
    (hl : Link.ofHops (hopsOf (chain link)) = [link]) {hop : Hop}
    (hhop : hop ∈ hopsOf (chain link)) : hop.target = link.source ∨ hop.target = link.target := by
  obtain ⟨hs, ht⟩ := ends_of_ofHops h hl
  rw [hopsOf, ofLine_chain h] at hhop
  have hmem := (List.mem_filter.1 hhop).1
  simp only [List.mem_cons, List.not_mem_nil, or_false] at hmem
  rcases hmem with rfl | rfl
  · exact .inl hs
  · exact .inr ht

/-- Single labels that are read from one another do not open with pipes: the
    longest one that did would have been longer before. -/
theorem unpiped_of_single (h : ∀ s ∈ single, IsTarget s)
    (hread : ∀ s ∈ single, ∃ t ∈ single, ∃ hop ∈ hopsOf t, hop.target = s) :
    ∀ s ∈ single, s.head? ≠ some '|' := by
  intro s hs hpipe
  -- The longest label with a pipe is read from some label of the list, which is
  -- longer unless it has no pipe; but then it is read as it is.
  let piped := single.filter fun s => s.head? = some '|'
  have hne : piped ≠ [] := List.ne_nil_of_mem (List.mem_filter.2 ⟨hs, by simpa using hpipe⟩)
  obtain ⟨m, hm⟩ := Option.ne_none_iff_exists'.1 (mt (List.argmax_eq_none (f := List.length)).1 hne)
  obtain ⟨hmem, hmpipe⟩ := List.mem_filter.1 (List.argmax_mem hm)
  obtain ⟨t, ht, hop, hhop, rfl⟩ := hread m hmem
  rcases target_of_mem_hopsOf_single (h t ht) hhop with ⟨hbare, heq⟩ | ⟨htpipe, hlt⟩
  · exact hbare (by simpa [heq] using hmpipe)
  · have hle := List.le_of_mem_argmax (List.mem_filter.2 ⟨ht, by simpa using htpipe⟩) hm
    exact Nat.lt_irrefl _ (hlt.trans_le hle)

/-- Links and labels that are read back, the links in order, are faithful. -/
theorem faithful_of_ofText (h : Writable links single)
    (halone : ∀ s ∈ single, ∀ l ∈ links, s ≠ l.source ∧ s ≠ l.target)
    {dialect : Text} {ls : List Text} {notes : List Note}
    (hread : Reading.ofText (write links single) = .recognized dialect (.labelled ls links) notes)
    (hls : ∀ label, label ∈ ls ↔ Drawn links single label) : Faithful links single := by
  obtain ⟨hnum, hread⟩ := Reading.read_of_ofText_labelled hread
  have hlines := map_text_unwrappedLines h
  have hundef := (read_notApplicable_iff h).1 hnum
  obtain ⟨harrow, -, -, hsketch, -⟩ := read_eq_recognized_iff.1 hread
  obtain ⟨rfl, hlinks⟩ := Sketch.labelled.inj hsketch
  rw [links_eq_flatMap h hlines] at hlinks
  -- As many links as chains, so each chain gives the link that was meant.
  have heach := eq_singleton_of_flatMap_eq (fun l hl => length_ofHops_chain (h.link l hl)) hlinks.symm
  have hsingle : ∀ s ∈ single, ∃ t ∈ single, ∃ hop ∈ hopsOf t, hop.target = s := by
    intro s hs
    obtain ⟨e, he, hop, hhop, rfl⟩ := (mem_labels_iff hlines).1 ((hls s).2 (.inr hs))
    rcases List.mem_append.1 he with he | he
    · -- Not from a chain, whose labels are those of the link.
      obtain ⟨l, hl, rfl⟩ := List.mem_map.1 he
      obtain ⟨hsource, htarget⟩ := halone _ hs l hl
      rcases target_of_mem_hopsOf_chain (h.link l hl) (heach l hl) hhop with heq | heq
      · exact absurd heq hsource
      · exact absurd heq htarget
    · exact ⟨e, he, hop, hhop, rfl⟩
  exact
    { linked := (occursIn_write h).1 harrow
      source := fun l hl => (unpiped_of_ofHops (h.link l hl) (heach l hl)).1
      target := fun l hl => (unpiped_of_ofHops (h.link l hl) (heach l hl)).2
      unpiped := unpiped_of_single h.target hsingle
      undefined := fun l hl hdef => hundef _ (List.mem_append_left _ (List.mem_map_of_mem hl)) <| by
        rw [chain_eq, List.append_assoc]
        exact hdef.append _
      singleUndefined := fun s hs => hundef s (List.mem_append_right _ hs) }

end Chain

end FlowScript
