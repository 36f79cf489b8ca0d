import FlowScript.Proofs.Script.Hop
import FlowScript.Script.Chain
import Mathlib.Algebra.Order.BigOperators.Group.List
import Mathlib.Algebra.Order.Group.Nat
import Mathlib.Data.List.SplitBy

/-!
# Unwrapping

The chains of a text come out of its inked lines one by one, from the last to
the first: a line is attached to the chain behind it, or stands as a chain of
its own (`map_text_unwrappedLines`). An unwrapped line is one line, and
unwrapping adds less than one character for each inked line.

Lines are *alike* when they have the same hops and either both open with an
arrow or neither does. Attaching a line to chains that are alike gives chains
that are alike (`alike_attach`), so what stands behind a line cannot tell such
lines apart.
-/

namespace FlowScript.Wrap

open Text (InkedLine Unbroken Inked inkedTexts trim)

variable {s : Text} {line line' : Text} {is : List InkedLine}

/-! ## Unwrapped lines -/

theorem mem_of_mem_groups {group : List InkedLine} {i : InkedLine} (hg : group ∈ groups s)
    (hi : i ∈ group) : i ∈ Text.inkedLines s := by
  rw [← List.flatten_splitBy joins (Text.inkedLines s)]
  exact List.mem_flatten.2 ⟨group, hg, hi⟩

/-- The characters of an unwrapped line are characters of the text, or spaces. -/
theorem mem_of_mem_unwrappedLines {i : InkedLine} {c : Char} (h : i ∈ unwrappedLines s)
    (hc : c ∈ i.text) : c = ' ' ∨ c ∈ s := by
  obtain ⟨group, hg, rfl⟩ := List.mem_map.1 h
  obtain hsep | ⟨line, hline, hc⟩ := Text.mem_of_mem_join hc
  · exact .inl (List.mem_singleton.1 hsep)
  · obtain ⟨j, hj, rfl⟩ := List.mem_map.1 hline
    exact .inr (Text.mem_of_mem_inkedLines (mem_of_mem_groups hg hj) hc)

/-- An unwrapped line is one line. -/
theorem unbroken_of_mem_unwrappedLines {i : InkedLine} (h : i ∈ unwrappedLines s) :
    Unbroken i.text := by
  obtain ⟨group, hg, rfl⟩ := List.mem_map.1 h
  refine Unbroken.join (by decide) fun l hl => ?_
  obtain ⟨j, hj, rfl⟩ := List.mem_map.1 hl
  exact (Text.mem_inkedLines (mem_of_mem_groups hg hj)).unbroken

/-- Unwrapped lines are in the order of their numbers, which are those of the first lines
    of the groups. -/
theorem pairwise_number_unwrappedLines (s : Text) :
    (unwrappedLines s).Pairwise fun i j => i.number < j.number := by
  have hlines := Text.pairwise_number_inkedLines s
  rw [← List.flatten_splitBy joins (Text.inkedLines s), List.pairwise_flatten] at hlines
  have hne : [] ∉ groups s := List.nil_notMem_splitBy _ _
  rw [unwrappedLines, List.pairwise_map]
  refine hlines.2.imp_of_mem fun {g g'} hg hg' hlt => ?_
  obtain ⟨i, rest, rfl⟩ := List.exists_cons_of_ne_nil (ne_of_mem_of_not_mem hg hne)
  obtain ⟨j, rest', rfl⟩ := List.exists_cons_of_ne_nil (ne_of_mem_of_not_mem hg' hne)
  exact hlt i List.mem_cons_self j List.mem_cons_self

/-- Unwrapping groups adds less than one character for each line. -/
theorem sum_length_unwrap (gs : List (List InkedLine)) (hne : [] ∉ gs) :
    ((gs.map unwrap).map fun i => i.text.length + 1).sum ≤
      2 * (gs.flatten.map fun i => i.text.length + 1).sum := by
  induction gs with
  | nil => simp
  | cons g gs ih =>
    rw [List.mem_cons, not_or] at hne
    obtain ⟨i, rest, rfl⟩ := List.exists_cons_of_ne_nil (Ne.symm hne.1)
    have ih := ih hne.2
    have hjoin : (unwrap (i :: rest)).text.length ≤
        ((i :: rest).map fun j => j.text.length + 1).sum := by
      refine Text.length_join_le.trans_eq ?_
      rw [List.map_map]
      rfl
    simp only [List.map_cons, List.sum_cons, List.flatten_cons, List.map_append,
      List.sum_append] at hjoin ih ⊢
    omega

theorem sum_length_unwrappedLines (s : Text) :
    ((unwrappedLines s).map fun i => i.text.length + 1).sum ≤ 4 * s.length := by
  have h := sum_length_unwrap (groups s) (List.nil_notMem_splitBy _ _)
  have hsum := Text.sum_length_inkedLines s
  rw [groups, List.flatten_splitBy] at h
  rw [unwrappedLines, groups]
  omega

/-! ## Line by line -/

/-- The chains with one more line in front of them. -/
def attach (line : Text) : List Text → List Text
  | [] => [line]
  | chain :: chains =>
    if Arrow.closes line || Arrow.opens chain then (line ++ ' ' :: chain) :: chains
    else line :: chain :: chains

theorem attach_of_joins {chain : Text} {chains : List Text}
    (h : (Arrow.closes line || Arrow.opens chain) = true) :
    attach line (chain :: chains) = (line ++ ' ' :: chain) :: chains :=
  if_pos h

theorem attach_of_not_joins {chain : Text} {chains : List Text}
    (h : ¬(Arrow.closes line || Arrow.opens chain) = true) :
    attach line (chain :: chains) = line :: chain :: chains :=
  if_neg h

/-- One more element in front joins the first of the groups or stands alone. -/
theorem splitBy_cons {α : Type} {r : α → α → Bool} {a b : α} {l g : List α} {gs : List (List α)}
    (h : l.splitBy r = (b :: g) :: gs) :
    (a :: l).splitBy r = if r a b then (a :: b :: g) :: gs else [a] :: (b :: g) :: gs := by
  obtain ⟨hl, hne, hchain, hcut⟩ := List.splitBy_eq_iff.1 h
  split
  · next hab =>
    rw [List.splitBy_eq_iff]
    refine ⟨by rw [hl]; rfl, by simpa using hne, ?_, ?_⟩
    · rw [List.forall_mem_cons] at hchain ⊢
      exact ⟨List.isChain_cons_cons.2 ⟨hab, hchain.1⟩, hchain.2⟩
    · -- The first group ends where it did.
      cases gs with
      | nil => exact List.isChain_singleton _
      | cons g' gs =>
        rw [List.isChain_cons_cons] at hcut ⊢
        obtain ⟨⟨_, hg', hr⟩, hcut⟩ := hcut
        exact ⟨⟨List.cons_ne_nil _ _, hg', by rwa [List.getLast_cons_cons]⟩, hcut⟩
  · next hab =>
    have hl : l = b :: (g ++ gs.flatten) := hl
    have hsplit := List.splitBy_append_cons (l := [a]) (g ++ gs.flatten)
      (by simpa using hab)
    rw [← hl, h] at hsplit
    exact hsplit

theorem text_unwrap_singleton (i : InkedLine) : (unwrap [i]).text = i.text := by
  simp [unwrap]

theorem text_unwrap_cons_cons (i j : InkedLine) (group : List InkedLine) :
    (unwrap (i :: j :: group)).text = i.text ++ ' ' :: (unwrap (j :: group)).text := by
  simp [unwrap, Text.join_cons_cons]

/-- A chain opens as its first line does. -/
theorem opens_text_unwrap (i : InkedLine) (group : List InkedLine) :
    Arrow.opens (unwrap (i :: group)).text = Arrow.opens i.text := by
  cases group with
  | nil => simp [unwrap]
  | cons j group => rw [text_unwrap_cons_cons, Arrow.opens_append_space]

/-- The chains of lines come out line by line, from the last to the first. -/
theorem map_text_unwrap_splitBy (is : List InkedLine) :
    ((is.splitBy joins).map unwrap).map InkedLine.text =
      (is.map InkedLine.text).foldr attach [] := by
  induction is with
  | nil => rfl
  | cons i is ih =>
    rw [List.map_cons, List.foldr_cons, ← ih]
    cases hs : is.splitBy joins with
    | nil =>
      obtain rfl : is = [] := List.splitBy_eq_nil.1 hs
      exact congrArg (· :: []) (text_unwrap_singleton i)
    | cons group groups =>
      have hne : group ≠ [] := List.ne_nil_of_mem_splitBy (hs ▸ List.mem_cons_self)
      obtain ⟨j, group, rfl⟩ := List.exists_cons_of_ne_nil hne
      rw [splitBy_cons hs, joins, List.map_cons, List.map_cons, attach, opens_text_unwrap]
      split
      · rw [List.map_cons, List.map_cons, text_unwrap_cons_cons]
      · rw [List.map_cons, List.map_cons, List.map_cons, List.map_cons, text_unwrap_singleton]

theorem map_text_unwrappedLines (s : Text) :
    (unwrappedLines s).map InkedLine.text = (inkedTexts s).foldr attach [] :=
  map_text_unwrap_splitBy (Text.inkedLines s)

/-! ## Lines that are alike -/

/-- The lines have the same hops and go on with a chain in the same way. -/
structure Alike (line line' : Text) : Prop where
  /-- The hops are the same. -/
  hops : Hop.ofLine line = Hop.ofLine line'
  /-- Either both lines open with an arrow or neither does. -/
  opens : Arrow.opens line = Arrow.opens line'

theorem Alike.refl (line : Text) : Alike line line :=
  ⟨rfl, rfl⟩

/-- Lines that are alike make chains that are alike with what they join. -/
theorem Alike.join {chain chain' : Text} (hline : Alike line line')
    (hcloses : Arrow.closes line = Arrow.closes line') (hchain : Alike chain chain')
    (hjoin : (Arrow.closes line || Arrow.opens chain) = true) :
    Alike (line ++ ' ' :: chain) (line' ++ ' ' :: chain') where
  hops := by
    rw [Bool.or_eq_true] at hjoin
    rcases hjoin with hc | ho
    · rw [Hop.ofLine_append_of_closes hc, Hop.ofLine_append_of_closes (hcloses ▸ hc), hline.hops,
        hchain.hops]
    · rw [Hop.ofLine_append_of_opens line ho, Hop.ofLine_append_of_opens line' (hchain.opens ▸ ho),
        hline.hops, hchain.hops]
  opens := by rw [Arrow.opens_append_space, Arrow.opens_append_space, hline.opens]

/-- One more line keeps chains alike. -/
theorem alike_attach (line : Text) {chains chains' : List Text}
    (h : List.Forall₂ Alike chains chains') :
    List.Forall₂ Alike (attach line chains) (attach line chains') := by
  cases h with
  | nil => exact .cons (.refl line) .nil
  | @cons chain chain' chains chains' hchain hchains =>
    simp only [attach, ← hchain.opens]
    split
    · next hjoin => exact .cons ((Alike.refl line).join rfl hchain hjoin) hchains
    · exact .cons (.refl line) (.cons hchain hchains)

/-- So do many. -/
theorem alike_foldr_attach (lines : List Text) {chains chains' : List Text}
    (h : List.Forall₂ Alike chains chains') :
    List.Forall₂ Alike (lines.foldr attach chains) (lines.foldr attach chains') := by
  induction lines with
  | nil => exact h
  | cons line lines ih => exact alike_attach line ih

/-! ## Lines in two pieces -/

/-- A line is cut into two pieces that a reader puts together again. -/
structure Cut (front back line : Text) : Prop where
  /-- The pieces are joined. -/
  joins : (Arrow.closes front || Arrow.opens back) = true
  /-- Joined they are alike to the line. -/
  alike : Alike (front ++ ' ' :: back) line
  /-- The line closes as its second piece does. -/
  closes : Arrow.closes back = Arrow.closes line
  /-- There is a second piece. -/
  back_ne_nil : back ≠ []

/-- The pieces of a line go on with a chain as the line does. -/
theorem Cut.alike_attach {front back : Text} (h : Cut front back line) (chains : List Text) :
    List.Forall₂ Alike (attach front (attach back chains)) (attach line chains) := by
  cases chains with
  | nil => exact attach_of_joins h.joins ▸ .cons h.alike .nil
  | cons chain chains =>
    have hchains : List.Forall₂ Alike chains chains := List.forall₂_same.2 fun c _ => .refl c
    by_cases hjoin : (Arrow.closes back || Arrow.opens chain) = true
    · -- All three are joined, and the pieces may be joined first.
      have hfront : (Arrow.closes front || Arrow.opens (back ++ ' ' :: chain)) = true := by
        rw [Arrow.opens_append_space, h.joins]
      have hcloses : Arrow.closes (front ++ ' ' :: back) = Arrow.closes line := by
        rw [Arrow.closes_append_space h.back_ne_nil, h.closes]
      rw [attach_of_joins hjoin, attach_of_joins hfront, attach_of_joins (h.closes ▸ hjoin)]
      refine .cons ?_ hchains
      have hpieces := h.alike.join hcloses (.refl chain)
        (by rwa [Arrow.closes_append_space h.back_ne_nil])
      rwa [List.append_assoc, List.cons_append] at hpieces
    · rw [attach_of_not_joins hjoin, attach_of_joins h.joins,
        attach_of_not_joins (h.closes ▸ hjoin)]
      exact .cons h.alike (.cons (.refl chain) hchains)

/-! ## Lines cut at an arrow -/

section Arrow

variable {before after arrow rest : Text}

/-- What stands behind a text changes nothing about how it opens once both are
    trimmed, if no dash of the text is part of an arrow that it completes. -/
theorem opens_trimLeft_append (hne : trim before ≠ [])
    (h : before.getLast? = some '-' → Arrow.isTail rest = false) :
    Arrow.opens (Text.trimLeft before ++ rest) = Arrow.opens (trim before) := by
  obtain ⟨blanks, hleft, hblank⟩ := Text.exists_trimLeft_eq before
  have hne' : Text.trimLeft before ≠ [] := by simp [hleft, hne]
  have hlast : (Text.trimLeft before).getLast? = before.getLast? := by
    obtain ⟨leading, hbefore⟩ : Text.trimLeft before <:+ before :=
      List.dropWhile_suffix Text.isBlank
    conv_rhs => rw [← hbefore, List.getLast?_append_of_ne_nil _ hne']
  rw [Arrow.opens_append hne' (hlast ▸ h), hleft,
    Arrow.opens_append hne fun _ => Arrow.isTail_of_isBlank hblank]

/-- A line cut in front of an arrow. -/
theorem cut_before_arrow (h : Arrow.Stands before arrow) (hne : trim before ≠ []) (after : Text) :
    Cut (trim before) (trim (arrow ++ after)) (trim (before ++ (arrow ++ after))) := by
  have htrim : trim (arrow ++ after) = arrow ++ Text.trimRight after :=
    h.trimmed.trim_append_eq h.ne_nil after
  have hopens : Arrow.opens (trim (arrow ++ after)) = true := htrim ▸ h.opens_append _
  refine ⟨by rw [hopens, Bool.or_true], ⟨?_, ?_⟩, ?_, ?_⟩
  · -- The second piece opens with an empty hop, which the arrow ends.
    rw [Hop.ofLine_append_of_opens _ hopens, Hop.ofLine_trim, Hop.ofLine_trim, Hop.ofLine_trim,
      Hop.ofLine_append_append h, ← List.nil_append (arrow ++ after),
      Hop.ofLine_append_append h.nil]
    rfl
  · rw [Arrow.opens_append_space, h.trimmed.trim_append_append h.ne_nil,
      opens_trimLeft_append hne (h.isTail_eq_false _)]
  · rw [htrim, h.trimmed.trim_append_append h.ne_nil]
    exact (Arrow.closes_append (by simp [h.ne_nil]) fun _ => h.append_ne_tip _).symm
  · rw [htrim]
    simp [h.ne_nil]

/-- A line cut behind an arrow. -/
theorem cut_behind_arrow (h : Arrow.Stands before arrow) (hne : trim after ≠ []) :
    Cut (trim (before ++ arrow)) (trim after) (trim (before ++ (arrow ++ after))) := by
  have htrim : trim (before ++ arrow) = Text.trimLeft before ++ arrow := by
    have := h.trimmed.trim_append_append h.ne_nil before []
    rwa [List.append_nil, Text.trimRight, List.append_nil] at this
  have hcloses : Arrow.closes (trim (before ++ arrow)) = true := htrim ▸ h.closes_append _
  obtain ⟨blanks, hright, hblank⟩ := Text.exists_trimRight_eq hne
  refine ⟨by rw [hcloses, Bool.true_or], ⟨?_, ?_⟩, ?_, hne⟩
  · -- The first piece closes with an empty hop, which the arrow begins.
    rw [Hop.ofLine_append_of_closes hcloses, Hop.ofLine_trim, Hop.ofLine_trim, Hop.ofLine_trim,
      Hop.ofLine_append_append h, ← List.append_nil arrow, Hop.ofLine_append_append h]
    exact congrArg (· ++ Hop.ofLine after) List.dropLast_concat
  · have hlast : (Text.trimLeft before ++ (arrow ++ [])).getLast? ≠ some '-' :=
      h.getLast?_append (by simp) _
    rw [List.append_nil] at hlast
    rw [Arrow.opens_append_space, h.trimmed.trim_append_append h.ne_nil, htrim,
      ← List.append_assoc, Arrow.opens_append (by simp [h.ne_nil]) fun hd => absurd hd hlast]
  · have hlast := h.getLast?_append hblank (Text.trimLeft before)
    rw [h.trimmed.trim_append_append h.ne_nil, hright, ← List.append_assoc, ← List.append_assoc,
      List.append_assoc _ arrow, Arrow.closes_append hne fun hd => absurd hd hlast]

end Arrow

end FlowScript.Wrap
