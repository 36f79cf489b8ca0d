import FlowScript.Proofs.Script.Numbered

/-!
# Writing in the numbered notation

Nodes are written as definitions and links as connections, a line each but for
the labels of several lines. What is read depends on the texts of the lines
only and not on their numbers, so the lines of each entry can be followed from
one draft to the next (`Reads`).

Main statement: well-formed nodes, and links between numerals, are read back
from what is written, without a note (`read_write`).
-/

namespace FlowScript.Numbered

open Text (InkedLine Inked isNumeral)

/-- The definition of a node: its token, a point and its label. -/
def definition (n : NumberedNode) : Text :=
  n.token ++ '.' :: n.label

/-- The connection of a link: its ends, and its label if it has one. -/
def connection (l : Link) : Text :=
  l.source ++ (if l.label.isEmpty then ['-', '>'] else ['-', '>', '|'] ++ l.label ++ ['|']) ++
    l.target

/-- The definitions of nodes and the connections of links, in order. -/
def write (nodes : List NumberedNode) (links : List Link) : Text :=
  Text.join ['\n'] (nodes.map definition ++ links.map connection)

/-- A link that connects numerals, by a label that can be written. -/
structure Connects (l : Link) : Prop where
  /-- It starts at a numeral. -/
  source : isNumeral l.source = true
  /-- It ends at a numeral. -/
  target : isNumeral l.target = true
  /-- Its label can be written. -/
  label : EdgeLabel.Clean l.label

/-- Lines of these texts, wherever they stand, lead from one draft to the
    other. -/
def Reads (ls : List Text) (d d' : Draft) : Prop :=
  ∀ is : List InkedLine, is.map InkedLine.text = ls → is.foldl Draft.read d = d'

variable {d d' d'' : Draft} {token label l : Text} {ls ms : List Text}

theorem Reads.nil : Reads [] d d := by
  intro is h
  rw [List.map_eq_nil_iff.1 h]
  rfl

theorem Reads.single (h : ∀ n, d.read ⟨n, l⟩ = d') : Reads [l] d d' := by
  intro is his
  obtain ⟨i, rfl, rfl⟩ := List.map_eq_singleton_iff.1 his
  exact h i.number

theorem Reads.append (h : Reads ls d d') (h' : Reads ms d' d'') : Reads (ls ++ ms) d d'' := by
  intro is his
  obtain ⟨is₁, is₂, rfl, h₁, h₂⟩ := List.map_eq_append_iff.1 his
  rw [List.foldl_append, h is₁ h₁, h' is₂ h₂]

/-! ## Definitions -/

theorem newline_not_mem (h : Inked l) : '\n' ∉ l :=
  fun hmem => absurd (h.unbroken _ hmem) (by decide)

/-- A text without line feeds is one line. -/
theorem splitOn_of_not_mem (h : '\n' ∉ l) : l.splitOn '\n' = [l] := by
  rw [List.splitOn, List.splitOnP_eq_singleton]
  intro c hc
  exact beq_eq_false_iff_ne.2 fun heq => h (heq ▸ hc)

theorem splitOn_append_newline (s : Text) (h : '\n' ∉ l) :
    (s ++ '\n' :: l).splitOn '\n' = s.splitOn '\n' ++ [l] := by
  rw [← splitOn_of_not_mem h, List.splitOn, List.splitOn, List.splitOn,
    List.splitOnP_append_cons _ _ (by simp)]

theorem inked_definition_line (ht : isNumeral token = true) (hl : l = [] ∨ Inked l) :
    Inked (token ++ '.' :: l) := by
  have ht := Text.isNumeral_inked ht
  refine ⟨by simp, ?_, ?_⟩
  · rcases hl with rfl | hl
    · exact ht.trimmed.append (by decide) ht.ne_nil (by simp)
    · simpa using ht.trimmed.append_append hl.trimmed ht.ne_nil hl.ne_nil ['.']
  · rw [Text.unbroken_append, Text.unbroken_cons]
    refine ⟨ht.unbroken, by decide, ?_⟩
    rcases hl with rfl | hl
    · exact Text.unbroken_nil
    · exact hl.unbroken

/-- The lines of a definition are inked. -/
theorem inked_of_mem_definition (ht : isNumeral token = true) (hw : Writable label) :
    ∀ l ∈ (token ++ '.' :: label).splitOn '\n', Inked l := by
  induction hw with
  | empty =>
    have h := inked_definition_line ht (.inl rfl)
    rw [splitOn_of_not_mem (newline_not_mem h), List.forall_mem_singleton]
    exact h
  | line hl =>
    have h := inked_definition_line ht (.inr hl)
    rw [splitOn_of_not_mem (newline_not_mem h), List.forall_mem_singleton]
    exact h
  | more _ _ hl _ ih =>
    rw [← List.cons_append, ← List.append_assoc, splitOn_append_newline _ (newline_not_mem hl),
      List.forall_mem_append, List.forall_mem_singleton]
    exact ⟨ih, hl⟩

/-- The draft with one more node, which is the one defined last. -/
def Draft.push (d : Draft) (n : NumberedNode) : Draft :=
  { d with nodes := d.nodes ++ [n], current := some n.token }

/-- A line that defines a new token adds a node. -/
theorem read_definition_line (ht : isNumeral token = true) (hd : d.defines token = false)
    (hl : Text.Trimmed l) (n : Nat) : d.read ⟨n, token ++ '.' :: l⟩ = d.push ⟨token, l⟩ := by
  have hdef : ({ d with current := some token } : Draft).defines token = false := hd
  rw [Draft.read, ofText_definition ht, hl]
  simp only [Draft.define, hdef]
  rfl

/-- A line that goes on with the label of the node defined last. -/
theorem read_continuation_line (hd : d.defines token = false) (hne : label ≠ [])
    (hk : LineKind.ofText l = .continuation) (n : Nat) :
    (d.push ⟨token, label⟩).read ⟨n, l⟩ = d.push ⟨token, label ++ '\n' :: l⟩ := by
  rw [Draft.read, hk]
  -- The token is new in `d`, so the line goes on with the last node only.
  have hold : d.nodes.map (fun n => if n.token = token then
      { n with label := extend n.label l } else n) = d.nodes := by
    refine (List.map_congr_left (g := id) fun m hm => if_neg fun heq => ?_).trans (List.map_id _)
    have := List.any_eq_false.1 hd m hm
    simp [heq] at this
  have hext : extend label l = label ++ '\n' :: l := by
    rw [extend, if_neg (by simpa using hne)]
  simp only [Draft.proceed, Draft.push, Draft.relabel, List.map_append, List.map_singleton,
    if_true, hold, hext]

/-- The lines of a definition add the node. -/
theorem reads_definition (ht : isNumeral token = true) (hd : d.defines token = false)
    (hw : Writable label) :
    Reads ((token ++ '.' :: label).splitOn '\n') d (d.push ⟨token, label⟩) := by
  induction hw with
  | empty =>
    rw [splitOn_of_not_mem (newline_not_mem (inked_definition_line ht (.inl rfl)))]
    exact .single (read_definition_line ht hd Text.trimmed_nil)
  | line hl =>
    rw [splitOn_of_not_mem (newline_not_mem (inked_definition_line ht (.inr hl)))]
    exact .single (read_definition_line ht hd hl.trimmed)
  | more _ hne hl hk ih =>
    rw [← List.cons_append, ← List.append_assoc, splitOn_append_newline _ (newline_not_mem hl)]
    exact ih.append (.single (read_continuation_line hd hne hk))

/-- The definitions of nodes with new tokens add them all. -/
theorem reads_definitions (nodes : List NumberedNode)
    (hnodup : ((d.nodes ++ nodes).map NumberedNode.token).Nodup)
    (hn : ∀ n ∈ nodes, isNumeral n.token = true) (hw : ∀ n ∈ nodes, Writable n.label) :
    Reads ((nodes.map definition).flatMap fun e => e.splitOn '\n') d
      (nodes.foldl Draft.push d) := by
  induction nodes generalizing d with
  | nil => exact .nil
  | cons n nodes ih =>
    rw [List.forall_mem_cons] at hn hw
    rw [List.map_cons, List.flatMap_cons, List.foldl_cons]
    -- The token of the first node is not defined before, and those of the others
    -- are not defined by it.
    refine (reads_definition hn.1 ?_ hw.1).append (ih ?_ hn.2 hw.2)
    · rw [List.map_append, List.map_cons, List.nodup_append] at hnodup
      refine Bool.eq_false_iff.2 fun hdef => ?_
      exact hnodup.2.2 _ (Draft.defines_iff.1 hdef) _ List.mem_cons_self rfl
    · simpa [Draft.push] using hnodup

theorem foldl_push (nodes : List NumberedNode) (d : Draft) :
    nodes.foldl Draft.push d =
      { d with nodes := d.nodes ++ nodes, current := (nodes.foldl Draft.push d).current } := by
  induction nodes generalizing d with
  | nil => simp
  | cons n nodes ih =>
    rw [List.foldl_cons, ih (d.push n)]
    simp [Draft.push]

/-! ## Connections -/

variable {link : Link}

/-- A numeral can be the end of a link. -/
theorem isTarget_of_isNumeral {s : Text} (h : isNumeral s = true) : IsTarget s where
  toInked := Text.isNumeral_inked h
  no_arrow := Arrow.not_occursIn_of_forall fun c hc =>
    ⟨fun e => Text.not_mem_of_isNumeral h (by decide : Text.isDigit '-' = false) (e ▸ hc),
      fun e => Text.not_mem_of_isNumeral h (by decide : Text.isDigit '→' = false) (e ▸ hc)⟩

theorem ofSegment_of_isNumeral {s : Text} (h : isNumeral s = true) :
    Hop.ofSegment s = ⟨[], s, none⟩ :=
  Hop.ofSegment_of_isTarget (isTarget_of_isNumeral h) fun e =>
    Text.not_mem_of_isNumeral h (by decide : Text.isDigit '|' = false) (List.mem_of_head? e)

/-- A connection has two hops, as they are written. -/
theorem ofLine_connection (h : Connects link) :
    Hop.ofLine (connection link) = [⟨[], link.source, none⟩, ⟨link.label, link.target, none⟩] := by
  have hs := (isTarget_of_isNumeral h.source).no_arrow
  have ht := isTarget_of_isNumeral h.target
  have hdash : link.source.getLast? ≠ some '-' := fun e =>
    Text.not_mem_of_isNumeral h.source (by decide : Text.isDigit '-' = false)
      (List.mem_of_getLast? e)
  by_cases hl : link.label = []
  · rw [connection, hl, List.isEmpty_nil, if_pos rfl, List.append_assoc, List.cons_append,
      List.singleton_append, Hop.ofLine_append_arrow hs hdash ht.no_arrow,
      ofSegment_of_isNumeral h.source, ofSegment_of_isNumeral h.target]
  · -- The label stands between pipes, behind the arrow and right in front of the
    -- target.
    obtain ⟨-, harrow, hhop⟩ := Hop.ofSegment_piped h.label ht (List.forall_mem_nil _)
    have hline : connection link =
        link.source ++ '-' :: '>' :: ('|' :: link.label ++ '|' :: ([] ++ link.target)) := by
      simp [connection, hl]
    rw [hline, Hop.ofLine_append_arrow hs hdash harrow, ofSegment_of_isNumeral h.source, hhop]

theorem inked_connection (h : Connects link) : Inked (connection link) := by
  have hs := Text.isNumeral_inked h.source
  have ht := Text.isNumeral_inked h.target
  refine ⟨by simp [connection, hs.ne_nil],
    hs.trimmed.append_append ht.trimmed hs.ne_nil ht.ne_nil _, ?_⟩
  rw [connection, Text.unbroken_append, Text.unbroken_append]
  refine ⟨⟨hs.unbroken, ?_⟩, ht.unbroken⟩
  split
  · decide
  · rw [Text.unbroken_append, Text.unbroken_append]
    exact ⟨⟨by decide, h.label.unbroken⟩, by decide⟩

theorem ofText_connection_line (h : Connects link) :
    LineKind.ofText (connection link) = .connection := by
  rw [connection]
  split
  · simpa using ofText_connection h.source link.target
  · simpa using ofText_connection h.source ('|' :: (link.label ++ '|' :: link.target))

/-- A connection adds its link, and no note. -/
theorem read_connection (h : Connects link) (n : Nat) :
    d.read ⟨n, connection link⟩ = { d with links := d.links ++ [link] } := by
  have hs := Text.ne_nil_of_isNumeral h.source
  have ht := Text.ne_nil_of_isNumeral h.target
  rw [Draft.read, ofText_connection_line h]
  simp [Draft.connect, ofLine_connection h, hopComplaints, Hop.hasTarget, hs, ht, h.source,
    h.target, Link.ofHops, List.filter_cons]

/-- Connections add their links. -/
theorem reads_connections (links : List Link) (h : ∀ l ∈ links, Connects l) (d : Draft) :
    Reads (links.map connection) d { d with links := d.links ++ links } := by
  induction links generalizing d with
  | nil => simpa using Reads.nil
  | cons l links ih =>
    rw [List.forall_mem_cons] at h
    have := ih h.2 { d with links := d.links ++ [l] }
    rw [List.append_assoc, List.singleton_append] at this
    exact (Reads.single (read_connection h.1)).append this

/-! ## Round trip -/

variable {nodes : List NumberedNode} {links : List Link}

/-- The inked lines of what is written are those of the definitions, whatever
    the labels, and the connections. -/
theorem inkedTexts_write (nodes : List NumberedNode) (hl : ∀ l ∈ links, Connects l) :
    Text.inkedTexts (write nodes links) =
      (nodes.map definition).flatMap Text.inkedTexts ++ links.map connection := by
  rw [write, Text.inkedTexts_join, List.flatMap_append]
  congr 1
  induction links with
  | nil => rfl
  | cons l links ih =>
    rw [List.forall_mem_cons] at hl
    rw [List.map_cons, List.flatMap_cons, Text.inkedTexts_of_inked (inked_connection hl.1),
      ih hl.2, List.singleton_append]

/-- The inked lines of a definition that can be written are its lines. -/
theorem inkedTexts_definition (ht : isNumeral token = true) (hw : Writable label) :
    Text.inkedTexts (token ++ '.' :: label) = (token ++ '.' :: label).splitOn '\n' := by
  have hjoin := Text.inkedLines_join (inked_of_mem_definition ht hw)
  rwa [Text.join, List.intercalate_splitOn] at hjoin

/-- The points of definitions are ink. -/
theorem isBlankText_write (hne : nodes ≠ []) (links : List Link) :
    Text.isBlankText (write nodes links) = false := by
  obtain ⟨n, rest, rfl⟩ := List.exists_cons_of_ne_nil hne
  have hpart : definition n <:+: write (n :: rest) links := Text.infix_join (by simp)
  exact Text.isBlankText_eq_false (hpart.subset (show '.' ∈ definition n by simp [definition]))
    (by decide)

/-- Nodes and links are read back from what is written, without a note. -/
theorem read_write (h : WellFormed nodes []) (hl : ∀ l ∈ links, Connects l) (hne : nodes ≠ []) :
    read (write nodes links) = .recognized numberedDialect (.numbered nodes links) [] := by
  have hdefs := reads_definitions (d := .empty) nodes (by simpa [Draft.empty] using h.nodup)
    h.numeral h.writable
  have hlines : (nodes.map definition).flatMap Text.inkedTexts =
      (nodes.map definition).flatMap fun e => e.splitOn '\n' := by
    rw [List.flatMap_map, List.flatMap_map]
    exact List.flatMap_congr fun n hn =>
      inkedTexts_definition (h.numeral n hn) (h.writable n hn)
  rw [← hlines] at hdefs
  have hdraft := (hdefs.append (reads_connections links hl _)) _ (inkedTexts_write nodes hl)
  -- What is left of the draft is the node that was defined last, which a
  -- reading forgets.
  rw [foldl_push] at hdraft
  rw [read, draft, hdraft]
  simp [Draft.empty, hne]

end FlowScript.Numbered
