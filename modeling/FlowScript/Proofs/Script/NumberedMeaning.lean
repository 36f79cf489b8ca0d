import FlowScript.Proofs.Script.Layout

/-!
# What the numbered notation means

Lines that open with a numeral and a point are *definitions*, other lines with
an arrow *connections*, and all others go on with a label. A text of such lines
means this (`Described`):

* the tokens are those of the definitions, each at its first place;
* the label of a token is in its last definition and in the lines below, up to
  the next definition of any token, without the connections (`blockLabel`);
* the links are those of the connections, in order, and each connection joins those
  of its hops that lead to something (`walks`).

The reader goes over the lines once and keeps the node that was defined last.
What it has read so far is always what the lines so far mean (`Follows.read`),
so what it reads is what the text means (`read_described`).
-/

namespace FlowScript.Numbered

open Text (InkedLine isNumeral inkOf inkedTexts)

variable {token label line rest : Text} {ls after : List Text}

/-! ## Definitions and connections -/

/-- The token that a line defines: the numeral in front of its first point. -/
def definedToken? (line : Text) : Option Text :=
  ((Text.cut? '.' line).map Prod.fst).filter isNumeral

/-- The tokens that lines define, in order and with repetitions. -/
def definedTokens (ls : List Text) : List Text :=
  ls.filterMap definedToken?

/-- The line defines no node and has an arrow. -/
def isConnection (line : Text) : Bool :=
  (definedToken? line).isNone && Arrow.occursIn line

theorem definedToken?_eq_some_iff : definedToken? line = some token ↔
    isNumeral token = true ∧ ∃ rest, line = token ++ '.' :: rest := by
  simp only [definedToken?, Option.filter_eq_some_iff, Option.map_eq_some_iff, Prod.exists,
    exists_and_right, exists_eq_right]
  constructor
  · rintro ⟨⟨rest, hcut⟩, hnum⟩
    exact ⟨hnum, rest, (Text.eq_append_of_cut? hcut).1⟩
  · rintro ⟨hnum, rest, rfl⟩
    exact ⟨⟨rest, Text.cut?_append (Text.not_mem_of_isNumeral hnum (by decide))⟩, hnum⟩

theorem isSome_definedToken?_iff : (definedToken? line).isSome = true ↔ OpensDefinition line := by
  simp only [Option.isSome_iff_exists, definedToken?_eq_some_iff, OpensDefinition]
  constructor
  · rintro ⟨token, hnum, rest, rfl⟩
    exact ⟨token, rest, hnum, rfl⟩
  · rintro ⟨token, rest, hnum, rfl⟩
    exact ⟨token, hnum, rest, rfl⟩

theorem definedToken?_eq_none_iff : definedToken? line = none ↔ ¬OpensDefinition line := by
  rw [← isSome_definedToken?_iff, Option.not_isSome_iff_eq_none]

/-- The reader takes a line for a connection iff it is one. -/
theorem ofText_eq_connection_iff :
    LineKind.ofText line = .connection ↔ isConnection line = true := by
  rw [isConnection, Bool.and_eq_true, Option.isNone_iff_eq_none, definedToken?_eq_none_iff,
    ← exists_ofText_definition_iff, LineKind.ofText]
  split
  · simp
  · split <;> simp [*]

/-! ## Labels -/

/-- The lines that go on with a label below its definition: those up to the next
    definition, without the connections among them. -/
def continuations (after : List Text) : List Text :=
  (after.takeWhile fun line => (definedToken? line).isNone).filter fun line =>
    !Arrow.occursIn line

/-- The label of a node: what follows the point of its definition, and the lines
    that go on with it, if there is something on them. -/
def blockLabel (rest : Text) (after : List Text) : Text :=
  Text.join ['\n'] ((Text.trim rest :: continuations after).filter fun part => !part.isEmpty)

/-- A definition ends the lines in front of the first one. -/
theorem takeWhile_append_of_mem (h : ∃ l ∈ ls, definedToken? l ≠ none) (more : List Text) :
    (ls ++ more).takeWhile (fun line => (definedToken? line).isNone) =
      ls.takeWhile fun line => (definedToken? line).isNone := by
  obtain ⟨l, hl, hdef⟩ := h
  have hlength : (ls.takeWhile fun line => (definedToken? line).isNone).length ≠ ls.length := by
    intro hlength
    have heq := (List.takeWhile_prefix _).eq_of_length hlength
    rw [← heq] at hl
    exact hdef (Option.isNone_iff_eq_none.1
      (List.mem_takeWhile_imp (p := fun line => (definedToken? line).isNone) hl))
  rw [List.takeWhile_append, if_neg hlength]

/-- As long as there is no definition, all lines are in front of the first one. -/
theorem takeWhile_append_of_forall (h : ∀ l ∈ ls, definedToken? l = none) (more : List Text) :
    (ls ++ more).takeWhile (fun line => (definedToken? line).isNone) =
      ls ++ more.takeWhile fun line => (definedToken? line).isNone :=
  List.takeWhile_append_of_pos fun l hl => by simp [h l hl]

/-- A definition ends the lines that go on with a label. -/
theorem continuations_append_of_mem (h : ∃ l ∈ after, definedToken? l ≠ none) (more : List Text) :
    continuations (after ++ more) = continuations after := by
  rw [continuations, takeWhile_append_of_mem h]
  rfl

/-- As long as there is no definition, lines go on with a label one by one. -/
theorem continuations_append_of_forall (h : ∀ l ∈ after, definedToken? l = none)
    (more : List Text) :
    continuations (after ++ more) = continuations after ++ continuations more := by
  have hafter := takeWhile_append_of_forall h []
  rw [List.append_nil, List.takeWhile_nil, List.append_nil] at hafter
  rw [continuations, takeWhile_append_of_forall h, List.filter_append, continuations, hafter]
  rfl

/-- Neither a definition nor a connection goes on with a label. -/
theorem continuations_append_singleton
    (h : definedToken? line ≠ none ∨ Arrow.occursIn line = true) (after : List Text) :
    continuations (after ++ [line]) = continuations after := by
  by_cases hmem : ∃ l ∈ after, definedToken? l ≠ none
  · exact continuations_append_of_mem hmem [line]
  · have hnone : ∀ l ∈ after, definedToken? l = none := by simpa using hmem
    have hline : continuations [line] = [] := by
      rcases h with hdef | harrow
      · rw [continuations, List.takeWhile_cons_of_neg (by simpa using hdef)]
        rfl
      · rw [continuations, List.takeWhile_cons]
        split <;> simp [harrow]
    rw [continuations_append_of_forall hnone, hline, List.append_nil]

theorem blockLabel_congr {after' : List Text} (h : continuations after = continuations after')
    (rest : Text) : blockLabel rest after = blockLabel rest after' := by
  rw [blockLabel, blockLabel, h]

/-- A label of lines with something on them goes on with one more line. -/
theorem extend_join {parts : List Text} (h : ∀ part ∈ parts, part ≠ []) (line : Text) :
    Text.join ['\n'] (parts ++ [line]) = extend (Text.join ['\n'] parts) line := by
  cases parts with
  | nil => simp [extend]
  | cons part parts =>
    have hjoin : Text.join ['\n'] (part :: parts) ≠ [] := by
      intro hnil
      have hpart : part <:+: Text.join ['\n'] (part :: parts) :=
        Text.infix_join List.mem_cons_self
      rw [hnil, List.infix_nil] at hpart
      exact h part List.mem_cons_self hpart
    rw [extend, if_neg (by simpa using hjoin),
      Text.join_append (List.cons_ne_nil _ _) (List.cons_ne_nil _ _), Text.join_singleton,
      List.append_assoc]
    rfl

/-- A line that goes on with a label is added to it. -/
theorem blockLabel_append_singleton (hafter : ∀ l ∈ after, definedToken? l = none)
    (hdef : definedToken? line = none) (harrow : Arrow.occursIn line = false) (hne : line ≠ [])
    (rest : Text) : blockLabel rest (after ++ [line]) = extend (blockLabel rest after) line := by
  have hline : continuations [line] = [line] := by
    simp [continuations, hdef, harrow]
  have hparts : [line].filter (fun part => !part.isEmpty) = [line] := by
    simp [hne]
  rw [blockLabel, continuations_append_of_forall hafter, hline, ← List.cons_append,
    List.filter_append, hparts, extend_join fun part hpart => ?_]
  · rfl
  · simpa using (List.mem_filter.1 hpart).2

/-- The token has its label from its last definition among lines. -/
def HasLabel (ls : List Text) (token label : Text) : Prop :=
  ∃ before rest after, ls = before ++ (token ++ '.' :: rest) :: after ∧ isNumeral token = true ∧
    token ∉ definedTokens after ∧ label = blockLabel rest after

theorem definedToken?_definition (h : isNumeral token = true) (rest : Text) :
    definedToken? (token ++ '.' :: rest) = some token :=
  definedToken?_eq_some_iff.2 ⟨h, rest, rfl⟩

theorem definedTokens_append (ls more : List Text) :
    definedTokens (ls ++ more) = definedTokens ls ++ definedTokens more :=
  List.filterMap_append

theorem definedTokens_eq_nil_iff : definedTokens ls = [] ↔ ∀ l ∈ ls, definedToken? l = none :=
  List.filterMap_eq_nil_iff

/-- A definition without more lines gives its rest as a label. -/
theorem HasLabel.of_definition (h : isNumeral token = true) (ls : List Text) (rest : Text) :
    HasLabel (ls ++ [token ++ '.' :: rest]) token (Text.trim rest) := by
  refine ⟨ls, rest, [], rfl, h, List.not_mem_nil, ?_⟩
  rw [blockLabel, show continuations [] = [] from rfl]
  cases Text.trim rest <;> simp

/-- A definition of another token, or a connection, leaves a label as it is. -/
theorem HasLabel.append_singleton (h : HasLabel ls token label)
    (htoken : definedToken? line ≠ some token)
    (hline : definedToken? line ≠ none ∨ Arrow.occursIn line = true) :
    HasLabel (ls ++ [line]) token label := by
  obtain ⟨before, rest, after, rfl, hnum, hafter, rfl⟩ := h
  refine ⟨before, rest, after ++ [line], by simp, hnum, ?_,
    blockLabel_congr (continuations_append_singleton hline after).symm rest⟩
  rw [definedTokens_append, List.mem_append, not_or]
  exact ⟨hafter, by simpa [definedTokens] using fun h => htoken h⟩

/-- The tokens behind the last definition of a token. -/
theorem getLast?_definedTokens (hnum : isNumeral token = true) (before : List Text) (rest : Text)
    (hafter : token ∉ definedTokens after) :
    (definedTokens (before ++ (token ++ '.' :: rest) :: after)).getLast? = some token ↔
      ∀ l ∈ after, definedToken? l = none := by
  rw [← definedTokens_eq_nil_iff, definedTokens_append, definedTokens, definedTokens,
    List.filterMap_cons_some (definedToken?_definition hnum rest), ← definedTokens, ← definedTokens]
  by_cases hnil : definedTokens after = []
  · simp [hnil]
  · rw [List.append_cons, List.getLast?_append_of_ne_nil _ hnil]
    exact iff_of_false (fun hlast => hafter (List.mem_of_getLast? hlast)) hnil

/-- A line below the definition of another token leaves a label as it is. -/
theorem HasLabel.append_of_getLast?_ne (h : HasLabel ls token label)
    (hlast : (definedTokens ls).getLast? ≠ some token) (hline : definedToken? line = none) :
    HasLabel (ls ++ [line]) token label := by
  obtain ⟨before, rest, after, rfl, hnum, hafter, rfl⟩ := h
  rw [ne_eq, getLast?_definedTokens hnum before rest hafter] at hlast
  refine ⟨before, rest, after ++ [line], by simp, hnum, ?_,
    blockLabel_congr (continuations_append_of_mem (by simpa using hlast) [line]).symm rest⟩
  simpa [definedTokens_append, definedTokens, hline] using hafter

/-- A line below the definition of a token goes on with its label. -/
theorem HasLabel.extend (h : HasLabel ls token label)
    (hlast : (definedTokens ls).getLast? = some token) (hdef : definedToken? line = none)
    (harrow : Arrow.occursIn line = false) (hne : line ≠ []) :
    HasLabel (ls ++ [line]) token (extend label line) := by
  obtain ⟨before, rest, after, rfl, hnum, hafter, rfl⟩ := h
  rw [getLast?_definedTokens hnum before rest hafter] at hlast
  refine ⟨before, rest, after ++ [line], by simp, hnum, ?_,
    (blockLabel_append_singleton hlast hdef harrow hne rest).symm⟩
  simpa [definedTokens_append, definedTokens, hdef] using hafter

/-! ## The meaning of lines -/

/-- The hops of the connections among lines that lead to something, connection by
    connection. -/
def walks (ls : List Text) : List (List Hop) :=
  (ls.filter isConnection).map fun line => (Hop.ofLine line).filter Hop.hasTarget

/-- The nodes and links are what lines of the numbered notation mean. -/
structure Described (ls : List Text) (nodes : List NumberedNode) (links : List Link) : Prop where
  /-- The tokens are those that are defined, at their first places. -/
  tokens : nodes.map NumberedNode.token = (definedTokens ls).eraseDups
  /-- Every label is that of the last definition. -/
  label : ∀ n ∈ nodes, HasLabel ls n.token n.label
  /-- The links are the steps of the connections, connection by connection. -/
  steps : ∃ parts : List (List Link), links = parts.flatten ∧
    List.Forall₂ Link.Join (walks ls) parts

/-! ## Reading line by line -/

/-- The links that are read from the connections among lines. -/
def connectionLinks (ls : List Text) : List Link :=
  (ls.filter isConnection).flatMap fun line =>
    Link.ofHops ((Hop.ofLine line).filter Hop.hasTarget)

theorem connectionLinks_append (ls more : List Text) :
    connectionLinks (ls ++ more) = connectionLinks ls ++ connectionLinks more := by
  rw [connectionLinks, List.filter_append, List.flatMap_append, ← connectionLinks,
    ← connectionLinks]

namespace Draft

/-- The draft is what has been read of the lines so far. -/
structure Follows (d : Draft) (ls : List Text) : Prop where
  /-- The tokens are those that are defined, at their first places. -/
  tokens : d.nodes.map NumberedNode.token = (definedTokens ls).eraseDups
  /-- Every label is that of the last definition. -/
  label : ∀ n ∈ d.nodes, HasLabel ls n.token n.label
  /-- The links are those of the connections. -/
  links : d.links = connectionLinks ls
  /-- The current node is that of the last definition. -/
  current : d.current = (definedTokens ls).getLast?

variable {d : Draft} {i : InkedLine}

/-- What has been read is what the lines mean. -/
theorem Follows.described (h : d.Follows ls) : Described ls d.nodes d.links where
  tokens := h.tokens
  label := h.label
  steps := by
    refine ⟨(walks ls).map Link.ofHops, ?_, Link.forall₂_join_ofHops _⟩
    rw [h.links, connectionLinks, walks, List.map_map, List.flatMap_def]
    rfl

theorem follows_empty : empty.Follows [] :=
  ⟨rfl, fun _ h => absurd h List.not_mem_nil, rfl, rfl⟩

theorem Follows.defines_iff (h : d.Follows ls) :
    d.defines token = true ↔ token ∈ definedTokens ls := by
  rw [Draft.defines_iff, h.tokens, List.mem_eraseDups]

theorem Follows.token_mem (h : d.Follows ls) {n : NumberedNode} (hn : n ∈ d.nodes) :
    n.token ∈ definedTokens ls := by
  rw [← List.mem_eraseDups, ← h.tokens]
  exact List.mem_map_of_mem hn

/-- A definition brings its token, unless it is there, and gives it a label. -/
theorem Follows.define (h : d.Follows ls) (hnum : isNumeral token = true)
    (hline : i.text = token ++ '.' :: rest) :
    (d.define i token (Text.trim rest)).Follows (ls ++ [i.text]) := by
  have hdef : definedToken? i.text = some token := hline ▸ definedToken?_definition hnum rest
  have htokens : definedTokens (ls ++ [i.text]) = definedTokens ls ++ [token] := by
    rw [definedTokens_append, definedTokens, definedTokens, List.filterMap_cons_some hdef,
      List.filterMap_nil]
  have hlinks : d.links = connectionLinks (ls ++ [i.text]) := by
    rw [h.links]
    simp [connectionLinks, isConnection, hdef]
  have hcurrent : some token = (definedTokens (ls ++ [i.text])).getLast? := by
    rw [htokens, List.getLast?_concat]
  have hself : HasLabel (ls ++ [i.text]) token (Text.trim rest) :=
    hline ▸ HasLabel.of_definition hnum ls rest
  have hother (n : NumberedNode) (hn : n ∈ d.nodes) (hne : n.token ≠ token) :
      HasLabel (ls ++ [i.text]) n.token n.label :=
    (h.label n hn).append_singleton (by simpa [hdef] using Ne.symm hne)
      (.inl (by simp [hdef]))
  rw [Draft.define]
  split
  · next hthere =>
    have hmem : token ∈ definedTokens ls := h.defines_iff.1 hthere
    refine ⟨?_, fun n hn => ?_, hlinks, hcurrent⟩
    · rw [map_token_relabel, htokens, Text.eraseDups_append_singleton, if_pos hmem]
      exact h.tokens
    · obtain ⟨m, hm, rfl⟩ := List.mem_map.1 hn
      by_cases hm' : m.token = token
      · simpa [hm'] using hself
      · simpa [hm'] using hother m hm hm'
  · next hnew =>
    have hmem : token ∉ definedTokens ls := fun hmem => hnew (h.defines_iff.2 hmem)
    refine ⟨?_, ?_, hlinks, hcurrent⟩
    · rw [List.map_append, htokens, Text.eraseDups_append_singleton, if_neg hmem,
        h.tokens]
      rfl
    · rw [List.forall_mem_append, List.forall_mem_singleton]
      refine ⟨fun n hn => hother n hn ?_, hself⟩
      exact fun heq => hmem (heq ▸ h.token_mem hn)

/-- A connection brings its links. -/
theorem Follows.connect (h : d.Follows ls) (hline : isConnection i.text = true) :
    (d.connect i).Follows (ls ++ [i.text]) := by
  obtain ⟨hdef, harrow⟩ := Bool.and_eq_true_iff.1 hline
  rw [Option.isNone_iff_eq_none] at hdef
  have htokens : definedTokens (ls ++ [i.text]) = definedTokens ls := by
    simp [definedTokens, hdef]
  refine ⟨?_, fun n hn => ?_, ?_, ?_⟩
  · rw [htokens]
    exact h.tokens
  · exact (h.label n hn).append_singleton (by simp [hdef]) (.inr harrow)
  · rw [Draft.connect, h.links]
    simp [connectionLinks, hline]
  · rw [htokens]
    exact h.current

/-- Another line goes on with the label of the node that was defined last. -/
theorem Follows.proceed (h : d.Follows ls) (hdef : definedToken? i.text = none)
    (harrow : Arrow.occursIn i.text = false) (hne : i.text ≠ []) :
    (d.proceed i).Follows (ls ++ [i.text]) := by
  have htokens : definedTokens (ls ++ [i.text]) = definedTokens ls := by
    simp [definedTokens, hdef]
  have hlinks : d.links = connectionLinks (ls ++ [i.text]) := by
    rw [h.links]
    simp [connectionLinks, isConnection, harrow]
  have hcurrent := h.current
  rw [Draft.proceed]
  split
  · next hnone =>
    -- Nothing has been defined, so there is no label yet.
    have hnil : definedTokens ls = [] := by
      rw [hnone] at hcurrent
      exact List.getLast?_eq_none_iff.1 hcurrent.symm
    refine ⟨by rw [htokens]; exact h.tokens, fun n hn => ?_, hlinks,
      by rw [htokens]; exact hcurrent⟩
    have htoken := h.token_mem hn
    rw [hnil] at htoken
    exact absurd htoken List.not_mem_nil
  · next token hsome =>
    rw [hsome] at hcurrent
    refine ⟨?_, fun n hn => ?_, hlinks, by rw [htokens]; exact h.current⟩
    · rw [map_token_relabel, htokens]
      exact h.tokens
    · obtain ⟨m, hm, rfl⟩ := List.mem_map.1 hn
      have hlabel := h.label m hm
      by_cases hm' : m.token = token
      · simpa [hm'] using (hm' ▸ hlabel).extend hcurrent.symm hdef harrow hne
      · have hlast : (definedTokens ls).getLast? ≠ some m.token := by
          rw [← hcurrent]
          simpa using Ne.symm hm'
        simpa [hm'] using hlabel.append_of_getLast?_ne hlast hdef

/-- After one more line a draft is what the lines mean, with that line. -/
theorem Follows.read (h : d.Follows ls) (hne : i.text ≠ []) :
    (d.read i).Follows (ls ++ [i.text]) := by
  rw [Draft.read]
  -- One case for each kind of line.
  split
  · next token label hk =>
    obtain ⟨hnum, rest, hline, rfl⟩ := eq_of_ofText_definition hk
    exact h.define hnum hline
  · next hk => exact h.connect (ofText_eq_connection_iff.1 hk)
  · next hk =>
    obtain ⟨harrow, hdef⟩ := ofText_eq_continuation_iff.1 hk
    exact h.proceed (definedToken?_eq_none_iff.2 hdef) harrow hne

theorem Follows.foldl {is : List InkedLine} (h : d.Follows ls) (hne : ∀ i ∈ is, i.text ≠ []) :
    (is.foldl Draft.read d).Follows (ls ++ is.map InkedLine.text) := by
  induction is generalizing d ls with
  | nil => simpa using h
  | cons i is ih =>
    rw [List.forall_mem_cons] at hne
    simpa using ih (h.read hne.1) hne.2

/-! ## Lines that make no difference to the nodes -/

/-- The drafts have the same nodes and the same current node. -/
structure SameNodes (d d' : Draft) : Prop where
  /-- The nodes are the same. -/
  nodes : d.nodes = d'.nodes
  /-- So is the node that was defined last. -/
  current : d.current = d'.current

/-- One more line keeps drafts with the same nodes so. -/
theorem SameNodes.read {d' : Draft} (h : d.SameNodes d') (i : InkedLine) :
    (d.read i).SameNodes (d'.read i) := by
  obtain ⟨hnodes, hcurrent⟩ := h
  rw [Draft.read, Draft.read]
  split
  · rw [Draft.define, Draft.define]
    simp only [defines, relabel, note, hnodes]
    split
    · exact ⟨rfl, rfl⟩
    · exact ⟨rfl, rfl⟩
  · exact ⟨hnodes, hcurrent⟩
  · rw [Draft.proceed, Draft.proceed, hcurrent]
    split
    · exact ⟨hnodes, hcurrent⟩
    · exact ⟨by simp only [relabel, hnodes], hcurrent⟩

/-- A connection makes no difference to the nodes. -/
theorem sameNodes_read (d : Draft) (h : isConnection i.text = true) : (d.read i).SameNodes d := by
  rw [Draft.read, ofText_eq_connection_iff.2 h]
  exact ⟨rfl, rfl⟩

/-- So the nodes are those of the other lines. -/
theorem SameNodes.foldl {d' : Draft} (h : d.SameNodes d') (is : List InkedLine) :
    (is.foldl Draft.read d).SameNodes
      ((is.filter fun i => !isConnection i.text).foldl Draft.read d') := by
  induction is generalizing d d' with
  | nil => exact h
  | cons i is ih =>
    rw [List.foldl_cons]
    by_cases hi : isConnection i.text = true
    · have hsame := sameNodes_read d hi
      rw [List.filter_cons_of_neg (by simp [hi])]
      exact ih ⟨hsame.nodes.trans h.nodes, hsame.current.trans h.current⟩
    · rw [List.filter_cons_of_pos (by simp [hi])]
      exact ih (h.read i)

end Draft

/-- The nodes of a text do not depend on its connections. -/
theorem nodes_draft_congr {s t : Text}
    (h : (inkedTexts s).filter (fun line => !isConnection line) =
      (inkedTexts t).filter fun line => !isConnection line) :
    (draft s).nodes = (draft t).nodes := by
  have hnodes (s : Text) : (draft s).nodes =
      (Draft.ofTexts ((inkedTexts s).filter fun line => !isConnection line)).nodes := by
    rw [nodes_draft, Draft.ofTexts, (Draft.SameNodes.foldl ⟨rfl, rfl⟩ _).nodes, List.filter_map]
    rfl
  rw [hnodes, hnodes, h]

/-- What has been read of a text is what has been read of its lines. -/
theorem follows_draft (s : Text) : (draft s).Follows (inkedTexts s) :=
  Draft.follows_empty.foldl fun _ hi => (Text.mem_inkedLines hi).ne_nil

/-- The notation applies iff a line opens like a definition. -/
theorem read_recognized_iff {s : Text} :
    (∃ dialect sketch notes, read s = .recognized dialect sketch notes) ↔
      ∃ line ∈ inkedTexts s, OpensDefinition line := by
  have hcases : (∃ dialect sketch notes, read s = .recognized dialect sketch notes) ↔
      ¬∃ reason, read s = .notApplicable reason := by
    cases read s <;> simp
  rw [hcases, read_notApplicable_iff]
  simp only [← exists_ofText_definition_iff, inkedTexts, List.mem_map, not_forall, ne_eq, not_not,
    exists_prop, exists_exists_and_eq_and]

/-- The meaning of the numbered notation. A text is in it iff a line defines a
    node. It is read as the nodes and links that its lines mean, of which the
    nodes do not depend on the connections, nor the links on other lines. -/
theorem read_described (s : Text) :
    ((∃ dialect sketch notes, read s = .recognized dialect sketch notes) ↔
      ∃ line ∈ inkedTexts s, OpensDefinition line) ∧
    (∀ dialect sketch notes, read s = .recognized dialect sketch notes →
      ∃ nodes links, dialect = numberedDialect ∧ sketch = .numbered nodes links ∧
        Described (inkedTexts s) nodes links) ∧
    ∀ t nodes links notes nodes' links' notes',
      read s = .recognized numberedDialect (.numbered nodes links) notes →
      read t = .recognized numberedDialect (.numbered nodes' links') notes' →
        ((inkedTexts s).filter (fun line => !isConnection line) =
          (inkedTexts t).filter (fun line => !isConnection line) → nodes = nodes') ∧
        ((inkedTexts s).filter isConnection = (inkedTexts t).filter isConnection →
          links = links') := by
  refine ⟨read_recognized_iff, fun dialect sketch notes h => ?_,
    fun t nodes links notes nodes' links' notes' hs ht => ?_⟩
  · obtain ⟨-, rfl, rfl, -⟩ := read_eq_recognized_iff.1 h
    exact ⟨_, _, rfl, rfl, (follows_draft s).described⟩
  · obtain ⟨-, -, hs, -⟩ := read_eq_recognized_iff.1 hs
    obtain ⟨-, -, ht, -⟩ := read_eq_recognized_iff.1 ht
    obtain ⟨rfl, rfl⟩ := Sketch.numbered.inj hs
    obtain ⟨rfl, rfl⟩ := Sketch.numbered.inj ht
    refine ⟨nodes_draft_congr, fun h => ?_⟩
    rw [(follows_draft s).links, (follows_draft t).links, connectionLinks, connectionLinks, h]

/-- For instance a token that is defined twice, with lines that go on with either
    definition and connections between them, one of which has three hops. -/
theorem read_described_redefined :
    ((∃ dialect sketch notes, read "1->2\n1.A\nx\n2.\n1->1\ny\n1. B\n2->|q|1->3\nz".toList =
        .recognized dialect sketch notes) ↔
      ∃ line ∈ inkedTexts "1->2\n1.A\nx\n2.\n1->1\ny\n1. B\n2->|q|1->3\nz".toList,
        OpensDefinition line) ∧
    Described (inkedTexts "1->2\n1.A\nx\n2.\n1->1\ny\n1. B\n2->|q|1->3\nz".toList)
      [⟨"1".toList, "B\nz".toList⟩, ⟨"2".toList, "y".toList⟩]
      [⟨"1".toList, "2".toList, []⟩, ⟨"1".toList, "1".toList, []⟩,
        ⟨"2".toList, "1".toList, "q".toList⟩, ⟨"1".toList, "3".toList, []⟩] := by
  have hread : read "1->2\n1.A\nx\n2.\n1->1\ny\n1. B\n2->|q|1->3\nz".toList =
      .recognized numberedDialect
        (.numbered [⟨"1".toList, "B\nz".toList⟩, ⟨"2".toList, "y".toList⟩]
          [⟨"1".toList, "2".toList, []⟩, ⟨"1".toList, "1".toList, []⟩,
            ⟨"2".toList, "1".toList, "q".toList⟩, ⟨"1".toList, "3".toList, []⟩])
        [⟨7, .redefined "1".toList, "1. B".toList⟩] := by decide +kernel
  obtain ⟨hiff, hdescribed, -⟩ := read_described
    "1->2\n1.A\nx\n2.\n1->1\ny\n1. B\n2->|q|1->3\nz".toList
  obtain ⟨nodes, links, -, hsketch, h⟩ := hdescribed _ _ _ hread
  obtain ⟨rfl, rfl⟩ := Sketch.numbered.inj hsketch
  exact ⟨hiff, h⟩

end FlowScript.Numbered
