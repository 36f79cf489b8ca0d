import FlowScript.Proofs.Script.Hop
import FlowScript.Proofs.Text.Digit
import FlowScript.Script.Numbered

/-!
# What the numbered notation can say

The reader of the numbered notation gives nodes with distinct numerals as
tokens and with *writable* labels, and well-formed links (`wellFormed_of_read`).
It applies exactly to the texts with a line that defines a node
(`read_notApplicable_iff`).

A label is writable when it grew as the reader lets it grow: from nothing, or
from one inked line, by lines that go on with it.
-/

namespace FlowScript.Numbered

open Text (InkedLine Inked Trimmed Unbroken isNumeral isDigit)

variable {token label line : Text}

/-! ## Kinds of lines -/

/-- Digits and a point define a node, whatever follows. -/
theorem ofText_definition (h : isNumeral token = true) (label : Text) :
    LineKind.ofText (token ++ '.' :: label) = .definition token (Text.trim label) := by
  obtain ⟨hne, hd⟩ := Text.isNumeral_iff.1 h
  obtain ⟨c, digits, rfl⟩ := List.exists_cons_of_ne_nil hne
  have hdot : isDigit '.' = false := by decide
  rw [LineKind.ofText, Text.spanDigits_append hd (by simp [hdot])]
  rfl

/-- Only digits and a point define a node. -/
theorem eq_of_ofText_definition (h : LineKind.ofText line = .definition token label) :
    isNumeral token = true ∧ ∃ rest, line = token ++ '.' :: rest ∧ label = Text.trim rest := by
  rw [LineKind.ofText] at h
  split at h
  · next d digits rest hspan =>
    obtain ⟨rfl, rfl⟩ := LineKind.definition.inj h
    obtain ⟨rfl, hd, -⟩ := Text.spanDigits_spec hspan
    exact ⟨Text.isNumeral_iff.2 ⟨List.cons_ne_nil _ _, hd⟩, rest, rfl, rfl⟩
  · split at h <;> cases h

/-- The text opens like a definition: with a numeral and a point. -/
def OpensDefinition (s : Text) : Prop :=
  ∃ token rest, isNumeral token = true ∧ s = token ++ '.' :: rest

theorem OpensDefinition.append {s : Text} (h : OpensDefinition s) (t : Text) :
    OpensDefinition (s ++ t) := by
  obtain ⟨token, rest, hnum, rfl⟩ := h
  exact ⟨token, rest ++ t, hnum, by simp⟩

/-- What follows makes no definition of a text, unless it goes on with digits or has
    the point. -/
theorem OpensDefinition.of_append {s t : Text} (h : OpensDefinition (s ++ t))
    (ht : ∀ c, t.head? = some c → isDigit c = false ∧ c ≠ '.') : OpensDefinition s := by
  obtain ⟨token, rest, hnum, heq⟩ := h
  rw [List.append_eq_append_iff] at heq
  obtain ⟨mid, htoken, heq⟩ | ⟨mid, hs, heq⟩ := heq
  · -- The token would have to reach into what follows, or end with the text.
    cases mid with
    | nil => exact absurd rfl (ht '.' (by simp [heq])).2
    | cons c mid =>
      have hdigit := (ht c (by simp [heq])).1
      exact absurd (by simp [htoken]) (Text.not_mem_of_isNumeral hnum hdigit)
  · cases mid with
    | nil =>
      obtain rfl : '.' :: rest = t := heq
      exact absurd rfl (ht '.' rfl).2
    | cons c mid =>
      obtain ⟨rfl, -⟩ := List.cons.inj heq
      exact ⟨token, mid, hnum, hs⟩

/-- The lines that define a node are those that open so. -/
theorem exists_ofText_definition_iff :
    (∃ token label, LineKind.ofText line = .definition token label) ↔ OpensDefinition line := by
  constructor
  · rintro ⟨token, label, h⟩
    obtain ⟨hnum, rest, rfl, -⟩ := eq_of_ofText_definition h
    exact ⟨token, rest, hnum, rfl⟩
  · rintro ⟨token, rest, hnum, rfl⟩
    exact ⟨token, _, ofText_definition hnum rest⟩

instance : DecidablePred OpensDefinition := fun s =>
  match h : LineKind.ofText s with
  | .definition token label => isTrue (exists_ofText_definition_iff.1 ⟨token, label, h⟩)
  | .connection => isFalse fun hs => by
    obtain ⟨token, label, hdef⟩ := exists_ofText_definition_iff.2 hs
    cases h.symm.trans hdef
  | .continuation => isFalse fun hs => by
    obtain ⟨token, label, hdef⟩ := exists_ofText_definition_iff.2 hs
    cases h.symm.trans hdef

/-- The lines that go on with a label neither define nor connect. -/
theorem ofText_eq_continuation_iff : LineKind.ofText line = .continuation ↔
    Arrow.occursIn line = false ∧ ¬OpensDefinition line := by
  rw [← exists_ofText_definition_iff, LineKind.ofText]
  split
  · simp
  · split <;> simp [*]

/-- A numeral with a dashed arrow behind it connects. -/
theorem ofText_connection (h : isNumeral token = true) (rest : Text) :
    LineKind.ofText (token ++ '-' :: '>' :: rest) = .connection := by
  obtain ⟨hne, hd⟩ := Text.isNumeral_iff.1 h
  have hdash : isDigit '-' = false := by decide
  rw [LineKind.ofText, Text.spanDigits_append hd (by simp [hdash])]
  split
  · next heq => cases (Prod.mk.inj heq).2
  · rw [if_pos (Arrow.occursIn_append_right _ rfl)]

/-! ## Writable labels -/

/-- The label can be written: it is empty, or an inked line, or goes on with one
    more line that neither defines nor connects. -/
inductive Writable : Text → Prop
  | empty : Writable []
  | line {l : Text} : Inked l → Writable l
  | more {label l : Text} : Writable label → label ≠ [] → Inked l →
      LineKind.ofText l = .continuation → Writable (label ++ '\n' :: l)

/-- A line that goes on with a writable label leaves it writable. -/
theorem Writable.extend (h : Writable label) (hl : Inked line)
    (hk : LineKind.ofText line = .continuation) : Writable (extend label line) := by
  rw [Numbered.extend]
  split
  · exact .line hl
  · next hne => exact .more h (by simpa using hne) hl hk

/-- What follows the point of a definition is writable. -/
theorem writable_trim {s : Text} (h : Unbroken s) : Writable (Text.trim s) := by
  by_cases hne : Text.trim s = []
  · exact hne ▸ .empty
  · exact .line ⟨hne, Text.trimmed_trim s, h.trim⟩

/-- A numeral is a writable label. -/
theorem writable_of_isNumeral (h : isNumeral label = true) : Writable label :=
  .line (Text.isNumeral_inked h)

/-! ## What is read -/

/-- What a draft says is well-formed: tokens are distinct numerals, labels
    writable and links those of lines. -/
structure WellFormed (nodes : List NumberedNode) (links : List Link) : Prop where
  /-- No token is defined twice. -/
  nodup : (nodes.map NumberedNode.token).Nodup
  /-- Tokens are numerals. -/
  numeral : ∀ n ∈ nodes, isNumeral n.token = true
  /-- Labels are writable. -/
  writable : ∀ n ∈ nodes, Writable n.label
  /-- Links are those of lines. -/
  links : ∀ l ∈ links, l.WellFormed

namespace Draft

variable {d : Draft} {i : InkedLine}

theorem defines_iff : d.defines token = true ↔ token ∈ d.nodes.map NumberedNode.token := by
  simp [defines]

theorem map_token_relabel (d : Draft) (token : Text) (change : Text → Text) :
    (d.relabel token change).nodes.map NumberedNode.token = d.nodes.map NumberedNode.token := by
  rw [relabel, List.map_map]
  refine List.map_congr_left fun n _ => ?_
  simp only [Function.comp]
  split <;> rfl

/-- Changing labels to writable ones keeps a draft well-formed. -/
theorem wellFormed_relabel (h : WellFormed d.nodes d.links) {change : Text → Text}
    (hc : ∀ label, Writable label → Writable (change label)) :
    WellFormed (d.relabel token change).nodes (d.relabel token change).links where
  nodup := by rw [map_token_relabel]; exact h.nodup
  numeral n hn := by
    have : n.token ∈ d.nodes.map NumberedNode.token := by
      rw [← map_token_relabel d token change]
      exact List.mem_map_of_mem hn
    obtain ⟨m, hm, hmn⟩ := List.mem_map.1 this
    exact hmn ▸ h.numeral m hm
  writable n hn := by
    obtain ⟨m, hm, rfl⟩ := List.mem_map.1 hn
    split
    · exact hc _ (h.writable m hm)
    · exact h.writable m hm
  links := h.links

theorem wellFormed_define {rest : Text} (h : WellFormed d.nodes d.links)
    (ht : isNumeral token = true) (hu : Unbroken rest) :
    WellFormed (d.define i token (Text.trim rest)).nodes
      (d.define i token (Text.trim rest)).links := by
  rw [define]
  split
  · exact wellFormed_relabel h fun _ _ => writable_trim hu
  · next hnew =>
    have hnew : token ∉ d.nodes.map NumberedNode.token := by
      simpa [defines] using hnew
    -- The new node comes last: its token is new, and a numeral.
    refine ⟨?_, ?_, ?_, h.links⟩
    · rw [List.map_append, List.nodup_append]
      refine ⟨h.nodup, by simp, fun a ha b hb => ?_⟩
      obtain rfl : b = token := by simpa using hb
      exact fun hab => hnew (hab ▸ ha)
    · rw [List.forall_mem_append, List.forall_mem_singleton]
      exact ⟨h.numeral, ht⟩
    · rw [List.forall_mem_append, List.forall_mem_singleton]
      exact ⟨h.writable, writable_trim hu⟩

/-- One more line keeps a draft well-formed. -/
theorem wellFormed_read (h : WellFormed d.nodes d.links) (hi : Inked i.text) :
    WellFormed (d.read i).nodes (d.read i).links := by
  rw [read]
  -- One case for each kind of line.
  split
  · next token label hk =>
    obtain ⟨ht, rest, hrest, rfl⟩ := eq_of_ofText_definition hk
    have hu := hi.unbroken
    rw [hrest, Text.unbroken_append, Text.unbroken_cons] at hu
    exact wellFormed_define h ht hu.2.2
  · refine ⟨h.nodup, h.numeral, h.writable, ?_⟩
    rw [connect, List.forall_mem_append]
    exact ⟨h.links, Link.wellFormed_of_mem hi.unbroken⟩
  · next hk =>
    rw [proceed]
    split
    · exact h
    · exact wellFormed_relabel h fun label hl => hl.extend hi hk

theorem wellFormed_foldl {is : List InkedLine} (h : WellFormed d.nodes d.links)
    (hi : ∀ i ∈ is, Inked i.text) :
    WellFormed (is.foldl read d).nodes (is.foldl read d).links := by
  induction is generalizing d with
  | nil => exact h
  | cons i is ih =>
    rw [List.forall_mem_cons] at hi
    exact ih (wellFormed_read h hi.1) hi.2

/-- A line brings at most one node or as many links as it has characters. -/
theorem length_read_le (d : Draft) (i : InkedLine) :
    (d.read i).nodes.length + (d.read i).links.length ≤
      d.nodes.length + d.links.length + (i.text.length + 1) := by
  rw [read]
  split
  · rw [define]
    split
    · simp only [relabel, note, List.length_map]
      omega
    · simp only [List.length_append, List.length_singleton]
      omega
  · -- A link needs a hop to start from, and hops are segments between arrows.
    have hlinks := Link.length_ofHops_le ((Hop.ofLine i.text).filter Hop.hasTarget)
    have hfilter := List.length_filter_le Hop.hasTarget (Hop.ofLine i.text)
    have hsplit := Arrow.length_split_le i.text
    rw [Hop.ofLine, List.length_map] at hfilter
    simp only [connect, Hop.ofLine, List.length_append] at hlinks ⊢
    omega
  · rw [proceed]
    split
    · simp only [note]
      omega
    · simp only [relabel, List.length_map]
      omega

theorem length_foldl_le (d : Draft) (is : List InkedLine) :
    (is.foldl read d).nodes.length + (is.foldl read d).links.length ≤
      d.nodes.length + d.links.length + (is.map fun i => i.text.length + 1).sum := by
  induction is generalizing d with
  | nil => simp
  | cons i is ih =>
    have := ih (d.read i)
    have := length_read_le d i
    rw [List.foldl_cons, List.map_cons, List.sum_cons]
    omega

/-- A line adds the token that it defines to those that are there, and no
    other. -/
theorem mem_map_token_read : token ∈ (d.read i).nodes.map NumberedNode.token ↔
    token ∈ d.nodes.map NumberedNode.token ∨
      ∃ label, LineKind.ofText i.text = .definition token label := by
  rw [read]
  split
  · next t label hk =>
    have hline : (∃ l, LineKind.definition t label = .definition token l) ↔ token = t := by
      simp [eq_comm]
    rw [hk, hline, define]
    split
    · next hdef =>
      -- The token is there already.
      rw [map_token_relabel]
      have hmem : t ∈ d.nodes.map NumberedNode.token := defines_iff.1 hdef
      exact (or_iff_left_of_imp fun heq => heq ▸ hmem).symm
    · simp
  · next hk => simp [connect, hk]
  · next hk =>
    rw [proceed]
    split
    · simp [note, hk]
    · rw [map_token_relabel]
      simp [hk]

/-- The tokens of a draft are those that lines have defined. -/
theorem mem_map_token_foldl (is : List InkedLine) :
    token ∈ (is.foldl read d).nodes.map NumberedNode.token ↔
      token ∈ d.nodes.map NumberedNode.token ∨
        ∃ i ∈ is, ∃ label, LineKind.ofText i.text = .definition token label := by
  induction is generalizing d with
  | nil => simp
  | cons i is ih =>
    rw [List.foldl_cons, ih, mem_map_token_read, or_assoc]
    simp only [List.exists_mem_cons_iff]

/-- A draft has a node as soon as a line has defined one. -/
theorem nodes_foldl_eq_nil_iff (d : Draft) (is : List InkedLine) :
    (is.foldl read d).nodes = [] ↔
      d.nodes = [] ∧ ∀ i ∈ is, ∀ token label, LineKind.ofText i.text ≠ .definition token label := by
  have hnil (nodes : List NumberedNode) :
      nodes = [] ↔ ∀ token, token ∉ nodes.map NumberedNode.token := by
    rw [← List.eq_nil_iff_forall_not_mem, List.map_eq_nil_iff]
  rw [hnil, hnil]
  simp only [mem_map_token_foldl, not_or, forall_and, not_exists, not_and]
  exact and_congr_right fun _ => forall_comm.trans (forall_congr' fun i => forall_comm)

end Draft

theorem draft_wellFormed (s : Text) : WellFormed (draft s).nodes (draft s).links :=
  Draft.wellFormed_foldl (d := .empty)
    ⟨List.nodup_nil, by simp [Draft.empty], by simp [Draft.empty], by simp [Draft.empty]⟩
    fun _ => Text.mem_inkedLines

/-- What is read is the draft of the whole text, if a node has been defined. -/
theorem read_eq_recognized_iff {s dialect : Text} {sketch : Sketch} {notes : List Note} :
    read s = .recognized dialect sketch notes ↔ (draft s).nodes ≠ [] ∧
      dialect = numberedDialect ∧ sketch = .numbered (draft s).nodes (draft s).links ∧
        notes = (draft s).notes := by
  simp only [read]
  split
  · next hnil => simp [List.isEmpty_iff.1 hnil]
  · next hne =>
    have hne : (draft s).nodes ≠ [] := by simpa using hne
    simp [hne, eq_comm]

/-- What is read is well-formed, and there is something. -/
theorem wellFormed_of_read {s : Text} {dialect : Text} {sketch : Sketch} {notes : List Note}
    (h : read s = .recognized dialect sketch notes) :
    ∃ nodes links, dialect = numberedDialect ∧ sketch = .numbered nodes links ∧ nodes ≠ [] ∧
      WellFormed nodes links ∧ nodes.length + links.length ≤ 2 * s.length := by
  obtain ⟨hne, rfl, rfl, -⟩ := read_eq_recognized_iff.1 h
  refine ⟨_, _, rfl, rfl, hne, draft_wellFormed s, ?_⟩
  have hlen := Draft.length_foldl_le .empty (Text.inkedLines s)
  have hsum := Text.sum_length_inkedLines s
  simp only [Draft.empty, List.length_nil] at hlen
  rw [draft, Draft.empty]
  omega

/-- The notation applies iff a line defines a node. -/
theorem read_notApplicable_iff {s : Text} : (∃ reason, read s = .notApplicable reason) ↔
    ∀ i ∈ Text.inkedLines s, ∀ token label, LineKind.ofText i.text ≠ .definition token label := by
  have h := Draft.nodes_foldl_eq_nil_iff .empty (Text.inkedLines s)
  rw [show Draft.empty.nodes = [] from rfl, eq_self, true_and] at h
  rw [← h, ← draft, read]
  simp only [List.isEmpty_iff]
  split
  · next hnil => simpa using hnil
  · next hne => simpa using hne

end FlowScript.Numbered
