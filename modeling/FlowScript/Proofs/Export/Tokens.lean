import FlowScript.Proofs.Chart.Accepted
import FlowScript.Proofs.Export.Form
import FlowScript.Proofs.Ident
import FlowScript.Proofs.Script.AnyLabel
import FlowScript.Proofs.Script.NumberedMeaning
import FlowScript.Proofs.Script.Reading
import Mathlib.Data.List.Nodup

/-!
# The tokens of a numbered chart

In the numbered notation a node is written under its token, and read back under
it. The definition of a node begins a line of its own, whatever the labels are,
so its token is defined by the text (`mem_tokens_draft`), and as a reading has
no token twice, exactly one of the nodes that are read stands for it
(`existsUnique_comesBackAs`).

Nodes therefore come back as one node iff they have the same token
(`exists_comesBackAs_iff`), and tokens tell ids apart but for one line feed at the
end (`Ident.token_eq_token_iff`), which the ids of a loaded chart may have.

* `tokens_apart_iff`: which ids have tokens, which charts have distinct ones,
  and which of their nodes are read back as one.
-/

namespace FlowScript

open Text (inkedTexts isNumeral)

namespace Chart

variable {c : Chart} {r : Registry} {n n' : Node} {m : NumberedNode}

/-- When the chart is written in the numbered notation and the text is read, the
    node `m` has been read for the node `n`: it has its token. -/
def ComesBackAs (c : Chart) (r : Registry) (n : Node) (m : NumberedNode) : Prop :=
  ∃ nodes links notes,
    Reading.ofText (c.toNumbered r) = .recognized numberedDialect (.numbered nodes links) notes ∧
      m ∈ nodes ∧ m.token = Ident.token n.id

theorem isNumbered_of_mem (h : c.form = .numbered) (hn : n ∈ c.nodes) :
    Ident.isNumbered n.id = true :=
  form_eq_numbered_iff.1 h n.id (List.mem_map_of_mem hn)

/-- The definition of a node begins with one of its token. -/
theorem exists_definedToken? (h : c.form = .numbered) (r : Registry) (hn : n ∈ c.nodes) :
    ∃ line more, inkedTexts (definitionLine r n) = line :: more ∧
      Numbered.definedToken? line = some (Ident.token n.id) := by
  have hnum := Ident.isNumeral_token (isNumbered_of_mem h hn)
  obtain ⟨rest, more, hlines⟩ := Numbered.exists_inkedTexts_definition hnum (r.labelFor n.id)
  exact ⟨_, more, hlines, Numbered.definedToken?_definition hnum rest⟩

/-- Its token is read, whatever the labels and the edges are. -/
theorem mem_tokens_draft (h : c.form = .numbered) (r : Registry) (hn : n ∈ c.nodes) :
    Ident.token n.id ∈
      (Numbered.draft (c.toNumbered r)).nodes.map NumberedNode.token := by
  obtain ⟨line, more, hlines, hdef⟩ := exists_definedToken? h r hn
  rw [(Numbered.follows_draft _).described.tokens, List.mem_eraseDups, Numbered.definedTokens,
    List.mem_filterMap]
  refine ⟨line, ?_, hdef⟩
  rw [toNumbered, Text.inkedTexts_join, List.flatMap_append, List.mem_append]
  exact .inl (List.mem_flatMap.2
    ⟨_, List.mem_map_of_mem hn, hlines ▸ List.mem_cons_self⟩)

/-- The text of a chart with nodes is read as the draft of it. -/
theorem exists_ofText_toNumbered (h : c.form = .numbered) (r : Registry) (hn : n ∈ c.nodes) :
    ∃ notes, Reading.ofText (c.toNumbered r) = .recognized numberedDialect
      (.numbered (Numbered.draft (c.toNumbered r)).nodes
        (Numbered.draft (c.toNumbered r)).links) notes := by
  obtain ⟨m, hm, -⟩ := List.mem_map.1 (mem_tokens_draft h r hn)
  have hread := Numbered.read_eq_recognized_iff.2 ⟨List.ne_nil_of_mem hm, rfl, rfl, rfl⟩
  refine ⟨_, Reading.ofText_of_read ?_ hread⟩
  -- A text without inked lines has no nodes.
  rw [Bool.eq_false_iff, ne_eq, Text.isBlankText_iff]
  intro hnil
  have htokens := mem_tokens_draft h r hn
  rw [(Numbered.follows_draft _).described.tokens, hnil] at htokens
  exact List.not_mem_nil htokens

theorem comesBackAs_iff (h : c.form = .numbered) (hn : n ∈ c.nodes) :
    c.ComesBackAs r n m ↔
      m ∈ (Numbered.draft (c.toNumbered r)).nodes ∧ m.token = Ident.token n.id := by
  obtain ⟨notes, hread⟩ := exists_ofText_toNumbered h r hn
  constructor
  · rintro ⟨nodes, links, notes', hread', hm⟩
    rw [hread] at hread'
    cases hread'
    exact hm
  · exact fun hm => ⟨_, _, notes, hread, hm⟩

/-- Exactly one node is read for a node. -/
theorem existsUnique_comesBackAs (h : c.form = .numbered) (r : Registry) (hn : n ∈ c.nodes) :
    ∃! m, c.ComesBackAs r n m := by
  obtain ⟨m, hm, htoken⟩ := List.mem_map.1 (mem_tokens_draft h r hn)
  refine ⟨m, (comesBackAs_iff h hn).2 ⟨hm, htoken⟩, fun m' hm' => ?_⟩
  obtain ⟨hmem, heq⟩ := (comesBackAs_iff h hn).1 hm'
  exact List.inj_on_of_nodup_map (Numbered.draft_wellFormed _).nodup hmem hm
    (heq.trans htoken.symm)

/-- Nodes are read back as one node iff they have the same token. -/
theorem exists_comesBackAs_iff (h : c.form = .numbered) (hn : n ∈ c.nodes) (hn' : n' ∈ c.nodes) :
    (∃ m, c.ComesBackAs r n m ∧ c.ComesBackAs r n' m) ↔
      Ident.token n.id = Ident.token n'.id := by
  constructor
  · rintro ⟨m, hm, hm'⟩
    exact ((comesBackAs_iff h hn).1 hm).2.symm.trans ((comesBackAs_iff h hn').1 hm').2
  · intro heq
    obtain ⟨m, hm, -⟩ := existsUnique_comesBackAs h r hn
    obtain ⟨hmem, htoken⟩ := (comesBackAs_iff h hn).1 hm
    exact ⟨m, hm, (comesBackAs_iff h hn').2 ⟨hmem, htoken.trans heq⟩⟩

/-- Ids and tokens. The numbered ids are those of numerals, as they are or with
    one line feed behind, and the numeral is the token. So in a chart of such ids,
    every definition defines the token of its node; the tokens are distinct iff no
    id is there twice, nor with and without a line feed; and a node is read back as
    one node, the same for two nodes iff their ids are the same but for a line
    feed. -/
theorem tokens_apart_iff (id : Text) (c : Chart) (r : Registry) :
    (Ident.isNumbered id = true ↔ ∃ t, isNumeral t = true ∧
      (id = Ident.numbered t ∨ id = Ident.numbered t ++ ['\n'])) ∧
    (∀ t, Ident.token? id = some t ↔ isNumeral t = true ∧
      (id = Ident.numbered t ∨ id = Ident.numbered t ++ ['\n'])) ∧
    (c.form = .numbered →
      (∀ n ∈ c.nodes, ∃ line more, inkedTexts (definitionLine r n) = line :: more ∧
        Numbered.definedToken? line = some (Ident.token n.id)) ∧
      ((c.nodes.map fun n => Ident.token n.id).Nodup ↔
        c.nodeIds.Nodup ∧ ∀ id ∈ c.nodeIds, id ++ ['\n'] ∉ c.nodeIds) ∧
      (∀ n ∈ c.nodes, ∃! m, c.ComesBackAs r n m) ∧
      ∀ n ∈ c.nodes, ∀ n' ∈ c.nodes,
        (∃ m, c.ComesBackAs r n m ∧ c.ComesBackAs r n' m) ↔ Ident.SameButFeed n.id n'.id) := by
  refine ⟨Ident.isNumbered_iff, fun t => Ident.token?_eq_some_iff, fun h =>
    ⟨fun n => exists_definedToken? h r, ?_, fun n => existsUnique_comesBackAs h r,
      fun n hn n' hn' => ?_⟩⟩
  · rw [← Ident.nodup_map_token_iff (form_eq_numbered_iff.1 h), nodeIds, List.map_map]
    rfl
  · rw [exists_comesBackAs_iff h hn hn',
      Ident.token_eq_token_iff (isNumbered_of_mem h hn) (isNumbered_of_mem h hn')]

/-- A node as it is loaded when only its id is given. -/
def loadedNode (id : Text) : Node :=
  { id, label := some [] }

/-- A loaded chart of two such nodes, without edges. -/
def loadedPair (s t : Text) : Chart :=
  { name := some loadedName, nodes := [loadedNode s, loadedNode t] }

/-- For instance `3` and `03` are tokens of two nodes, which are read back as two. -/
theorem tokens_apart_zero :
    let c := loadedPair "n_3".toList "n_03".toList
    c.form = .numbered ∧ (c.nodes.map fun n => Ident.token n.id).Nodup ∧
      ¬∃ m, c.ComesBackAs .empty (loadedNode "n_3".toList) m ∧
        c.ComesBackAs .empty (loadedNode "n_03".toList) m := by
  intro c
  have hform : c.form = .numbered := by decide
  obtain ⟨-, -, hchart⟩ := tokens_apart_iff "n_3".toList c .empty
  obtain ⟨-, hnodup, -, hmerged⟩ := hchart hform
  refine ⟨hform, hnodup.2 (by decide), ?_⟩
  rw [hmerged _ List.mem_cons_self _ (List.mem_cons_of_mem _ List.mem_cons_self)]
  decide

/-- But a line feed behind an id is lost: that id is no numeral's and counts as
    numbered, its token is that of the id in front of the line feed, and the two
    nodes become one. -/
theorem feed_merges :
    let fed := "n_3\n".toList
    let c := loadedPair "n_3".toList fed
    let r := (Registry.empty.assign "n_3".toList "A".toList).assign fed "B".toList
    Ident.isNumbered fed = true ∧ (¬∃ t, isNumeral t = true ∧ fed = Ident.numbered t) ∧
      ofJson (.object (payloadOf [nodeEntry "n_3".toList, nodeEntry fed] [])) = .ok c ∧
      c.form = .numbered ∧ c.nodeIds.Nodup ∧ c.toText r = "3.A\n3.B".toList ∧
      Reading.ofText (c.toText r) = .recognized numberedDialect
        (.numbered [⟨"3".toList, "B".toList⟩] [])
        [⟨2, .redefined "3".toList, "3.B".toList⟩] := by
  intro fed c r
  have htext : c.toText r = "3.A\n3.B".toList := by decide +kernel
  refine ⟨by decide, ?_, rfl, by decide, by decide, htext, by rw [htext]; decide +kernel⟩
  rintro ⟨t, ht, heq⟩
  obtain rfl : "3\n".toList = t := Ident.numbered_injective heq
  exact absurd ht (by decide)

end Chart

end FlowScript
