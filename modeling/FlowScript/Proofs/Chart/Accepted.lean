import FlowScript.Proofs.Chart.Payload
import Mathlib.Data.List.Forall2
import Mathlib.Data.List.Infix

/-!
# Which payloads are accepted

A payload of the documented shape is *coherent* when its nodes have distinct ids,
its edges join nodes and no id is given to two edges. A payload that can be
loaded is coherent, but not every coherent one can be loaded. Edges are added in
order, and one without an id gets the least number whose id no edge in front of it
has. An edge behind it may be given that very id, and is refused.

Which numbers are used up so can be told without loading (`Loaded.edgeId_not_mem_iff`). The
counter passes over given numbers only, so a number `k` that is not given to an
edge is still free iff the edges that use up numbers below it are at most `k`:
those without an id and those with a given id below that of `k`
(`usesBelow`).

* `exists_ofJson_iff`: the payloads that can be loaded;
* `coherent_refused`: a coherent one that cannot.
-/

namespace FlowScript

open Table (get?)

/-! ## The documented shape -/

/-- The value is a text. -/
def Json.isText : Json → Bool
  | .string _ => true
  | _ => false

/-- The value is a text or null. -/
def Json.isTextOrNull : Json → Bool
  | .null => true
  | .string _ => true
  | _ => false

/-- The value is a number or null. -/
def Json.isNumberOrNull : Json → Bool
  | .null => true
  | .number _ => true
  | _ => false

/-- If there is a member of the name, its value is of the kind. -/
def MemberIs (kind : Json → Bool) (name : Text) (members : Table Json) : Prop :=
  (get? members name).all kind = true

instance (kind : Json → Bool) (name : Text) (members : Table Json) :
    Decidable (MemberIs kind name members) :=
  inferInstanceAs (Decidable (_ = true))

/-- The text under a name, if there is one. -/
def textAt? (name : Text) (members : Table Json) : Option Text :=
  match get? members name with
  | some (.string s) => some s
  | _ => none

/-- The id of an entry, if one is given. -/
abbrev givenId? : Table Json → Option Text :=
  textAt? "id".toList

/-- The members of a node are as documented. -/
structure NodeShape (members : Table Json) : Prop where
  /-- The id is a text. -/
  id : MemberIs Json.isText "id".toList members
  /-- The label is a text. -/
  label : MemberIs Json.isTextOrNull "label".toList members
  /-- The left end is a number. -/
  x : MemberIs Json.isNumberOrNull "x".toList members
  /-- The upper end is a number. -/
  y : MemberIs Json.isNumberOrNull "y".toList members
  /-- The width is a number. -/
  width : MemberIs Json.isNumberOrNull "width".toList members
  /-- The height is a number. -/
  height : MemberIs Json.isNumberOrNull "height".toList members

/-- The members of an edge are as documented. -/
structure EdgeShape (members : Table Json) : Prop where
  /-- The id is a text, or null if it is left to the chart. -/
  id : MemberIs Json.isTextOrNull "id".toList members
  /-- The start is a text. -/
  source : MemberIs Json.isText "source".toList members
  /-- The end is a text. -/
  target : MemberIs Json.isText "target".toList members
  /-- The label is a text. -/
  label : MemberIs Json.isTextOrNull "label".toList members

/-- The member is a list of objects with the given members, or there is none and
    there are no objects. -/
def Lists (name : Text) (members : Table Json) (entries : List (Table Json)) : Prop :=
  get? members name = some (.array (entries.map .object)) ∨
    (get? members name = none ∧ entries = [])

/-- A payload of the documented shape, with the members of its nodes and of its
    edges. -/
structure Documented (payload : Table Json) (nodes edges : List (Table Json)) : Prop where
  /-- The name is a text. -/
  name : MemberIs Json.isTextOrNull "name".toList payload
  /-- The nodes are listed. -/
  nodes_listed : Lists "nodes".toList payload nodes
  /-- The edges are listed. -/
  edges_listed : Lists "edges".toList payload edges
  /-- The nodes are as documented. -/
  nodes : ∀ m ∈ nodes, NodeShape m
  /-- The edges are as documented. -/
  edges : ∀ m ∈ edges, EdgeShape m

/-! ## What makes a payload acceptable -/

/-- The entries of a payload fit together. -/
structure Coherent (nodes edges : List (Table Json)) : Prop where
  /-- Every node has an id. -/
  named : ∀ m ∈ nodes, (givenId? m).isSome = true
  /-- No two nodes have the same id. -/
  nodes_distinct : (nodes.filterMap givenId?).Nodup
  /-- Every edge starts and ends at a node. -/
  ends : ∀ m ∈ edges,
    (∃ s ∈ nodes.filterMap givenId?, textAt? "source".toList m = some s) ∧
      ∃ t ∈ nodes.filterMap givenId?, textAt? "target".toList m = some t
  /-- No id is given to two edges. -/
  edges_distinct : (edges.filterMap givenId?).Nodup

/-- The automatic ids with numbers below `k`. -/
def idsBelow (k : Nat) : List Text :=
  (List.range k).map edgeId

/-- The edge uses up a number below `k`, if there is one to be used up: it has no id, or
    is given the id of such a number. -/
def usesBelow (k : Nat) (m : Table Json) : Bool :=
  match givenId? m with
  | none => true
  | some id => id ∈ idsBelow k

/-- No edge is given an automatic id that an edge in front of it has got. -/
def Untaken (edges : List (Table Json)) : Prop :=
  ∀ before m k, before ++ [m] <+: edges → givenId? m = some (edgeId k) →
    before.countP (usesBelow k) ≤ k

variable {name id : Text} {m payload : Table Json} {nodes edges before : List (Table Json)}
  {k : Nat}

/-! ## Entries -/

theorem textAt?_of_requiredText {s : Text} (h : requiredText name m = .ok s) :
    textAt? name m = some s := by
  rw [requiredText] at h
  rw [textAt?]
  split at h
  · cases h
  · next hget =>
    obtain rfl := Except.ok.inj h
    rw [hget]
  · cases h

theorem requiredText_of_textAt? {s : Text} (h : textAt? name m = some s) :
    requiredText name m = .ok s := by
  rw [textAt?] at h
  split at h
  · next hget =>
    obtain rfl := Option.some.inj h
    exact requiredText_of_get? hget
  · cases h

theorem exists_optionalText (h : MemberIs Json.isTextOrNull name m) (absent : Option Text) :
    ∃ s, optionalText name absent m = .ok s := by
  rw [MemberIs] at h
  rw [optionalText]
  cases hget : get? m name with
  | none => exact ⟨absent, rfl⟩
  | some v =>
    rw [hget] at h
    cases v with
    | null => exact ⟨none, rfl⟩
    | string s => exact ⟨some s, rfl⟩
    | bool | number | array | object => cases h

/-- A text that may be missing or null is the text that is there. -/
theorem textAt?_of_optionalText {s : Option Text} (h : optionalText name none m = .ok s) :
    textAt? name m = s := by
  rw [optionalText] at h
  rw [textAt?]
  split at h
  · next hget => rw [hget, Except.ok.inj h]
  · next hget => rw [hget, Except.ok.inj h]
  · next hget => rw [hget, ← Except.ok.inj h]
  · cases h

theorem exists_measureMember (h : MemberIs Json.isNumberOrNull name m) :
    ∃ n, measureMember name m = .ok n := by
  rw [MemberIs] at h
  rw [measureMember]
  cases hget : get? m name with
  | none => exact ⟨_, rfl⟩
  | some v =>
    rw [hget] at h
    cases v with
    | null => exact ⟨none, rfl⟩
    | number n => exact ⟨some n, rfl⟩
    | bool | string | array | object => cases h

theorem entries_of_lists {entries : List (Table Json)} (h : Lists name m entries) :
    FlowScript.entries name m = .ok (entries.map .object) := by
  rcases h with hget | ⟨hget, rfl⟩
  · exact entries_of_get? hget
  · rw [FlowScript.entries, hget]
    rfl

/-- An entry with an id describes a node of that id. -/
theorem exists_node_ofJson (h : NodeShape m) (hid : givenId? m = some id) :
    ∃ n, Node.ofJson (.object m) = .ok n ∧ n.id = id := by
  obtain ⟨label, hlabel⟩ := exists_optionalText h.label (some [])
  obtain ⟨x, hx⟩ := exists_measureMember h.x
  obtain ⟨y, hy⟩ := exists_measureMember h.y
  obtain ⟨width, hwidth⟩ := exists_measureMember h.width
  obtain ⟨height, hheight⟩ := exists_measureMember h.height
  refine ⟨⟨id, label, x, y, width, height, metadataMember m⟩, ?_, rfl⟩
  rw [Node.ofJson]
  simp only [entryMembers, bind, Except.bind, requiredText_of_textAt? hid, hlabel, hx, hy, hwidth,
    hheight]
  rfl

/-- Only an entry with an id describes a node. -/
theorem of_node_ofJson {n : Node} (h : Node.ofJson (.object m) = .ok n) :
    givenId? m = some n.id := by
  obtain ⟨members, hm, h⟩ := exists_of_bind_eq_ok h
  obtain rfl := Except.ok.inj hm
  obtain ⟨id, hid, h⟩ := exists_of_bind_eq_ok h
  obtain ⟨label, -, h⟩ := exists_of_bind_eq_ok h
  obtain ⟨x, -, h⟩ := exists_of_bind_eq_ok h
  obtain ⟨y, -, h⟩ := exists_of_bind_eq_ok h
  obtain ⟨width, -, h⟩ := exists_of_bind_eq_ok h
  obtain ⟨height, -, h⟩ := exists_of_bind_eq_ok h
  obtain rfl := Except.ok.inj h
  exact textAt?_of_requiredText hid

/-- An entry with both ends describes an edge. -/
theorem exists_edge_ofJson (h : EdgeShape m) {s t : Text}
    (hs : textAt? "source".toList m = some s) (ht : textAt? "target".toList m = some t) :
    ∃ e, NewEdge.ofJson (.object m) = .ok e := by
  obtain ⟨id?, hid⟩ := exists_optionalText h.id none
  have hlabel := h.label
  rw [MemberIs] at hlabel
  rw [NewEdge.ofJson]
  simp only [entryMembers, bind, Except.bind, requiredText_of_textAt? hs,
    requiredText_of_textAt? ht, hid]
  cases hget : get? m "label".toList with
  | none => exact ⟨_, rfl⟩
  | some v =>
    rw [hget] at hlabel
    cases v with
    | null => exact ⟨_, rfl⟩
    | string s => exact ⟨_, rfl⟩
    | bool | number | array | object => cases hlabel

/-- Only an entry with both ends describes an edge, which has the id that is
    given. -/
theorem of_edge_ofJson {e : NewEdge} (h : NewEdge.ofJson (.object m) = .ok e) :
    textAt? "source".toList m = some e.source ∧ textAt? "target".toList m = some e.target ∧
      givenId? m = e.id? := by
  obtain ⟨members, hm, h⟩ := exists_of_bind_eq_ok h
  obtain rfl := Except.ok.inj hm
  obtain ⟨source, hs, h⟩ := exists_of_bind_eq_ok h
  obtain ⟨target, ht, h⟩ := exists_of_bind_eq_ok h
  -- Whatever the label is, the id comes next.
  obtain ⟨label, h⟩ : ∃ label, (optionalText "id".toList none m >>= fun id? =>
      .ok ⟨id?, source, target, label, metadataMember m⟩) = .ok e := by
    split at h
    · exact ⟨_, h⟩
    · split at h
      · cases h
      · exact ⟨_, h⟩
    · exact ⟨_, h⟩
  obtain ⟨id?, hid, h⟩ := exists_of_bind_eq_ok h
  obtain rfl := Except.ok.inj h
  exact ⟨textAt?_of_requiredText hs, textAt?_of_requiredText ht, textAt?_of_optionalText hid⟩

namespace Chart

variable {c c' : Chart} {vs ws : List Json} {n : Node} {e : NewEdge} {added : Edge}

/-! ## Adding nodes -/

theorem of_addNodes (h : c.addNodes (nodes.map .object) = .ok c') :
    (∀ m ∈ nodes, (givenId? m).isSome = true) ∧
      c'.nodeIds = c.nodeIds ++ nodes.filterMap givenId? ∧ c'.edges = c.edges := by
  induction nodes generalizing c with
  | nil =>
    obtain rfl := Except.ok.inj h
    simp
  | cons m rest ih =>
    obtain ⟨n, hn, h⟩ := exists_of_bind_eq_ok h
    obtain ⟨d, hd, h⟩ := exists_of_bind_eq_ok h
    obtain ⟨-, rfl⟩ := of_addNode hd
    obtain ⟨hnamed, hids, hedges⟩ := ih h
    have hid := of_node_ofJson hn
    refine ⟨List.forall_mem_cons.2 ⟨hid ▸ rfl, hnamed⟩, ?_, hedges⟩
    rw [hids, List.filterMap_cons_some hid, nodeIds, nodeIds, List.map_append, List.append_assoc]
    rfl

/-- Nodes that have new and distinct ids are added. -/
theorem exists_addNodes (hshape : ∀ m ∈ nodes, NodeShape m)
    (hnamed : ∀ m ∈ nodes, (givenId? m).isSome = true)
    (hids : (c.nodeIds ++ nodes.filterMap givenId?).Nodup) :
    ∃ c', c.addNodes (nodes.map .object) = .ok c' := by
  induction nodes generalizing c with
  | nil => exact ⟨c, rfl⟩
  | cons m rest ih =>
    rw [List.forall_mem_cons] at hshape hnamed
    obtain ⟨id, hid⟩ := Option.isSome_iff_exists.1 hnamed.1
    obtain ⟨n, hn, rfl⟩ := exists_node_ofJson hshape.1 hid
    rw [List.filterMap_cons_some hid] at hids
    have hnew : n.id ∉ c.nodeIds := fun hmem =>
      (List.nodup_append.1 hids).2.2 _ hmem _ List.mem_cons_self rfl
    rw [List.map_cons, addNodes, hn]
    simp only [bind, Except.bind, addNode_of_not_mem hnew]
    exact ih hshape.2 hnamed.2 (by simpa [nodeIds] using hids)

/-! ## Used numbers -/

theorem mem_idsBelow_iff : id ∈ idsBelow k ↔ ∃ j < k, edgeId j = id := by
  simp [idsBelow]

theorem nodup_idsBelow (k : Nat) : (idsBelow k).Nodup :=
  List.nodup_range.map fun _ _ => edgeId_injective

/-- Among distinct ids at most `k` are automatic ones with numbers below `k`. -/
theorem countP_idsBelow_le {ids : List Text} (h : ids.Nodup) (k : Nat) :
    ids.countP (· ∈ idsBelow k) ≤ k := by
  have hsub : ids.filter (· ∈ idsBelow k) ⊆ idsBelow k := fun id hid => by
    simpa using (List.mem_filter.1 hid).2
  have hle := (h.filter _).length_le_of_subset hsub
  rwa [← List.countP_eq_length_filter, idsBelow, List.length_map, List.length_range] at hle

/-- If all automatic ids with numbers below `k` are there, they are at least
    `k`. -/
theorem le_countP_idsBelow {ids : List Text} (h : ∀ j < k, edgeId j ∈ ids) :
    k ≤ ids.countP (· ∈ idsBelow k) := by
  have hsub : idsBelow k ⊆ ids.filter (· ∈ idsBelow k) := fun id hid => by
    obtain ⟨j, hj, rfl⟩ := mem_idsBelow_iff.1 hid
    exact List.mem_filter.2 ⟨h j hj, by simpa using hid⟩
  have hle := (nodup_idsBelow k).length_le_of_subset hsub
  rwa [← List.countP_eq_length_filter, idsBelow, List.length_map, List.length_range] at hle

theorem usesBelow_iff :
    usesBelow k m = true ↔ givenId? m = none ∨ ∃ j < k, givenId? m = some (edgeId j) := by
  rw [usesBelow]
  split
  · next h => simp [h]
  · next id h =>
    rw [decide_eq_true_eq, mem_idsBelow_iff, h]
    simp [eq_comm]

/-- Counting in two lists whose elements correspond in order. -/
theorem countP_le_of_forall₂ {α β : Type} {R : α → β → Prop} {p : α → Bool} {q : β → Bool}
    {l : List α} {l' : List β} (h : List.Forall₂ R l l')
    (himp : ∀ a ∈ l, ∀ b ∈ l', R a b → p a = true → q b = true) : l.countP p ≤ l'.countP q := by
  induction h with
  | nil => exact Nat.le_refl _
  | @cons a b l l' hab _ ih =>
    have hle := ih fun a ha b hb => himp a (List.mem_cons_of_mem _ ha) b (List.mem_cons_of_mem _ hb)
    have hhead := himp a List.mem_cons_self b List.mem_cons_self hab
    rw [List.countP_cons, List.countP_cons]
    split
    · next hp =>
      rw [if_pos (hhead hp)]
      omega
    · omega

/-- How an edge of the chart has come from an entry: under the id that is given, or
    under an automatic one that the counter has passed. -/
def ComesFrom (c : Chart) (m : Table Json) (id : Text) : Prop :=
  givenId? m = some id ∨ (givenId? m = none ∧ ∃ j < c.nextEdge, edgeId j = id)

/-- A chart into which the edges of the entries have been loaded. -/
structure Loaded (c : Chart) (before : List (Table Json)) : Prop extends Stored c where
  /-- The edges have come from the entries, in order. -/
  came : List.Forall₂ (ComesFrom c) before c.edgeIds

/-- Every edge has come from an entry. -/
theorem Loaded.exists_entry (h : c.Loaded before) (hid : id ∈ c.edgeIds) :
    ∃ m ∈ before, ComesFrom c m id := by
  obtain ⟨i, hi, rfl⟩ := List.getElem_of_mem hid
  have hlen := h.came.length_eq
  exact ⟨before[i], List.getElem_mem _, h.came.get (by omega) hi⟩

/-- The number of an id that is not given is still free iff the edges that use up
    lower numbers are not too many for it. -/
theorem Loaded.edgeId_not_mem_iff (h : c.Loaded before)
    (hid : edgeId k ∉ before.filterMap givenId?) :
    edgeId k ∉ c.edgeIds ↔ before.countP (usesBelow k) ≤ k := by
  have hgiven {m : Table Json} (hm : m ∈ before) : givenId? m ≠ some (edgeId k) :=
    fun heq => hid (List.mem_filterMap.2 ⟨m, hm, heq⟩)
  rcases Nat.lt_or_ge k c.nextEdge with hk | hk
  · -- The counter has passed the number, so it is taken along with all lower ones.
    have hmem : ∀ j < k + 1, edgeId j ∈ c.edgeIds := fun j hj => h.below j (by omega)
    have hle : c.edgeIds.countP (· ∈ idsBelow (k + 1)) ≤ before.countP (usesBelow k) := by
      refine countP_le_of_forall₂ h.came.flip fun id _ m hm hcame hbelow => ?_
      rw [decide_eq_true_eq, mem_idsBelow_iff] at hbelow
      obtain ⟨j, hj, rfl⟩ := hbelow
      rw [usesBelow_iff]
      rcases hcame with heq | ⟨hnone, -⟩
      · refine .inr ⟨j, ?_, heq⟩
        have hne : j ≠ k := fun hjk => hgiven hm (hjk ▸ heq)
        omega
      · exact .inl hnone
    have := le_countP_idsBelow hmem
    exact iff_of_false (not_not_intro (hmem k (Nat.lt_succ_self k))) (by omega)
  · -- The counter has not reached the number, nor has any automatic id.
    have hfree : edgeId k ∉ c.edgeIds := fun hmem => by
      obtain ⟨m, hm, heq | ⟨-, j, hj, heq⟩⟩ := h.exists_entry hmem
      · exact hgiven hm heq
      · have := edgeId_injective heq
        omega
    have hle : before.countP (usesBelow k) ≤ c.edgeIds.countP (· ∈ idsBelow k) := by
      refine countP_le_of_forall₂ h.came fun m _ id _ hcame huses => ?_
      rw [decide_eq_true_eq, mem_idsBelow_iff]
      rcases hcame with heq | ⟨-, j, hj, heq⟩
      · rcases usesBelow_iff.1 huses with hnone | ⟨j, hj, hgiven⟩
        · rw [hnone] at heq
          cases heq
        · exact ⟨j, hj, Option.some.inj (hgiven.symm.trans heq)⟩
      · exact ⟨j, by omega, heq⟩
    exact iff_of_true hfree (hle.trans (countP_idsBelow_le h.distinct k))

/-- An id can be given to the next edge iff no edge before is given it and, if it is
    an automatic one, its number has not been used up. -/
theorem Loaded.not_mem_edgeIds_iff (h : c.Loaded before) : id ∉ c.edgeIds ↔
    id ∉ before.filterMap givenId? ∧ ∀ k, id = edgeId k → before.countP (usesBelow k) ≤ k := by
  constructor
  · intro hfree
    have hid : id ∉ before.filterMap givenId? := fun hmem => by
      obtain ⟨m, hm, heq⟩ := List.mem_filterMap.1 hmem
      obtain ⟨i, hi, rfl⟩ := List.getElem_of_mem hm
      have hlen := h.came.length_eq
      rcases h.came.get hi (by omega) with hgiven | ⟨hnone, -⟩
      · rw [Option.some.inj (heq.symm.trans hgiven)] at hfree
        exact hfree (List.getElem_mem _)
      · cases heq.symm.trans hnone
    refine ⟨hid, fun k hk => ?_⟩
    subst hk
    exact (h.edgeId_not_mem_iff hid).1 hfree
  · rintro ⟨hid, hcount⟩ hmem
    obtain ⟨m, hm, heq | ⟨-, k, -, rfl⟩⟩ := h.exists_entry hmem
    · exact hid (List.mem_filterMap.2 ⟨m, hm, heq⟩)
    · exact (h.edgeId_not_mem_iff hid).2 (hcount k rfl) hmem

/-! ## Adding edges -/

/-- The last entry is added to the chart with all the others. -/
theorem addEdges_append_singleton_eq_ok_iff {v : Json} : c.addEdges (vs ++ [v]) = .ok c' ↔
    ∃ d e added, c.addEdges vs = .ok d ∧ NewEdge.ofJson v = .ok e ∧
      d.addEdge e = .ok (c', added) := by
  induction vs generalizing c with
  | nil =>
    rw [List.nil_append, addEdges]
    constructor
    · intro h
      obtain ⟨e, he, h⟩ := exists_of_bind_eq_ok h
      obtain ⟨⟨d, added⟩, hadd, h⟩ := exists_of_bind_eq_ok h
      obtain rfl := Except.ok.inj h
      exact ⟨c, e, added, rfl, he, hadd⟩
    · rintro ⟨d, e, added, hd, he, hadd⟩
      obtain rfl := Except.ok.inj hd
      simp only [he, hadd, bind, Except.bind, addEdges]
  | cons w vs ih =>
    rw [List.cons_append, addEdges, addEdges]
    cases NewEdge.ofJson w with
    | error fault => simp [bind, Except.bind]
    | ok e =>
      simp only [bind, Except.bind]
      cases c.addEdge e with
      | error fault => simp
      | ok outcome => exact ih

/-- An edge can be added iff it joins nodes and its id, if it is given one, is not
    taken. -/
theorem Stored.exists_addEdge_iff (h : c.Stored) : (∃ c' added, c.addEdge e = .ok (c', added)) ↔
    (e.source ∈ c.nodeIds ∧ e.target ∈ c.nodeIds) ∧ ∀ id, e.id? = some id → id ∉ c.edgeIds := by
  constructor
  · rintro ⟨c', added, hadd⟩
    obtain ⟨hends, ⟨id, hid, hfree, -⟩ | ⟨hid, -⟩⟩ := of_addEdge hadd
    · refine ⟨hends, fun other hother hmem => ?_⟩
      obtain rfl : id = other := Option.some.inj (hid.symm.trans hother)
      rw [h.contains_places_iff.2 hmem] at hfree
      cases hfree
    · refine ⟨hends, fun other hother => ?_⟩
      rw [hid] at hother
      cases hother
  · rintro ⟨⟨hs, ht⟩, hfree⟩
    cases hid : e.id? with
    | none => exact ⟨_, _, addEdge_of_id?_eq_none hid hs ht⟩
    | some id =>
      have hfree : Table.contains c.places id = false :=
        Bool.eq_false_iff.2 fun hmem => hfree id hid (h.contains_places_iff.1 hmem)
      exact ⟨_, _, addEdge_of_id?_eq_some hid hs ht hfree⟩

theorem loaded_nil (h : c.Stored) (hedges : c.edges = []) : c.Loaded [] where
  toStored := h
  came := by
    rw [edgeIds, hedges]
    exact List.Forall₂.nil

/-- One more edge that is loaded comes from its entry, and the counter does not go
    back. -/
theorem Loaded.addEdge (h : c.Loaded before) (hid : givenId? m = e.id?)
    (hadd : c.addEdge e = .ok (c', added)) :
    c'.Loaded (before ++ [m]) ∧ c'.nodeIds = c.nodeIds := by
  have hstored := h.toStored.addEdge hadd
  suffices c.nextEdge ≤ c'.nextEdge ∧ c'.edgeIds = c.edgeIds ++ [added.id] ∧
      ComesFrom c' m added.id ∧ c'.nodeIds = c.nodeIds by
    obtain ⟨hcounter, hids, hcame, hnodes⟩ := this
    refine ⟨⟨hstored, ?_⟩, hnodes⟩
    rw [hids]
    refine List.rel_append (h.came.imp fun m id hm => ?_) (.cons hcame .nil)
    exact hm.imp_right fun ⟨hnone, j, hj, heq⟩ => ⟨hnone, j, by omega, heq⟩
  obtain ⟨-, ⟨id, hgiven, -, rfl, rfl⟩ | ⟨hnone, rfl, rfl⟩⟩ := of_addEdge hadd
  · exact ⟨Nat.le_refl _, List.map_append, .inl (hid.trans hgiven), rfl⟩
  · -- The new number is free, so the counter had not passed it.
    have hnext : c.nextEdge ≤ c.nextNumber :=
      Nat.not_lt.1 fun hlt => h.isLeast_nextNumber.1 (h.below _ hlt)
    exact ⟨Nat.le_succ_of_le hnext, List.map_append,
      .inr ⟨hid.trans hnone, c.nextNumber, Nat.lt_succ_self _, rfl⟩, rfl⟩

/-- The entries of edges can be added to nodes with the given ids. -/
structure Addable (nodeIds : List Text) (edges : List (Table Json)) : Prop where
  /-- Every edge starts and ends at a node. -/
  ends : ∀ m ∈ edges, (∃ s ∈ nodeIds, textAt? "source".toList m = some s) ∧
    ∃ t ∈ nodeIds, textAt? "target".toList m = some t
  /-- No id is given to two edges. -/
  distinct : (edges.filterMap givenId?).Nodup
  /-- No edge is given an automatic id that is taken. -/
  untaken : Untaken edges

theorem untaken_nil : Untaken [] := fun _ _ _ h _ => by simp at h

theorem addable_nil (nodeIds : List Text) : Addable nodeIds [] where
  ends _ h := absurd h List.not_mem_nil
  distinct := List.nodup_nil
  untaken := untaken_nil

theorem untaken_append_singleton_iff : Untaken (edges ++ [m]) ↔
    Untaken edges ∧ ∀ k, givenId? m = some (edgeId k) → edges.countP (usesBelow k) ≤ k := by
  constructor
  · intro h
    exact ⟨fun before m' k hpre => h before m' k (List.prefix_concat_iff.2 (.inr hpre)),
      fun k => h edges m k List.prefix_rfl⟩
  · rintro ⟨hedges, hm⟩ before m' k hpre hid
    rcases List.prefix_concat_iff.1 hpre with heq | hpre
    · obtain ⟨rfl, hlast⟩ := List.append_inj' heq rfl
      obtain rfl := List.singleton_inj.1 hlast
      exact hm k hid
    · exact hedges before m' k hpre hid

theorem nodup_filterMap_append_singleton_iff :
    ((edges ++ [m]).filterMap givenId?).Nodup ↔
      (edges.filterMap givenId?).Nodup ∧
        ∀ id, givenId? m = some id → id ∉ edges.filterMap givenId? := by
  rw [List.filterMap_append]
  cases hid : givenId? m with
  | none => simp [hid]
  | some id =>
    rw [List.filterMap_cons_some hid, List.filterMap_nil, List.nodup_append_comm,
      List.singleton_append, List.nodup_cons, and_comm]
    simp

/-- One more entry can be added if it joins nodes and its id, if it has one, is not
    taken. -/
theorem addable_append_singleton_iff {nodeIds : List Text} : Addable nodeIds (edges ++ [m]) ↔
    Addable nodeIds edges ∧ ((∃ s ∈ nodeIds, textAt? "source".toList m = some s) ∧
      ∃ t ∈ nodeIds, textAt? "target".toList m = some t) ∧
      ∀ id, givenId? m = some id → id ∉ edges.filterMap givenId? ∧
        ∀ k, id = edgeId k → edges.countP (usesBelow k) ≤ k := by
  constructor
  · rintro ⟨hends, hdistinct, huntaken⟩
    rw [List.forall_mem_append, List.forall_mem_singleton] at hends
    rw [nodup_filterMap_append_singleton_iff] at hdistinct
    rw [untaken_append_singleton_iff] at huntaken
    exact ⟨⟨hends.1, hdistinct.1, huntaken.1⟩, hends.2, fun id hid =>
      ⟨hdistinct.2 id hid, fun k hk => huntaken.2 k (hk ▸ hid)⟩⟩
  · rintro ⟨⟨hends, hdistinct, huntaken⟩, hm, hid⟩
    refine ⟨?_, ?_, ?_⟩
    · rw [List.forall_mem_append, List.forall_mem_singleton]
      exact ⟨hends, hm⟩
    · exact nodup_filterMap_append_singleton_iff.2 ⟨hdistinct, fun id h => (hid id h).1⟩
    · exact untaken_append_singleton_iff.2 ⟨huntaken, fun k h => (hid _ h).2 k rfl⟩

theorem Loaded.of_addEdges (h : c.Loaded []) (hadd : c.addEdges (edges.map .object) = .ok c') :
    c'.Loaded edges ∧ c'.nodeIds = c.nodeIds := by
  induction edges using List.reverseRecOn generalizing c' with
  | nil =>
    obtain rfl := Except.ok.inj hadd
    exact ⟨h, rfl⟩
  | append_singleton edges m ih =>
    rw [List.map_append] at hadd
    obtain ⟨d, e, added, hd, he, hadd⟩ := addEdges_append_singleton_eq_ok_iff.1 hadd
    obtain ⟨hloaded, hnodes⟩ := ih hd
    obtain ⟨hloaded', hnodes'⟩ := hloaded.addEdge (of_edge_ofJson he).2.2 hadd
    exact ⟨hloaded', hnodes'.trans hnodes⟩

/-- Entries of the documented shape are added, one after the other, iff they can
    be. -/
theorem Loaded.exists_addEdges_iff (h : c.Loaded []) (hshape : ∀ m ∈ edges, EdgeShape m) :
    (∃ c', c.addEdges (edges.map .object) = .ok c') ↔ Addable c.nodeIds edges := by
  induction edges using List.reverseRecOn with
  | nil => exact iff_of_true ⟨c, rfl⟩ (addable_nil _)
  | append_singleton edges m ih =>
    rw [List.forall_mem_append, List.forall_mem_singleton] at hshape
    rw [addable_append_singleton_iff, ← ih hshape.1, List.map_append]
    constructor
    · rintro ⟨c', hadd⟩
      obtain ⟨d, e, added, hd, he, hadd⟩ := addEdges_append_singleton_eq_ok_iff.1 hadd
      obtain ⟨hloaded, hnodes⟩ := h.of_addEdges hd
      obtain ⟨hs, ht, hid⟩ := of_edge_ofJson he
      obtain ⟨hends, hfree⟩ := hloaded.exists_addEdge_iff.1 ⟨c', added, hadd⟩
      rw [hnodes] at hends
      exact ⟨⟨d, hd⟩, ⟨⟨_, hends.1, hs⟩, _, hends.2, ht⟩, fun id hgiven =>
        hloaded.not_mem_edgeIds_iff.1 (hfree id (hid.symm.trans hgiven))⟩
    · rintro ⟨⟨d, hd⟩, ⟨⟨s, hs, hsource⟩, t, ht, htarget⟩, hid⟩
      obtain ⟨hloaded, hnodes⟩ := h.of_addEdges hd
      obtain ⟨e, he⟩ := exists_edge_ofJson hshape.2 hsource htarget
      obtain ⟨hsource', htarget', hgiven⟩ := of_edge_ofJson he
      obtain rfl := Option.some.inj (hsource.symm.trans hsource')
      obtain rfl := Option.some.inj (htarget.symm.trans htarget')
      obtain ⟨c', added, hadd⟩ := hloaded.exists_addEdge_iff.2 ⟨hnodes.symm ▸ ⟨hs, ht⟩,
        fun id heq => hloaded.not_mem_edgeIds_iff.2 (hid id (hgiven.trans heq))⟩
      exact ⟨c', addEdges_append_singleton_eq_ok_iff.2 ⟨d, e, added, hd, he, hadd⟩⟩

/-! ## Loading -/

/-- The nodes are loaded into a chart without edges. -/
theorem loaded_addNodes {name : Option Text} {metadata : Metadata}
    (h : ({ name, metadata } : Chart).addNodes (nodes.map .object) = .ok c) :
    c.Loaded [] ∧ c.nodeIds = nodes.filterMap givenId? := by
  obtain ⟨-, hids, hedges⟩ := of_addNodes h
  exact ⟨loaded_nil ((saveable_new name metadata).addNodes h).toStored hedges, hids⟩

/-- A payload of the documented shape can be loaded iff it is coherent and no edge is
    given an automatic id that an edge in front of it has got. -/
theorem exists_ofJson_iff (h : Documented payload nodes edges) :
    (∃ c, ofJson (.object payload) = .ok c) ↔ Coherent nodes edges ∧ Untaken edges := by
  have hnodes := entries_of_lists h.nodes_listed
  have hedges := entries_of_lists h.edges_listed
  obtain ⟨name, hname⟩ := exists_optionalText h.name (some loadedName)
  simp only [ofJson, bind, Except.bind, hname, hnodes, hedges]
  constructor
  · rintro ⟨c, hload⟩
    obtain ⟨d, hd, hload⟩ := exists_of_bind_eq_ok hload
    obtain ⟨hloaded, hids⟩ := loaded_addNodes hd
    obtain ⟨hends, hdistinct, huntaken⟩ := (hloaded.exists_addEdges_iff h.edges).1 ⟨c, hload⟩
    rw [hids] at hends
    exact ⟨⟨(of_addNodes hd).1, hids ▸ hloaded.nodup, hends, hdistinct⟩, huntaken⟩
  · rintro ⟨⟨hnamed, hnodup, hends, hdistinct⟩, huntaken⟩
    obtain ⟨d, hd⟩ := exists_addNodes (c := { name, metadata := metadataMember payload }) h.nodes
      hnamed hnodup
    obtain ⟨hloaded, hids⟩ := loaded_addNodes hd
    obtain ⟨c, hc⟩ := (hloaded.exists_addEdges_iff h.edges).2
      ⟨hids.symm ▸ hends, hdistinct, huntaken⟩
    exact ⟨c, by simp only [hd, hc]⟩

/-! ## Refused payloads -/

/-- The members of a node with an id. -/
def nodeEntry (id : Text) : Table Json :=
  [("id".toList, .string id)]

/-- The members of an edge, with an id or null in its place. -/
def edgeEntry (id : Option Text) (source target : Text) : Table Json :=
  [("id".toList, .ofText? id), ("source".toList, .string source), ("target".toList, .string target)]

/-- The members of a payload with these nodes and edges. -/
def payloadOf (nodes edges : List (Table Json)) : Table Json :=
  [("nodes".toList, .array (nodes.map .object)), ("edges".toList, .array (edges.map .object))]

/-- Two nodes, an edge without an id and another one that is given one. -/
def twoEdges (id : Text) : List (Table Json) :=
  [edgeEntry none ['a'] ['b'], edgeEntry (some id) ['b'] ['a']]

theorem documented_twoEdges (id : Text) : Documented
    (payloadOf [nodeEntry ['a'], nodeEntry ['b']] (twoEdges id))
    [nodeEntry ['a'], nodeEntry ['b']] (twoEdges id) where
  name := rfl
  nodes_listed := .inl rfl
  edges_listed := .inl rfl
  nodes := by
    simp only [List.forall_mem_cons]
    exact ⟨⟨rfl, rfl, rfl, rfl, rfl, rfl⟩, ⟨rfl, rfl, rfl, rfl, rfl, rfl⟩, fun _ h => nomatch h⟩
  edges := by
    simp only [twoEdges, List.forall_mem_cons]
    exact ⟨⟨rfl, rfl, rfl, rfl⟩, ⟨rfl, rfl, rfl, rfl⟩, fun _ h => nomatch h⟩

theorem coherent_twoEdges (id : Text) :
    Coherent [nodeEntry ['a'], nodeEntry ['b']] (twoEdges id) where
  named := by decide +kernel
  nodes_distinct := by decide +kernel
  ends := by
    simp only [twoEdges, List.forall_mem_cons]
    exact ⟨⟨⟨['a'], by decide +kernel, rfl⟩, ['b'], by decide +kernel, rfl⟩,
      ⟨⟨['b'], by decide +kernel, rfl⟩, ['a'], by decide +kernel, rfl⟩, fun _ h => nomatch h⟩
  edges_distinct := List.nodup_singleton id

/-- Behind an edge without an id another one can be given the id `e1`. -/
theorem exists_ofJson_iff_next_id :
    let nodes := [nodeEntry ['a'], nodeEntry ['b']]
    Documented (payloadOf nodes (twoEdges "e1".toList)) nodes (twoEdges "e1".toList) ∧
      ∃ c, ofJson (.object (payloadOf nodes (twoEdges "e1".toList))) = .ok c := by
  intro nodes
  have hdoc := documented_twoEdges "e1".toList
  refine ⟨hdoc, (exists_ofJson_iff hdoc).2 ⟨coherent_twoEdges _, ?_⟩⟩
  -- The edge in front uses up one number, which is not too many for the number 1.
  have hfirst : Untaken [edgeEntry none ['a'] ['b']] :=
    untaken_append_singleton_iff.2 ⟨untaken_nil, fun k h => by cases h⟩
  refine untaken_append_singleton_iff.2 ⟨hfirst, fun k hk => ?_⟩
  obtain rfl : 1 = k := edgeId_injective (Option.some.inj hk)
  exact Nat.le_refl 1

/-- But it cannot be given `e0`, which the edge in front has got, though the two
    ids are not given twice. -/
theorem coherent_refused :
    let nodes := [nodeEntry ['a'], nodeEntry ['b']]
    let edges := twoEdges "e0".toList
    Documented (payloadOf nodes edges) nodes edges ∧ Coherent nodes edges ∧
      ofJson (.object (payloadOf nodes edges)) = .error (.edgeExists "e0".toList) :=
  ⟨documented_twoEdges _, coherent_twoEdges _, by cbv⟩

end Chart

end FlowScript
