import FlowScript.Chart.Payload
import FlowScript.Proofs.Chart.Write

/-!
# Saving and loading charts

Whatever a payload says of a node or an edge is read from it again, so a chart
that is loaded from its own payload is the chart that was saved, but for the
counter of automatic ids, which is not saved and starts again at zero
(`Saveable.ofJson_toJson`). That cannot be noticed: a counter that stands
further back than it could passes over taken numbers, and ends at the same one
(`Stored.nextNumber_rewind`). So the two charts go through the same history of
additions alike (`Rewound.outcomes_eq`, `Rewound.addAll`).

Main statement: what this says of every chart that arises from a new or a loaded
one by additions (`loaded_like_saved`).
-/

namespace FlowScript

variable {name : Text} {members : List (Text × Json)}

/-! ## Members -/

theorem requiredText_of_get? {s : Text} (h : Table.get? members name = some (.string s)) :
    requiredText name members = .ok s := by
  rw [requiredText, h]

/-- A text that may be missing is read as it is written. -/
theorem optionalText_of_get? {s : Option Text} (absent : Option Text)
    (h : Table.get? members name = some (.ofText? s)) :
    optionalText name absent members = .ok s := by
  rw [optionalText, h]
  cases s <;> rfl

/-- A coordinate or a size is read as it is written. -/
theorem measureMember_of_get? {n : Option Number}
    (h : Table.get? members name = some (measureJson n)) : measureMember name members = .ok n := by
  rw [measureMember, h]
  cases n <;> rfl

theorem metadataMember_of_get? {m : Metadata}
    (h : Table.get? members "metadata".toList = some m.value) : metadataMember members = m := by
  rw [metadataMember, h, Option.getD_some, Metadata.of_value]

theorem entries_of_get? {vs : List Json} (h : Table.get? members name = some (.array vs)) :
    entries name members = .ok vs := by
  rw [entries, h]

/-! ## Nodes and edges -/

/-- A node is read as it is written. -/
theorem Node.ofJson_toJson (n : Node) : Node.ofJson n.toJson = .ok n := by
  rw [Node.toJson, Node.ofJson]
  simp only [entryMembers, bind, Except.bind]
  rw [requiredText_of_get? rfl, optionalText_of_get? _ rfl, measureMember_of_get? rfl,
    measureMember_of_get? rfl, measureMember_of_get? rfl, measureMember_of_get? rfl,
    metadataMember_of_get? rfl]
  rfl

/-- The edge as it has to be added to be there again. -/
def Edge.again (e : Edge) : NewEdge :=
  ⟨some e.id, e.source, e.target, e.caption, e.metadata⟩

/-- An edge is read as one that is to be added under its id. -/
theorem Edge.ofJson_toJson (e : Edge) : NewEdge.ofJson e.toJson = .ok e.again := by
  rw [Edge.toJson, NewEdge.ofJson]
  simp only [entryMembers, bind, Except.bind]
  rw [requiredText_of_get? rfl, requiredText_of_get? rfl,
    optionalText_of_get? (s := some e.id) _ rfl, metadataMember_of_get? rfl, Edge.again,
    Edge.caption]
  cases e.label <;> rfl

namespace Chart

open Table (keys)

variable {c c' : Chart} {v : Json} {vs : List Json} {ns : List Node} {es : List Edge} {n : Node}
  {e : NewEdge} {added : Edge} {k : Nat} {additions : List Addition}

/-! ## Loading what has been saved -/

/-- A stored chart whose edges all have labels. -/
structure Saveable (c : Chart) : Prop extends Stored c where
  /-- No label of an edge has been taken away. -/
  labelled : ∀ e ∈ c.edges, e.label.isSome = true

/-- The edge is in the chart again when it is added as it was read. -/
theorem withId_again {e : Edge} (h : e.label.isSome = true) : e.again.withId e.id = e := by
  obtain ⟨label, hlabel⟩ := Option.isSome_iff_exists.1 h
  simp [Edge.again, NewEdge.withId, Edge.caption, ← hlabel, hlabel ▸ Option.getD_some]

/-- Nodes that are new are loaded one after the other. -/
theorem addNodes_map_toJson (h : (c.nodeIds ++ ns.map Node.id).Nodup) :
    c.addNodes (ns.map Node.toJson) = .ok { c with nodes := c.nodes ++ ns } := by
  induction ns generalizing c with
  | nil => simp [addNodes]
  | cons n ns ih =>
    have hnew : n.id ∉ c.nodeIds := fun hn =>
      (List.nodup_append.1 h).2.2 _ hn _ List.mem_cons_self rfl
    rw [List.map_cons, addNodes, Node.ofJson_toJson]
    simp only [bind, Except.bind, addNode_of_not_mem hnew]
    rw [ih (by simpa [nodeIds] using h), List.append_assoc, List.singleton_append]

/-- Edges between nodes are loaded one after the other under new ids, and none of
    them moves the counter. -/
theorem addEdges_map_toJson (hindex : c.places = indexOf c.edges)
    (hids : (c.edgeIds ++ es.map Edge.id).Nodup)
    (hends : ∀ e ∈ es, e.source ∈ c.nodeIds ∧ e.target ∈ c.nodeIds)
    (hlabels : ∀ e ∈ es, e.label.isSome = true) :
    c.addEdges (es.map Edge.toJson) =
      .ok { c with edges := c.edges ++ es, places := indexOf (c.edges ++ es) } := by
  induction es generalizing c with
  | nil => simp [addEdges, ← hindex]
  | cons e es ih =>
    rw [List.forall_mem_cons] at hends hlabels
    have hkeys : e.id ∉ keys c.places := by
      rw [hindex, keys_indexOf]
      exact fun he => (List.nodup_append.1 hids).2.2 _ he _ List.mem_cons_self rfl
    have hfree : Table.contains c.places e.id = false :=
      Bool.eq_false_iff.2 fun h => hkeys (Table.contains_iff.1 h)
    rw [List.map_cons, addEdges, Edge.ofJson_toJson]
    simp only [bind, Except.bind,
      addEdge_of_id?_eq_some (e := e.again) rfl hends.1.1 hends.1.2 hfree,
      withId_again hlabels.1]
    rw [ih]
    · simp [pushEdge]
    · rw [pushEdge, Table.put_of_not_mem hkeys, indexOf_append_singleton, hindex]
    · simpa [edgeIds, pushEdge] using hids
    · exact hends.2
    · exact hlabels.2

/-- A chart that is saved and loaded is the same again, but for the counter, which
    starts over. -/
theorem Saveable.ofJson_toJson (h : c.Saveable) :
    ofJson c.toJson = .ok { c with nextEdge := 0 } := by
  have hnodes := addNodes_map_toJson (c := { name := c.name, metadata := c.metadata }) h.nodup
  have hedges := addEdges_map_toJson
    (c := { name := c.name, metadata := c.metadata, nodes := c.nodes }) rfl h.distinct h.ends
    h.labelled
  rw [List.nil_append, ← h.index] at hedges
  rw [toJson, ofJson]
  simp only [bind, Except.bind]
  rw [optionalText_of_get? _ rfl, metadataMember_of_get? rfl, entries_of_get? rfl,
    entries_of_get? rfl]
  simp only [hnodes]
  exact hedges

/-! ## Which charts can be loaded -/

theorem saveable_new (name : Option Text) (metadata : Metadata) : Saveable { name, metadata } where
  toStored := stored_new name metadata
  labelled _ h := absurd h List.not_mem_nil

theorem Saveable.addNode (h : c.Saveable) (hadd : c.addNode n = .ok c') : c'.Saveable where
  toStored := h.toStored.addNode hadd
  labelled := by
    obtain ⟨-, rfl⟩ := of_addNode hadd
    exact h.labelled

/-- Whatever edge is added, it has a label. -/
theorem Saveable.addEdge (h : c.Saveable) (hadd : c.addEdge e = .ok (c', added)) :
    c'.Saveable where
  toStored := h.toStored.addEdge hadd
  labelled := by
    obtain ⟨-, ⟨id, -, -, rfl, rfl⟩ | ⟨-, rfl, rfl⟩⟩ := of_addEdge hadd
    all_goals
      rw [pushEdge, List.forall_mem_append, List.forall_mem_singleton]
      exact ⟨h.labelled, rfl⟩

theorem Saveable.addNodes (h : c.Saveable) (hadd : c.addNodes vs = .ok c') : c'.Saveable := by
  induction vs generalizing c with
  | nil => exact Except.ok.inj hadd ▸ h
  | cons v vs ih =>
    obtain ⟨n, -, hadd⟩ := exists_of_bind_eq_ok hadd
    obtain ⟨d, hd, hadd⟩ := exists_of_bind_eq_ok hadd
    exact ih (h.addNode hd) hadd

theorem Saveable.addEdges (h : c.Saveable) (hadd : c.addEdges vs = .ok c') : c'.Saveable := by
  induction vs generalizing c with
  | nil => exact Except.ok.inj hadd ▸ h
  | cons v vs ih =>
    obtain ⟨e, -, hadd⟩ := exists_of_bind_eq_ok hadd
    obtain ⟨⟨d, added⟩, hd, hadd⟩ := exists_of_bind_eq_ok hadd
    exact ih (h.addEdge hd) hadd

/-- Every chart that is loaded could be saved. -/
theorem saveable_of_ofJson (h : ofJson v = .ok c) : c.Saveable := by
  cases v with
  | object members =>
    obtain ⟨name, -, h⟩ := exists_of_bind_eq_ok h
    obtain ⟨nodes, -, h⟩ := exists_of_bind_eq_ok h
    obtain ⟨d, hd, h⟩ := exists_of_bind_eq_ok h
    obtain ⟨edges, -, h⟩ := exists_of_bind_eq_ok h
    exact ((saveable_new name _).addNodes hd).addEdges h
  | null | bool | number | string | array => cases h

/-! ## Counters that stand further back -/

/-- The chart `c'` is `c`, but its counter may stand further back. -/
def Rewound (c c' : Chart) : Prop :=
  ∃ k ≤ c.nextEdge, c' = { c with nextEdge := k }

theorem Stored.rewind (h : c.Stored) (hk : k ≤ c.nextEdge) : Stored { c with nextEdge := k } where
  nodup := h.nodup
  ends := h.ends
  distinct := h.distinct
  index := h.index
  below j hj := h.below j (Nat.lt_of_lt_of_le hj hk)

/-- The search for a free number ends at the same one from further back. -/
theorem Stored.nextNumber_rewind (h : c.Stored) (hk : k ≤ c.nextEdge) :
    ({ c with nextEdge := k } : Chart).nextNumber = c.nextNumber :=
  (h.rewind hk).isLeast_nextNumber.unique h.isLeast_nextNumber

/-- An edge is added with the counter further back as it is without. An automatic
    id brings the two counters to the same number. -/
theorem Stored.addEdge_rewind (h : c.Stored) (hk : k ≤ c.nextEdge) (e : NewEdge) :
    ({ c with nextEdge := k } : Chart).addEdge e = (c.addEdge e).map fun (d, added) =>
      ({ d with nextEdge := if e.id?.isSome then k else d.nextEdge }, added) := by
  have hnode (id : Text) : ({ c with nextEdge := k } : Chart).hasNode id = c.hasNode id := rfl
  rw [Chart.addEdge, Chart.addEdge, h.nextNumber_rewind hk, hnode, hnode]
  split
  · rfl
  · split
    · rfl
    · cases e.id? with
      | none => rfl
      | some id =>
        simp only
        split <;> rfl

end Chart

/-! ## Histories of additions -/

namespace Addition

open Chart (Rewound Stored)

variable {c c' : Chart}

theorem perform_give_node (n : Node) (c : Chart) :
    (give (.node n)).perform c =
      match c.addNode n with
      | .ok c' => (.ok (.inl n), c')
      | .error fault => (.error fault, c) := by
  rw [give, Write.perform_bind, Write.perform_node]
  cases c.addNode n <;> rfl

theorem perform_give_edge (e : NewEdge) (c : Chart) :
    (give (.edge e)).perform c =
      match c.addEdge e with
      | .ok (c', added) => (.ok (.inr added), c')
      | .error fault => (.error fault, c) := by
  rw [give, Write.perform_bind, Write.perform_edge]
  cases c.addEdge e <;> rfl

/-- What is given back makes no difference to the chart. -/
theorem perform_give_snd (a : Addition) (c : Chart) :
    (a.give.perform c).2 = (a.write.perform c).2 := by
  cases a with
  | node n =>
    rw [perform_give_node, write, Write.perform_bind, Write.perform_node]
    cases c.addNode n <;> rfl
  | edge e =>
    rw [perform_give_edge, write, Write.perform_bind, Write.perform_edge]
    cases c.addEdge e <;> rfl

/-- An addition comes to the same with the counter further back, which it leaves no
    further ahead than the other. -/
theorem give_rewound (a : Addition) (h : c.Stored) (hr : Rewound c c') :
    (a.give.perform c').1 = (a.give.perform c).1 ∧
      Rewound (a.give.perform c).2 (a.give.perform c').2 := by
  obtain ⟨k, hk, rfl⟩ := hr
  cases a with
  | node n =>
    rw [perform_give_node, perform_give_node]
    by_cases hn : n.id ∈ c.nodeIds
    · rw [Chart.addNode_of_mem hn, Chart.addNode_of_mem (c := { c with nextEdge := k }) hn]
      exact ⟨rfl, k, hk, rfl⟩
    · rw [Chart.addNode_of_not_mem hn, Chart.addNode_of_not_mem (c := { c with nextEdge := k }) hn]
      exact ⟨rfl, k, hk, rfl⟩
  | edge e =>
    rw [perform_give_edge, perform_give_edge, h.addEdge_rewind hk]
    cases hadd : c.addEdge e with
    | error fault => exact ⟨rfl, k, hk, rfl⟩
    | ok outcome =>
      obtain ⟨d, added⟩ := outcome
      refine ⟨rfl, _, ?_, rfl⟩
      -- Under a given id the counter of the chart has not moved, and without one
      -- both counters have.
      obtain ⟨-, ⟨id, hid, -, -, rfl⟩ | ⟨hid, -, rfl⟩⟩ := Chart.of_addEdge hadd
      · rw [hid]
        exact hk
      · rw [hid]
        exact Nat.le_refl _

end Addition

namespace Chart

variable {c c' : Chart}

theorem addAll_cons (c : Chart) (a : Addition) (rest : List Addition) :
    c.addAll (a :: rest) = (a.give.perform c).2.addAll rest := by
  rw [Addition.perform_give_snd]
  rfl

theorem Stored.give (h : c.Stored) (a : Addition) : (a.give.perform c).2.Stored :=
  a.perform_give_snd c ▸ h.write a

theorem Rewound.outcomes_eq (hr : Rewound c c') (h : c.Stored) (additions : List Addition) :
    c'.outcomes additions = c.outcomes additions := by
  induction additions generalizing c c' with
  | nil => rfl
  | cons a rest ih =>
    obtain ⟨hgive, hnext⟩ := a.give_rewound h hr
    rw [outcomes, outcomes, hgive, ih hnext (h.give a)]

theorem Rewound.addAll (hr : Rewound c c') (h : c.Stored) (additions : List Addition) :
    Rewound (c.addAll additions) (c'.addAll additions) := by
  induction additions generalizing c c' with
  | nil => exact hr
  | cons a rest ih =>
    rw [addAll_cons, addAll_cons]
    exact ih (a.give_rewound h hr).2 (h.give a)

/-- The counter is not saved. -/
theorem Rewound.toJson_eq (hr : Rewound c c') : c'.toJson = c.toJson := by
  obtain ⟨k, -, rfl⟩ := hr
  rfl

/-- The charts that arise from a new chart, or from one that is loaded, by
    additions, whether or not they succeed. -/
inductive Arises : Chart → Prop
  | new (name : Option Text) (metadata : Metadata) : Arises { name, metadata }
  | loaded {v : Json} {c : Chart} : ofJson v = .ok c → Arises c
  | added {c : Chart} (a : Addition) : Arises c → Arises (a.write.perform c).2

theorem Saveable.write (h : c.Saveable) (a : Addition) : (a.write.perform c).2.Saveable :=
  Addition.perform_write_snd h h.addNode h.addEdge a

theorem Arises.saveable (h : c.Arises) : c.Saveable := by
  induction h with
  | new name metadata => exact saveable_new name metadata
  | loaded h => exact saveable_of_ofJson h
  | added a _ ih => exact ih.write a

/-- A chart that arises by additions can be loaded from its payload, and nothing
    tells it from the chart that was saved: it has the same payload, every
    addition in any further history comes to the same, be it a node, an edge under
    its given or automatic id, or a fault, and in the end the payloads are the
    same again. Nor does it matter if the payload goes through a text, as long as
    the text is read as the payload. -/
theorem loaded_like_saved (h : c.Arises) :
    ∃ c', ofJson c.toJson = .ok c' ∧ c'.toJson = c.toJson ∧
      (∀ additions, c'.outcomes additions = c.outcomes additions ∧
        (c'.addAll additions).toJson = (c.addAll additions).toJson) ∧
      ∀ spread s, c.toJsonText spread = .ok s → Json.read s = .ok c.toJson →
        ofJsonText s = .ok c' := by
  have hr : Rewound c { c with nextEdge := 0 } := ⟨0, Nat.zero_le _, rfl⟩
  have hstored := h.saveable.toStored
  have hload := h.saveable.ofJson_toJson
  refine ⟨_, hload, hr.toJson_eq, fun additions => ⟨hr.outcomes_eq hstored additions,
    (hr.addAll hstored additions).toJson_eq⟩, fun spread s _ hread => ?_⟩
  rw [ofJsonText, hread]
  exact hload

/-- With the automatic id `e0` and a given `e1` the counters of the saved and of the
    loaded chart stand at different numbers, and both find `e2`. A chart without
    nodes can go through a text. -/
theorem loaded_like_saved_past_given_id :
    let loop : NewEdge := { source := ['a'], target := ['a'] }
    let c := addAll { name := none }
      [.node { id := ['a'], label := some [], x := none, y := none, width := none, height := none },
        .edge loop, .edge { loop with id? := some "e1".toList }]
    let empty : Chart := { name := some "Flow".toList }
    (c.Arises ∧ c.nextEdge = 1 ∧ ∃ c', ofJson c.toJson = .ok c' ∧ c'.nextEdge = 0 ∧
        c'.toJson = c.toJson ∧
        c'.outcomes [.edge loop] = [.ok (.inr (loop.withId "e2".toList))]) ∧
      empty.Arises ∧ ofJsonText (empty.toJson.text payloadSpread) = .ok empty := by
  intro loop c empty
  have h : c.Arises := .added _ (.added _ (.added _ (.new none .none)))
  have hempty : empty.Arises := .new _ .none
  obtain ⟨c', hload, hjson, hrun, -⟩ := loaded_like_saved h
  have hc' : c' = { c with nextEdge := 0 } :=
    Except.ok.inj (hload.symm.trans h.saveable.ofJson_toJson)
  refine ⟨⟨h, by decide +kernel, c', hload, by rw [hc'], hjson, ?_⟩, hempty, ?_⟩
  · have hnode : ['a'] ∈ c.nodeIds := by decide +kernel
    have hnumber : c.nextNumber = 2 := by decide +kernel
    rw [(hrun _).1, outcomes, Addition.perform_give_edge, addEdge_of_id?_eq_none rfl hnode hnode,
      hnumber]
    rfl
  · obtain ⟨d, hload, -, -, htext⟩ := loaded_like_saved hempty
    obtain rfl : empty = d := Except.ok.inj (hempty.saveable.ofJson_toJson.symm.trans hload)
    have hwritten : empty.toJson.text payloadSpread =
        ("\x7b\n  \"name\": \"Flow\",\n  \"metadata\": \x7b\x7d,\n  \"nodes\": [],\n" ++
          "  \"edges\": [],\n  \"graph\": \x7b\n    \"incomingEdges\": \x7b\x7d,\n" ++
          "    \"outgoingEdges\": \x7b\x7d\n  \x7d\n\x7d").toList := by
      decide +kernel
    have hread : Json.read (empty.toJson.text payloadSpread) = .ok empty.toJson := by
      rw [hwritten, Json.read, if_neg (by decide +kernel)]
      cbv
    exact htext payloadSpread _ rfl hread

end Chart

end FlowScript
