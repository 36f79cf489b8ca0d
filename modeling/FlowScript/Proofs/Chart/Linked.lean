import FlowScript.Chart.Basic
import FlowScript.Proofs.Table
import FlowScript.Proofs.Text.Basic
import FlowScript.Script.Hop

/-!
# Charts whose edges are numbered in order

An edge that is added without an id gets the next number. As long as all edges
are added so, they are determined by the links that they draw: the edge at
place `i` has the id `e<i>`, the index says so, and the counter stands at the
number of edges. `Chart.linked` is the chart with such edges for given links.

* `addEdge_linked`: one more edge is one more link;
* `edge?_linked_edgeId`, `of_edge?_linked`: the id of an edge finds it, and
  nothing else is found;
* `setEdgeLabel_linked`: a new label is a new label of the link.
-/

namespace FlowScript

/-- The link that an edge draws, between ids. -/
def Edge.link (e : Edge) : Link :=
  ⟨e.source, e.target, e.caption⟩

namespace Chart

variable {c : Chart} {id : Text} {ls : List Link} {link : Link} {i n : Nat}

/-! ## Nodes -/

theorem hasNode_iff : c.hasNode id = true ↔ id ∈ c.nodeIds := by
  simp [hasNode, node?, nodeIds]

theorem hasNode_eq_false_iff : c.hasNode id = false ↔ id ∉ c.nodeIds := by
  rw [← hasNode_iff, Bool.not_eq_true]

/-- A node with a new id comes last. -/
theorem addNode_of_not_mem {node : Node} (h : node.id ∉ c.nodeIds) :
    c.addNode node = .ok { c with nodes := c.nodes ++ [node] } := by
  rw [addNode, hasNode_eq_false_iff.2 h]
  rfl

theorem addNode_of_mem {node : Node} (h : node.id ∈ c.nodeIds) :
    c.addNode node = .error (.nodeExists node.id) := by
  rw [addNode, hasNode_iff.2 h]
  rfl

/-- Changing nodes but not their ids. -/
theorem nodeIds_modifyNode {change : Node → Node} (h : ∀ n, (change n).id = n.id) :
    (c.modifyNode id change).nodeIds = c.nodeIds := by
  rw [nodeIds, modifyNode, List.map_map]
  refine List.map_congr_left fun n _ => ?_
  simp only [Function.comp]
  split
  · exact h n
  · rfl

/-! ## Edges in order -/

theorem edgeId_injective {j : Nat} (h : edgeId i = edgeId j) : i = j :=
  Text.ofNat_injective (List.cons.inj h).2

/-- The edge with the number `i` that draws a link. -/
def edgeAt (i : Nat) (l : Link) : Edge :=
  { id := edgeId i, source := l.source, target := l.target, label := some l.label }

/-- The edges that draw links, numbered in order. -/
def edgesOf (links : List Link) : List Edge :=
  links.mapIdx edgeAt

/-- The index of `n` edges that are numbered in order. -/
def placesOf (n : Nat) : Table Nat :=
  (List.range n).map fun i => (edgeId i, i)

/-- The chart with edges that draw the links, numbered in order. -/
def linked (c : Chart) (links : List Link) : Chart :=
  { c with edges := edgesOf links, places := placesOf links.length, nextEdge := links.length }

/-- The links that the edges draw. -/
def links (c : Chart) : List Link :=
  c.edges.map Edge.link

@[simp]
theorem length_edgesOf (links : List Link) : (edgesOf links).length = links.length :=
  List.length_mapIdx

@[simp]
theorem edges_linked (c : Chart) (links : List Link) :
    (c.linked links).edges = edgesOf links := rfl

@[simp]
theorem links_linked (c : Chart) (links : List Link) : (c.linked links).links = links := by
  rw [Chart.links, edges_linked, edgesOf]
  refine List.ext_getElem (by simp) fun i h₁ h₂ => ?_
  simp [edgeAt, Edge.link, Edge.caption]

/-- The link of an edge says all that there is to the edge. -/
theorem exists_of_mem_edgesOf {e : Edge} (h : e ∈ edgesOf ls) :
    ∃ l ∈ ls, e.source = l.source ∧ e.target = l.target ∧ e.label = some l.label := by
  obtain ⟨i, hi, rfl⟩ := List.mem_mapIdx.1 h
  exact ⟨ls[i], List.getElem_mem hi, rfl, rfl, rfl⟩

theorem edgesOf_append_singleton (links : List Link) (link : Link) :
    edgesOf (links ++ [link]) = edgesOf links ++ [edgeAt links.length link] := by
  simp [edgesOf, List.mapIdx_append]

/-! ## The index -/

theorem keys_placesOf (n : Nat) : Table.keys (placesOf n) = (List.range n).map edgeId := by
  rw [Table.keys, placesOf, List.map_map]
  rfl

theorem nodup_keys_placesOf (n : Nat) : (Table.keys (placesOf n)).Nodup := by
  rw [keys_placesOf]
  exact List.Pairwise.map _ (fun _ _ hne heq => hne (edgeId_injective heq)) List.nodup_range

/-- The index finds the numbers below `n`. -/
theorem get?_placesOf : Table.get? (placesOf n) id = some i ↔ i < n ∧ id = edgeId i := by
  rw [Table.get?_eq_some_iff (nodup_keys_placesOf n), placesOf]
  simp only [List.mem_map, List.mem_range, Prod.mk.injEq]
  constructor
  · rintro ⟨j, hj, rfl, rfl⟩
    exact ⟨hj, rfl⟩
  · rintro ⟨hi, rfl⟩
    exact ⟨i, hi, rfl, rfl⟩

theorem edgeId_not_mem_keys_placesOf : edgeId n ∉ Table.keys (placesOf n) := by
  rw [keys_placesOf, List.mem_map]
  rintro ⟨i, hi, heq⟩
  rw [edgeId_injective heq] at hi
  exact Nat.lt_irrefl n (List.mem_range.1 hi)

theorem placesOf_succ (n : Nat) : placesOf (n + 1) = Table.put (placesOf n) (edgeId n) n := by
  rw [Table.put_of_not_mem edgeId_not_mem_keys_placesOf, placesOf, List.range_succ, List.map_append]
  rfl

/-- The next automatic number is the number of edges. -/
theorem nextNumber_linked (c : Chart) (links : List Link) :
    (c.linked links).nextNumber = links.length := by
  have hfree : Table.contains (placesOf links.length) (edgeId links.length) = false :=
    Bool.eq_false_iff.2 fun h => edgeId_not_mem_keys_placesOf (Table.contains_iff.1 h)
  rw [nextNumber, freeNumber]
  simp only [linked, hfree]
  rfl

/-! ## Operations -/

/-- One more edge is one more link. -/
theorem addEdge_linked (ls : List Link) (link : Link) (hs : link.source ∈ c.nodeIds)
    (ht : link.target ∈ c.nodeIds) :
    (c.linked ls).addEdge { source := link.source, target := link.target, label := link.label } =
      .ok (c.linked (ls ++ [link]), edgeAt ls.length link) := by
  have hs : (c.linked ls).hasNode link.source = true := hasNode_iff.2 hs
  have ht : (c.linked ls).hasNode link.target = true := hasNode_iff.2 ht
  rw [addEdge, hs, ht]
  simp only [Bool.not_true, Bool.false_eq_true, if_false, nextNumber_linked]
  congr 2
  rw [pushEdge, linked, linked, edgesOf_append_singleton, List.length_append, List.length_singleton,
    placesOf_succ]
  simp only [length_edgesOf]
  rfl

/-- An edge that lacks an end is not added. -/
theorem addEdge_of_not_mem {e : NewEdge} (h : ¬(e.source ∈ c.nodeIds ∧ e.target ∈ c.nodeIds)) :
    ∃ fault, c.addEdge e = .error fault := by
  rw [addEdge]
  by_cases hs : e.source ∈ c.nodeIds
  · have ht : e.target ∉ c.nodeIds := fun ht => h ⟨hs, ht⟩
    rw [hasNode_iff.2 hs, hasNode_eq_false_iff.2 ht]
    exact ⟨_, rfl⟩
  · rw [hasNode_eq_false_iff.2 hs]
    exact ⟨_, rfl⟩

/-- The id of an edge finds it. -/
theorem edge?_linked_edgeId (hi : i < ls.length) :
    (c.linked ls).edge? (edgeId i) = some (edgeAt i ls[i]) := by
  have hget : Table.get? (placesOf ls.length) (edgeId i) = some i := get?_placesOf.2 ⟨hi, rfl⟩
  simp [edge?, linked, hget, edgesOf, hi]

/-- What a look-up finds is an edge of the chart. -/
theorem of_edge?_linked {e : Edge} (h : (c.linked ls).edge? id = some e) :
    ∃ i, ∃ hi : i < ls.length, id = edgeId i ∧ e = edgeAt i ls[i] := by
  simp only [edge?, linked, bind, Option.bind_eq_some_iff] at h
  obtain ⟨i, hget, he⟩ := h
  obtain ⟨hi, rfl⟩ := get?_placesOf.1 hget
  refine ⟨i, hi, rfl, ?_⟩
  simpa [edgesOf, hi, eq_comm] using he

/-- A new label of an edge is a new label of its link. -/
theorem setEdgeLabel_linked (hi : i < ls.length) (label : Text) :
    (c.linked ls).setEdgeLabel (edgeId i) (some label) =
      c.linked (ls.modify i fun l => { l with label := label }) := by
  have hget : Table.get? (c.linked ls).places (edgeId i) = some i := get?_placesOf.2 ⟨hi, rfl⟩
  have hedges : (edgesOf ls).modify i (fun e => { e with label := some label }) =
      edgesOf (ls.modify i fun l => { l with label := label }) := by
    -- Edge by edge: only the one with the number `i` has another label.
    refine List.ext_getElem? fun j => ?_
    rw [List.getElem?_modify, edgesOf, edgesOf, List.getElem?_mapIdx, List.getElem?_mapIdx,
      List.getElem?_modify]
    by_cases hj : i = j
    · subst hj
      simp [hi, edgeAt]
    · simp [hj]
  simp only [setEdgeLabel, hget, modifyEdgeAt, edges_linked, hedges]
  simp only [linked, List.length_modify]

end Chart

end FlowScript
