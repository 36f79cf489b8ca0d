import FlowScript.Proofs.Chart.Linked
import Mathlib.Data.List.Nodup
import Mathlib.Order.Bounds.Basic

/-!
# What holds of a chart that is added to

A chart is *stored* well when its nodes and edges have distinct ids, its edges
join nodes, the index tells the place of each edge in the list and of nothing
else, and every number below the counter is taken. Adding nodes and edges keeps
it so (`Stored.addNode`, `Stored.addEdge`).

* `isLeast_freeNumber`: the search for an automatic id ends at the least number
  whose id is not taken;
* `Stored.edge?_eq_some_iff`: the look-up finds just the edges of the chart.
-/

namespace FlowScript.Chart

open Table (keys)

variable {c c' : Chart} {t : Table Nat} {id : Text} {e : NewEdge} {added : Edge} {n : Node}
  {i k steps : Nat}

/-! ## The search for a free number -/

/-- The search goes over taken numbers only, and ends at one only if it has run
    out of steps. -/
theorem freeNumber_spec (t : Table Nat) (steps k : Nat) :
    (∀ j, k ≤ j → j < freeNumber t steps k → edgeId j ∈ keys t) ∧
      (edgeId (freeNumber t steps k) ∈ keys t → freeNumber t steps k = k + steps) := by
  induction steps generalizing k with
  | zero => exact ⟨fun j hj hlt => absurd hlt (Nat.not_lt.2 hj), fun _ => rfl⟩
  | succ steps ih =>
    rw [freeNumber]
    split
    · next htaken =>
      obtain ⟨hpassed, hend⟩ := ih (k + 1)
      refine ⟨fun j hj hlt => ?_, fun hmem => ?_⟩
      · rcases Nat.eq_or_lt_of_le hj with rfl | hj
        · exact Table.contains_iff.1 htaken
        · exact hpassed j hj hlt
      · rw [hend hmem]
        omega
    · next hfree =>
      exact ⟨fun j hj hlt => absurd hlt (Nat.not_lt.2 hj),
        fun hmem => absurd (Table.contains_iff.2 hmem) hfree⟩

/-- With more steps than there are ids the search ends at a free number. -/
theorem edgeId_freeNumber_not_mem (hsteps : t.length < steps) (k : Nat) :
    edgeId (freeNumber t steps k) ∉ keys t := by
  intro hmem
  obtain ⟨hpassed, hend⟩ := freeNumber_spec t steps k
  rw [hend hmem] at hpassed
  -- Otherwise the ids of as many numbers as there were steps would be taken.
  have hsub : (List.range' k steps).map edgeId ⊆ keys t := fun id hid => by
    obtain ⟨j, hj, rfl⟩ := List.mem_map.1 hid
    rw [List.mem_range'_1] at hj
    exact hpassed j hj.1 hj.2
  have hnodup : ((List.range' k steps).map edgeId).Nodup :=
    (List.nodup_range' 1).map fun _ _ => edgeId_injective
  have hlen := hnodup.length_le_of_subset hsub
  rw [List.length_map, List.length_range', keys, List.length_map] at hlen
  exact Nat.not_lt.2 hlen hsteps

/-- If all numbers below `k` are taken, the search from `k` on ends at the least
    number that is not. -/
theorem isLeast_freeNumber (hsteps : t.length < steps) (hbelow : ∀ j < k, edgeId j ∈ keys t) :
    IsLeast {j | edgeId j ∉ keys t} (freeNumber t steps k) := by
  refine ⟨edgeId_freeNumber_not_mem hsteps k, fun j hj => Nat.not_lt.1 fun hlt => hj ?_⟩
  rcases Nat.lt_or_ge j k with hk | hk
  · exact hbelow j hk
  · exact (freeNumber_spec t steps k).1 j hk hlt

/-! ## Stored charts -/

/-- The index of a list of edges: the place of each by its id. -/
def indexOf (edges : List Edge) : Table Nat :=
  edges.mapIdx fun i e => (e.id, i)

/-- The parts of a chart fit together. -/
structure Stored (c : Chart) : Prop where
  /-- No two nodes have the same id. -/
  nodup : c.nodeIds.Nodup
  /-- Edges join nodes. -/
  ends : ∀ e ∈ c.edges, e.source ∈ c.nodeIds ∧ e.target ∈ c.nodeIds
  /-- No two edges have the same id. -/
  distinct : c.edgeIds.Nodup
  /-- The index has the place of each edge. -/
  index : c.places = indexOf c.edges
  /-- The ids of the numbers below the counter are taken. -/
  below : ∀ k < c.nextEdge, edgeId k ∈ c.edgeIds

theorem stored_new (name : Option Text) (metadata : Metadata) : Stored { name, metadata } where
  nodup := List.nodup_nil
  ends _ h := absurd h List.not_mem_nil
  distinct := List.nodup_nil
  index := rfl
  below _ h := absurd h (Nat.not_lt_zero _)

theorem keys_indexOf (edges : List Edge) : keys (indexOf edges) = edges.map Edge.id := by
  refine List.ext_getElem (by simp [keys, indexOf]) fun i h₁ h₂ => ?_
  simp [keys, indexOf]

theorem indexOf_append_singleton (edges : List Edge) (e : Edge) :
    indexOf (edges ++ [e]) = indexOf edges ++ [(e.id, edges.length)] := by
  simp [indexOf, List.mapIdx_append]

theorem Stored.keys_places (h : c.Stored) : keys c.places = c.edgeIds := by
  rw [h.index, keys_indexOf, edgeIds]

theorem Stored.length_places (h : c.Stored) : c.places.length = c.edges.length := by
  rw [h.index, indexOf, List.length_mapIdx]

theorem Stored.contains_places_iff (h : c.Stored) :
    Table.contains c.places id = true ↔ id ∈ c.edgeIds := by
  rw [Table.contains_iff, h.keys_places]

/-- The index finds the places of the edges. -/
theorem Stored.get?_places (h : c.Stored) :
    Table.get? c.places id = some i ↔ ∃ e, c.edges[i]? = some e ∧ e.id = id := by
  have hnodup : (keys c.places).Nodup := h.keys_places ▸ h.distinct
  rw [Table.get?_eq_some_iff hnodup, h.index, indexOf, List.mem_iff_getElem?]
  constructor
  · rintro ⟨j, hj⟩
    rw [List.getElem?_mapIdx, Option.map_eq_some_iff] at hj
    obtain ⟨e, he, heq⟩ := hj
    obtain ⟨rfl, rfl⟩ := Prod.mk.inj heq
    exact ⟨e, he, rfl⟩
  · rintro ⟨e, he, rfl⟩
    exact ⟨i, by rw [List.getElem?_mapIdx, he, Option.map_some]⟩

/-- A look-up finds an edge iff it is in the chart and has the id. -/
theorem Stored.edge?_eq_some_iff (h : c.Stored) {edge : Edge} :
    c.edge? id = some edge ↔ edge ∈ c.edges ∧ edge.id = id := by
  rw [edge?, Option.bind_eq_bind, Option.bind_eq_some_iff]
  constructor
  · rintro ⟨i, hi, hedge⟩
    obtain ⟨e, he, rfl⟩ := h.get?_places.1 hi
    obtain rfl : e = edge := Option.some.inj (he.symm.trans hedge)
    exact ⟨List.mem_of_getElem? hedge, rfl⟩
  · rintro ⟨hmem, rfl⟩
    obtain ⟨i, hi⟩ := List.mem_iff_getElem?.1 hmem
    exact ⟨i, h.get?_places.2 ⟨edge, hi, rfl⟩, hi⟩

/-- The next automatic id has the least number whose id no edge has. -/
theorem Stored.isLeast_freeNumber (h : c.Stored) (hsteps : c.edges.length < steps) :
    IsLeast {k | edgeId k ∉ c.edgeIds} (freeNumber c.places steps c.nextEdge) := by
  rw [← h.keys_places]
  refine Chart.isLeast_freeNumber ?_ fun k hk => ?_
  · rwa [h.length_places]
  · rw [h.keys_places]
    exact h.below k hk

theorem Stored.isLeast_nextNumber (h : c.Stored) :
    IsLeast {k | edgeId k ∉ c.edgeIds} c.nextNumber :=
  h.isLeast_freeNumber (h.length_places ▸ Nat.lt_succ_self _)

/-! ## Adding -/

theorem of_addNode (h : c.addNode n = .ok c') :
    n.id ∉ c.nodeIds ∧ c' = { c with nodes := c.nodes ++ [n] } := by
  by_cases hn : n.id ∈ c.nodeIds
  · rw [addNode_of_mem hn] at h
    cases h
  · rw [addNode_of_not_mem hn] at h
    exact ⟨hn, (Except.ok.inj h).symm⟩

/-- An edge is added with an id that is given and not taken, or with the next
    automatic one. -/
theorem of_addEdge (h : c.addEdge e = .ok (c', added)) :
    (e.source ∈ c.nodeIds ∧ e.target ∈ c.nodeIds) ∧
      ((∃ id, e.id? = some id ∧ Table.contains c.places id = false ∧ added = e.withId id ∧
          c' = c.pushEdge added) ∨
        (e.id? = none ∧ added = e.withId (edgeId c.nextNumber) ∧
          c' = { c with nextEdge := c.nextNumber + 1 }.pushEdge added)) := by
  rw [addEdge] at h
  by_cases hs : c.hasNode e.source = true
  · by_cases ht : c.hasNode e.target = true
    · simp only [hs, ht, Bool.not_true, Bool.false_eq_true, if_false] at h
      refine ⟨⟨hasNode_iff.1 hs, hasNode_iff.1 ht⟩, ?_⟩
      cases hid : e.id? with
      | none =>
        rw [hid] at h
        obtain ⟨rfl, rfl⟩ := Prod.mk.inj (Except.ok.inj h)
        exact .inr ⟨rfl, rfl, rfl⟩
      | some id =>
        rw [hid] at h
        simp only at h
        split at h
        · cases h
        · next hfree =>
          obtain ⟨rfl, rfl⟩ := Prod.mk.inj (Except.ok.inj h)
          exact .inl ⟨id, rfl, Bool.eq_false_iff.2 hfree, rfl, rfl⟩
    · simp [hs, ht] at h
  · simp [hs] at h

/-- An edge between nodes is added under the id that it is given, if that is not
    taken. -/
theorem addEdge_of_id?_eq_some (hid : e.id? = some id) (hs : e.source ∈ c.nodeIds)
    (ht : e.target ∈ c.nodeIds) (hfree : Table.contains c.places id = false) :
    c.addEdge e = .ok (c.pushEdge (e.withId id), e.withId id) := by
  rw [addEdge, hasNode_iff.2 hs, hasNode_iff.2 ht, hid]
  simp only [hfree]
  rfl

/-- Without an id an edge between nodes gets the next automatic one. -/
theorem addEdge_of_id?_eq_none (hid : e.id? = none) (hs : e.source ∈ c.nodeIds)
    (ht : e.target ∈ c.nodeIds) :
    c.addEdge e = .ok ({ c with nextEdge := c.nextNumber + 1 }.pushEdge
      (e.withId (edgeId c.nextNumber)), e.withId (edgeId c.nextNumber)) := by
  rw [addEdge, hasNode_iff.2 hs, hasNode_iff.2 ht, hid]
  rfl

theorem Stored.addNode (h : c.Stored) (hadd : c.addNode n = .ok c') : c'.Stored := by
  obtain ⟨hn, rfl⟩ := of_addNode hadd
  have hids : (c.nodes ++ [n]).map Node.id = c.nodeIds ++ [n.id] := List.map_append
  refine ⟨?_, fun e he => ?_, h.distinct, h.index, h.below⟩
  · rw [nodeIds, hids, ← List.concat_eq_append]
    exact h.nodup.concat hn
  · rw [nodeIds, hids]
    exact (h.ends e he).imp (List.mem_append_left _) (List.mem_append_left _)

/-- A new edge between nodes with a new id, and a counter below which all is
    taken. -/
theorem Stored.pushEdge (h : c.Stored) {edge : Edge} (hid : edge.id ∉ c.edgeIds)
    (hends : edge.source ∈ c.nodeIds ∧ edge.target ∈ c.nodeIds)
    (hbelow : ∀ j < k, edgeId j ∈ c.edgeIds ++ [edge.id]) :
    ({ c with nextEdge := k }.pushEdge edge).Stored := by
  have hids : (c.edges ++ [edge]).map Edge.id = c.edgeIds ++ [edge.id] := List.map_append
  refine ⟨h.nodup, ?_, ?_, ?_, ?_⟩
  · rw [Chart.pushEdge, List.forall_mem_append, List.forall_mem_singleton]
    exact ⟨h.ends, hends⟩
  · rw [edgeIds, Chart.pushEdge, hids, ← List.concat_eq_append]
    exact h.distinct.concat hid
  · rw [← h.keys_places] at hid
    rw [Chart.pushEdge, indexOf_append_singleton, ← h.index]
    exact Table.put_of_not_mem hid
  · rw [edgeIds, Chart.pushEdge, hids]
    exact hbelow

theorem Stored.addEdge (h : c.Stored) (hadd : c.addEdge e = .ok (c', added)) : c'.Stored := by
  obtain ⟨hends, ⟨id, -, hfree, rfl, rfl⟩ | ⟨-, rfl, rfl⟩⟩ := of_addEdge hadd
  · have hid : id ∉ c.edgeIds := fun hmem => by
      rw [h.contains_places_iff.2 hmem] at hfree
      cases hfree
    exact h.pushEdge hid hends fun j hj => List.mem_append_left _ (h.below j hj)
  · -- The number of the new id is taken from now on, as are all below it.
    refine h.pushEdge h.isLeast_nextNumber.1 hends fun j hj => ?_
    rcases Nat.eq_or_lt_of_le (Nat.le_of_lt_succ hj) with rfl | hlt
    · exact List.mem_append_right _ List.mem_cons_self
    · refine List.mem_append_left _ (Classical.not_not.1 fun hfree => ?_)
      exact Nat.not_le.2 hlt (h.isLeast_nextNumber.2 hfree)

end FlowScript.Chart
