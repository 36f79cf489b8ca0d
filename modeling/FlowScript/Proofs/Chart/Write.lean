import FlowScript.Chart.Write
import FlowScript.Proofs.Chart.Stored

/-!
# Additions are done in full or not at all

Followed write by write, adding a node or an edge to a chart comes to one of
two things: the chart that `Chart.addNode` or `Chart.addEdge` gives, or a fault
and the chart as it was (`perform_node`, `perform_edge`). So a history of
additions, some of which fail, keeps a chart stored well (`Stored.addAll`).

Main statement: what this says of a chart that was new once
(`stored_addAll_new`).
-/

namespace FlowScript

variable {α β : Type} {c c' : Chart} {fault : Fault}

namespace Write

/-! ## Programs -/

/-- A program goes on where the one before has left the chart, or ends with its
    fault. -/
theorem perform_bind (w : Write α) (f : α → Write β) (c : Chart) :
    (w >>= f).perform c =
      match w.perform c with
      | (.ok a, c) => (f a).perform c
      | (.error fault, c) => (.error fault, c) := by
  simp only [perform, ExceptT.run_bind, StateT.run_bind, Id.run_bind]
  generalize (ExceptT.run w).run c = outcome
  obtain ⟨result, c⟩ := outcome
  cases result <;> rfl

@[simp]
theorem perform_pure (a : α) (c : Chart) : (pure a : Write α).perform c = (.ok a, c) := rfl

@[simp]
theorem perform_throw (fault : Fault) (c : Chart) :
    (throw fault : Write α).perform c = (.error fault, c) := rfl

@[simp]
theorem perform_get (c : Chart) : (get : Write Chart).perform c = (.ok c, c) := rfl

@[simp]
theorem perform_set (c c' : Chart) : (set c' : Write PUnit).perform c = (.ok ⟨⟩, c') := rfl

@[simp]
theorem perform_modify (f : Chart → Chart) (c : Chart) :
    (modify f : Write PUnit).perform c = (.ok ⟨⟩, f c) := rfl

/-! ## Ids -/

/-- The counter is left at the number where the search ends. -/
theorem perform_skipTaken (steps : Nat) (c : Chart) : (skipTaken steps).perform c =
    (.ok (), { c with nextEdge := Chart.freeNumber c.places steps c.nextEdge }) := by
  induction steps generalizing c with
  | zero => rfl
  | succ steps ih =>
    rw [skipTaken, perform_bind, perform_get]
    simp only [Chart.freeNumber]
    split
    · rw [perform_bind, perform_set]
      exact ih _
    · rfl

theorem perform_automaticId (c : Chart) : automaticId.perform c =
    (.ok (edgeId c.nextNumber), { c with nextEdge := c.nextNumber + 1 }) := by
  simp only [automaticId, perform_bind, perform_get, perform_skipTaken, perform_modify,
    perform_pure]
  rfl

theorem perform_givenId (id : Text) (c : Chart) : (givenId id).perform c =
    (if Table.contains c.places id then .error (.edgeExists id) else .ok id, c) := by
  simp only [givenId, perform_bind, perform_get]
  split <;> rfl

/-! ## Nodes and edges -/

/-- A node is added, or the chart stays as it is. -/
theorem perform_node (n : Node) (c : Chart) :
    (node n).perform c =
      match c.addNode n with
      | .ok c' => (.ok n, c')
      | .error fault => (.error fault, c) := by
  rw [node, perform_bind, perform_get, Chart.addNode]
  by_cases h : c.hasNode n.id = true
  · simp only [if_pos h]
    rfl
  · simp only [if_neg h]
    rfl

/-- An edge is added, to the list and to the index, or the chart stays as it
    is. -/
theorem perform_edge (e : NewEdge) (c : Chart) :
    (edge e).perform c =
      match c.addEdge e with
      | .ok (c', added) => (.ok added, c')
      | .error fault => (.error fault, c) := by
  rw [edge, perform_bind, perform_get, Chart.addEdge]
  by_cases hs : c.hasNode e.source = true
  · by_cases ht : c.hasNode e.target = true
    · simp only [hs, ht, Bool.not_true, Bool.false_eq_true, if_false, perform_bind, perform_get]
      cases e.id? with
      | none =>
        simp only [perform_bind, perform_automaticId, perform_get, perform_modify]
        rfl
      | some id =>
        by_cases htaken : Table.contains c.places id = true
        · simp only [perform_bind, perform_givenId, if_pos htaken]
        · simp only [perform_bind, perform_givenId, if_neg htaken, perform_get, perform_modify]
          rfl
    · simp [hs, ht, perform_bind]
  · simp [hs]

end Write

namespace Addition

variable {a : Addition}

/-- An addition that fails leaves the chart as it was. -/
theorem perform_of_error (h : (a.write.perform c).1 = .error fault) :
    (a.write.perform c).2 = c := by
  cases a with
  | node n =>
    rw [write, Write.perform_bind, Write.perform_node] at h ⊢
    cases hadd : c.addNode n with
    | error _ => rfl
    | ok c' =>
      rw [hadd] at h
      cases h
  | edge e =>
    rw [write, Write.perform_bind, Write.perform_edge] at h ⊢
    cases hadd : c.addEdge e with
    | error _ => rfl
    | ok outcome =>
      rw [hadd] at h
      cases h

/-- What holds of a chart, and still holds once a node or an edge has been added,
    holds after any addition. -/
theorem perform_write_snd {P : Chart → Prop} (h : P c)
    (hnode : ∀ {n c'}, c.addNode n = .ok c' → P c')
    (hedge : ∀ {e c' added}, c.addEdge e = .ok (c', added) → P c') (a : Addition) :
    P (a.write.perform c).2 := by
  cases a with
  | node n =>
    rw [write, Write.perform_bind, Write.perform_node]
    cases hadd : c.addNode n with
    | error _ => exact h
    | ok c' => exact hnode hadd
  | edge e =>
    rw [write, Write.perform_bind, Write.perform_edge]
    cases hadd : c.addEdge e with
    | error _ => exact h
    | ok outcome => exact hedge hadd

end Addition

namespace Chart

/-! ## Histories -/

theorem Stored.write (h : c.Stored) (a : Addition) : (a.write.perform c).2.Stored :=
  Addition.perform_write_snd h h.addNode h.addEdge a

theorem Stored.addAll (h : c.Stored) (additions : List Addition) :
    (c.addAll additions).Stored := by
  induction additions generalizing c with
  | nil => exact h
  | cons a rest ih => exact ih (h.write a)

/-- After any history of additions to a new chart its nodes and edges have
    distinct ids, edges join nodes, and a look-up finds just the edge of the
    id. A further addition that fails changes nothing, and an edge without an id
    gets the least number whose id no edge has: the search for it ends there,
    however many steps beyond the number of edges it may take. -/
theorem stored_addAll_new (name : Option Text) (metadata : Metadata)
    (additions : List Addition) :
    let c := addAll { name, metadata } additions
    c.nodeIds.Nodup ∧ (∀ e ∈ c.edges, e.source ∈ c.nodeIds ∧ e.target ∈ c.nodeIds) ∧
      c.edgeIds.Nodup ∧ (∀ id e, c.edge? id = some e ↔ e ∈ c.edges ∧ e.id = id) ∧
      (∀ (a : Addition) (fault : Fault),
        (a.write.perform c).1 = .error fault → (a.write.perform c).2 = c) ∧
      ∃ k, IsLeast {k | edgeId k ∉ c.edgeIds} k ∧
        (∀ steps > c.edges.length,
          (Write.skipTaken steps).perform c = (.ok (), { c with nextEdge := k })) ∧
        ∀ e : NewEdge, e.id? = none → e.source ∈ c.nodeIds → e.target ∈ c.nodeIds →
          (Write.edge e).perform c = (.ok (e.withId (edgeId k)),
            { c with nextEdge := k + 1 }.pushEdge (e.withId (edgeId k))) := by
  intro c
  have h : c.Stored := (stored_new name metadata).addAll additions
  refine ⟨h.nodup, h.ends, h.distinct, fun id e => h.edge?_eq_some_iff,
    fun a fault => Addition.perform_of_error, c.nextNumber, h.isLeast_nextNumber, ?_, ?_⟩
  · intro steps hsteps
    -- Both searches end at the least free number, and there is only one.
    rw [Write.perform_skipTaken, (h.isLeast_freeNumber hsteps).unique h.isLeast_nextNumber]
  · intro e hid hs ht
    rw [Write.perform_edge, addEdge_of_id?_eq_none hid hs ht]

/-- An edge without an id passes over the ids that were given, and an edge that
    was refused has left no trace. -/
theorem stored_addAll_new_with_given_id :
    let additions : List Addition := [.node { id := ['a'], label := some [] },
      .edge { id? := some "e0".toList, source := ['a'], target := ['a'] },
      .edge { id? := some "e1".toList, source := ['a'], target := ['b'] }]
    let c := addAll { name := none, metadata := .none } additions
    c.edgeIds = ["e0".toList] ∧ c.edge? "e1".toList = none ∧
      ((Write.edge { source := ['a'], target := ['a'] }).perform c).2.edgeIds =
        ["e0".toList, "e1".toList] := by
  intro additions c
  obtain ⟨-, -, -, -, -, k, hk, -, hedge⟩ := stored_addAll_new none .none additions
  have hids : c.edgeIds = ["e0".toList] := by decide +kernel
  have hleast : IsLeast {k | edgeId k ∉ c.edgeIds} 1 := by
    rw [hids]
    refine ⟨by decide +kernel, fun j hj => ?_⟩
    rcases Nat.eq_zero_or_pos j with rfl | hpos
    · exact absurd hj (by decide +kernel)
    · exact hpos
  obtain rfl : k = 1 := hk.unique hleast
  refine ⟨hids, by decide +kernel, ?_⟩
  rw [hedge { source := ['a'], target := ['a'] } rfl (by decide +kernel) (by decide +kernel)]
  decide +kernel

end Chart

end FlowScript
