import FlowScript.Proofs.Document.Reached

/-!
# The next number

In a numbered chart a new node gets the number after the greatest one. Tokens are
digits of any script and may start with zeros, so it is their values that are
compared, and the id of the new node is new because its value is.

Reading a token and writing the next number fail beyond `Json.digitLimit` digits.
All that happens before anything is written, so the document is then left as it
was; otherwise nothing is in the way of the node (`addNode_numbered`).
-/

namespace FlowScript

/-- The greatest number of a node, or zero if there are no nodes. -/
def Chart.greatestNumber (c : Chart) : Nat :=
  ((c.nodeIds.map fun id => Text.numeralValue (Ident.token id)).max?).getD 0

/-- The token of the next node. -/
def Chart.followingToken (c : Chart) : Text :=
  Text.ofNat (c.greatestNumber + 1)

namespace Document

variable {d : Document} {ids : List Text} {label : Text}

/-! ## Numbers with too many digits -/

/-- What keeps a chart from having a next number, and the fault that says so. -/
inductive Overlong (c : Chart) : Fault → Prop where
  /-- A token is too long to be read. -/
  | token {id : Text} : id ∈ c.nodeIds → Json.digitLimit < (Ident.token id).length →
      Overlong c (.longNumeral (Ident.token id).length)
  /-- The next number is too long to be written. -/
  | next : Json.digitLimit < c.followingToken.length → Overlong c .longNumber

theorem greatestToken_eq_ok (h : ∀ id ∈ ids, ¬Json.digitLimit < (Ident.token id).length) :
    greatestToken ids =
      .ok ((ids.map fun id => Text.numeralValue (Ident.token id)).max?.getD 0) := by
  induction ids with
  | nil => rfl
  | cons id rest ih =>
    rw [List.forall_mem_cons] at h
    rw [greatestToken, if_neg h.1, ih h.2, List.map_cons, List.max?_cons]
    cases (rest.map fun id => Text.numeralValue (Ident.token id)).max? with
    | none => exact congrArg Except.ok (Nat.max_eq_left (Nat.zero_le _))
    | some greatest => rfl

theorem greatestToken_eq_error (h : ¬∀ id ∈ ids, ¬Json.digitLimit < (Ident.token id).length) :
    ∃ id ∈ ids, Json.digitLimit < (Ident.token id).length ∧
      greatestToken ids = .error (.longNumeral (Ident.token id).length) := by
  induction ids with
  | nil => exact absurd (fun _ hid => absurd hid List.not_mem_nil) h
  | cons id rest ih =>
    rw [greatestToken]
    by_cases hid : Json.digitLimit < (Ident.token id).length
    · exact ⟨id, List.mem_cons_self, hid, if_pos hid⟩
    · -- The first token is fine, so a later one is too long.
      rw [List.forall_mem_cons, not_and] at h
      obtain ⟨other, hmem, hlong, heq⟩ := ih (h hid)
      refine ⟨other, List.mem_cons_of_mem _ hmem, hlong, ?_⟩
      rw [if_neg hid, heq]
      rfl

/-- There is a next number unless one is too long. -/
theorem nextToken_cases (c : Chart) : (∃ fault, Overlong c fault ∧ nextToken c = .error fault) ∨
    ((∀ fault, ¬Overlong c fault) ∧ nextToken c = .ok c.followingToken) := by
  rw [nextToken]
  by_cases htokens : ∀ id ∈ c.nodeIds, ¬Json.digitLimit < (Ident.token id).length
  · rw [greatestToken_eq_ok htokens, ← Chart.greatestNumber]
    by_cases hnext : Json.digitLimit < c.followingToken.length
    · exact .inl ⟨_, .next hnext, if_pos hnext⟩
    · refine .inr ⟨fun fault h => ?_, if_neg hnext⟩
      cases h with
      | token hid hlong => exact htokens _ hid hlong
      | next hlong => exact hnext hlong
  · obtain ⟨id, hid, hlong, heq⟩ := greatestToken_eq_error htokens
    exact .inl ⟨_, .token hid hlong, by rw [heq]; rfl⟩

/-! ## The new node -/

/-- On the default grid a node with a new id gets a cell. -/
theorem append_default (hgrid : d.grid = {}) (hlen : d.chart.nodes.length < sizeLimit) {n : Node}
    (hfresh : n.id ∉ d.chart.nodeIds) : ∃ m : Node, m.unplaced = n.unplaced ∧ d.append n =
      ({ d with chart := { d.chart with nodes := d.chart.nodes ++ [m] } }, .ok m) := by
  have hcount : d.chart.nodes.length + 1 < 2 ^ 65 := by
    rw [sizeLimit] at hlen
    omega
  obtain ⟨p, hcell⟩ := Grid.cell_default_eq_ok hcount (by decide) (Nat.lt_succ_self _)
  obtain ⟨m, hm⟩ := Grid.place_isOk_iff (n := n).2 ⟨p, hcell⟩
  refine ⟨m, Grid.unplaced_place hm, append_of_place hfresh ?_⟩
  rwa [hgrid]

/-- In a numbered chart of a document on the default grid, adding a node fails and
    changes nothing if a number is too long. Otherwise there is one node more, last in
    chart and registry, which has the next number and the given label, and all else
    stays as it is. The chart never rejects the node. -/
theorem addNode_numbered (name : Option Text) (actions : List Action)
    (hactions : ∀ a ∈ actions, a.Fits) (label : Text) :
    let d := (new name {}).run actions
    let id := Ident.numbered d.chart.followingToken
    d.chart.form = .numbered → d.chart.nodes.length < sizeLimit →
      (∃ fault, Overlong d.chart fault ∧ d.addNode label = (d, .error fault)) ∨
      ((∀ fault, ¬Overlong d.chart fault) ∧
        id ∉ d.chart.nodeIds ∧ id ∉ Table.keys d.registry.labels ∧
        (∃ c, d.chart.addNode { id, label := some label } = .ok c) ∧
        ∃ (n : Node) (r : Registry), n.unplaced = { id, label := some label } ∧
          r.labels = d.registry.labels ++ [(id, label)] ∧
          (∀ l, r.idFor? l = if l = label then some id else d.registry.idFor? l) ∧
          d.addNode label = ({ d with
            chart := { d.chart with nodes := d.chart.nodes ++ [n] }
            registry := r }, .ok n) ∧
          (d.addNode label).1.chart.form = .numbered) := by
  intro d id hform hlen
  have hsound : d.Sound := (sound_new name {}).run rfl hactions
  have hgrid : d.grid = {} := (tidy_new name {}).grid_run actions
  rcases nextToken_cases d.chart with ⟨fault, hlong, htoken⟩ | ⟨hshort, htoken⟩
  · refine .inl ⟨fault, hlong, ?_⟩
    rw [addNode, hform]
    simp only [htoken]
  · obtain ⟨hnum, hfresh⟩ := of_nextToken htoken
    have hnew : id ∉ Table.keys d.registry.labels := hsound.keys ▸ hfresh
    -- The registry is written first, which is no concern of the chart and its grid.
    obtain ⟨n, hn, happend⟩ := append_default
      (d := { d with registry := d.registry.assign id label }) hgrid hlen
      (n := { id, label := some label }) hfresh
    have hadd : d.addNode label = ({ d with
        chart := { d.chart with nodes := d.chart.nodes ++ [n] }
        registry := d.registry.assign id label }, .ok n) := by
      rw [addNode, hform]
      simp only [htoken]
      exact happend
    refine .inr ⟨hshort, hfresh, hnew, ⟨_, Chart.addNode_of_not_mem hfresh⟩, n,
      d.registry.assign id label, hn, ?_, Registry.idFor?_assign_of_not_mem hnew, hadd, ?_⟩
    · rw [Registry.labels_assign, Table.put_of_not_mem hnew]
    · have hid : n.id = id := congrArg Node.id hn
      have hids : (d.addNode label).1.chart.nodeIds = d.chart.nodeIds ++ [id] := by
        rw [hadd, Chart.nodeIds, List.map_append, List.map_singleton, hid]
        rfl
      exact (Chart.form_append hids fun _ => Ident.isNumbered_numbered hnum).trans hform

/-- The next number after `1` and `05` is `6`. -/
theorem addNode_numbered_behind_zero_five :
    let actions : List Action := [.build "1.A\n05.B".toList]
    let d := (new none {}).run actions
    (∀ a ∈ actions, a.Fits) ∧ d.chart.form = .numbered ∧ d.chart.nodes.length < sizeLimit ∧
      ∃ (n : Node) (r : Registry), n.id = "n_6".toList ∧ n.label = some "C".toList ∧
        r.labels = d.registry.labels ++ [("n_6".toList, "C".toList)] ∧
        d.addNode "C".toList = ({ d with
          chart := { d.chart with nodes := d.chart.nodes ++ [n] }
          registry := r }, .ok n) := by
  intro actions
  have hfits : ∀ a ∈ actions, a.Fits := by simp [actions, Action.Fits, sizeLimit]
  have hform : ((new none {}).run actions).chart.form = .numbered := by decide +kernel
  have hlen : ((new none {}).run actions).chart.nodes.length < sizeLimit := by decide +kernel
  have hsix : ((new none {}).run actions).chart.followingToken = ['6'] := by decide +kernel
  have hshort : ∀ id ∈ ((new none {}).run actions).chart.nodeIds,
      ¬Json.digitLimit < (Ident.token id).length := by decide +kernel
  rcases addNode_numbered none actions hfits "C".toList hform hlen with
    ⟨fault, hlong, -⟩ | ⟨-, -, -, -, n, r, hn, hr, -, hadd, -⟩
  · -- Neither the tokens nor the next one are too long.
    cases hlong with
    | token hid hlong => exact absurd hlong (hshort _ hid)
    | next hlong =>
      rw [hsix] at hlong
      exact absurd hlong (by decide)
  · rw [hsix] at hn hr
    exact ⟨hfits, hform, hlen, n, r, congrArg Node.id hn, congrArg Node.label hn, hr, hadd⟩

end Document

end FlowScript
