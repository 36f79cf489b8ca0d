import FlowScript.Format
import FlowScript.Proofs.Export.DotEdge
import FlowScript.Proofs.Export.MermaidLines

/-!
# What has been built can be written

Writing a chart fails if a node has no label, or if an integer in the payload has too
many digits. Neither happens to a document that has been built on the default grid:
the nodes of a text have labels, and the measures of that grid are floats, so no
integer gets into the payload. The document can be written in every format
(`exists_render`).

If it cannot be built, that is because of a number that is too large, or of a negative
one (`of_arrange_eq_some`).
-/

namespace FlowScript

/-! ## Integers in values -/

namespace Json

theorem elementsExceedDigits_eq_false_iff {vs : List Json} :
    elementsExceedDigits vs = false ↔ ∀ v ∈ vs, v.exceedsDigits = false := by
  induction vs with
  | nil => simp [elementsExceedDigits]
  | cons v vs ih => rw [elementsExceedDigits, Bool.or_eq_false_iff, ih, List.forall_mem_cons]

theorem membersExceedDigits_eq_false_iff {ms : List (Text × Json)} :
    membersExceedDigits ms = false ↔ ∀ m ∈ ms, m.2.exceedsDigits = false := by
  induction ms with
  | nil => simp [membersExceedDigits]
  | cons m ms ih =>
    obtain ⟨name, v⟩ := m
    rw [membersExceedDigits, Bool.or_eq_false_iff, ih, List.forall_mem_cons]

end Json

/-- The number is there, and is a float. -/
def IsFloat (n : Option Number) : Prop :=
  ∃ x, n = some (.float x)

/-- The node has a place and a size in floats. -/
structure Node.InFloats (n : Node) : Prop where
  /-- The left end is a float. -/
  x : IsFloat n.x
  /-- So is the upper end. -/
  y : IsFloat n.y
  /-- So is the width. -/
  width : IsFloat n.width
  /-- So is the height. -/
  height : IsFloat n.height

theorem exceedsDigits_measureJson {n : Option Number} (h : IsFloat n) :
    (measureJson n).exceedsDigits = false := by
  obtain ⟨x, rfl⟩ := h
  rfl

theorem exceedsDigits_ofText? (s : Option Text) : (Json.ofText? s).exceedsDigits = false := by
  cases s <;> rfl

theorem Node.exceedsDigits_toJson {n : Node} (h : n.InFloats)
    (hmetadata : n.metadata.value.exceedsDigits = false) : n.toJson.exceedsDigits = false := by
  rw [toJson, Json.exceedsDigits, Json.membersExceedDigits_eq_false_iff]
  simp only [List.forall_mem_cons]
  exact ⟨rfl, exceedsDigits_ofText? _, exceedsDigits_measureJson h.x, exceedsDigits_measureJson h.y,
    exceedsDigits_measureJson h.width, exceedsDigits_measureJson h.height, hmetadata,
    fun _ h => absurd h List.not_mem_nil⟩

theorem Edge.exceedsDigits_toJson {e : Edge} (h : e.metadata.value.exceedsDigits = false) :
    e.toJson.exceedsDigits = false := by
  rw [toJson, Json.exceedsDigits, Json.membersExceedDigits_eq_false_iff]
  simp only [List.forall_mem_cons]
  exact ⟨rfl, rfl, rfl, exceedsDigits_ofText? _, h, fun _ h => absurd h List.not_mem_nil⟩

theorem exceedsDigits_lookupJson (t : Table (List Text)) :
    (lookupJson t).exceedsDigits = false := by
  rw [lookupJson, Json.exceedsDigits, Json.membersExceedDigits_eq_false_iff, List.forall_mem_map]
  intro entry _
  rw [Json.exceedsDigits, Json.elementsExceedDigits_eq_false_iff, List.forall_mem_map]
  exact fun _ _ => rfl

/-- A chart in floats has no long integer in its payload. -/
theorem Chart.exceedsDigits_toJson {c : Chart} (hmetadata : c.metadata.value.exceedsDigits = false)
    (hnodes : ∀ n ∈ c.nodes, n.InFloats ∧ n.metadata.value.exceedsDigits = false)
    (hedges : ∀ e ∈ c.edges, e.metadata.value.exceedsDigits = false) :
    c.toJson.exceedsDigits = false := by
  have hlookups : (Json.object [("incomingEdges".toList, lookupJson c.incoming),
      ("outgoingEdges".toList, lookupJson c.outgoing)]).exceedsDigits = false := by
    rw [Json.exceedsDigits, Json.membersExceedDigits_eq_false_iff]
    simp only [List.forall_mem_cons]
    exact ⟨exceedsDigits_lookupJson _, exceedsDigits_lookupJson _,
      fun _ h => absurd h List.not_mem_nil⟩
  have hns : (Json.array (c.nodes.map Node.toJson)).exceedsDigits = false := by
    rw [Json.exceedsDigits, Json.elementsExceedDigits_eq_false_iff, List.forall_mem_map]
    exact fun n hn => n.exceedsDigits_toJson (hnodes n hn).1 (hnodes n hn).2
  have hes : (Json.array (c.edges.map Edge.toJson)).exceedsDigits = false := by
    rw [Json.exceedsDigits, Json.elementsExceedDigits_eq_false_iff, List.forall_mem_map]
    exact fun e he => e.exceedsDigits_toJson (hedges e he)
  rw [toJson, Json.exceedsDigits, Json.membersExceedDigits_eq_false_iff]
  simp only [List.forall_mem_cons]
  exact ⟨exceedsDigits_ofText? _, hmetadata, hns, hes, hlookups,
    fun _ h => absurd h List.not_mem_nil⟩

/-! ## The default grid -/

namespace Grid

variable {o : Float} {w gap n : Number} {i j : Int} {p : Number × Number} {fault : Fault}

theorem add?_float (o : Float) (b : Number) :
    (Number.float o).add? b = b.toFloat?.map fun x => .float (o + x) := by
  cases b with
  | int i =>
    simp only [Number.add?, Number.toFloat?]
    cases Number.floatOfInt? i <;> rfl
  | float x => rfl

/-- From a float, steps of any measures lead to a float. -/
theorem of_offset_float (h : offset (.float o) w gap i = .ok n) : ∃ x, n = .float x := by
  rw [offset] at h
  split at h
  · next m hm =>
    obtain rfl := Except.ok.inj h
    simp only [Option.bind_eq_bind, Option.bind_eq_some_iff, add?_float,
      Option.map_eq_some_iff] at hm
    obtain ⟨step, -, way, -, x, -, rfl⟩ := hm
    exact ⟨_, rfl⟩
  · cases h

/-- What can go wrong with a step is that a number is too large. -/
theorem of_offset_eq_error {origin : Number} (h : offset origin w gap i = .error fault) :
    fault = .tooLarge := by
  rw [offset] at h
  split at h
  · cases h
  · exact (Except.error.inj h).symm

/-- The cells of the default grid are at floats. -/
theorem of_cell_default (h : ({} : Grid).cell i j = .ok p) :
    (∃ x, p.1 = .float x) ∧ ∃ y, p.2 = .float y := by
  obtain ⟨columns, -, h⟩ := exists_of_bind_eq_ok h
  obtain ⟨x, hx, h⟩ := exists_of_bind_eq_ok h
  obtain ⟨y, hy, h⟩ := exists_of_bind_eq_ok h
  obtain rfl := Except.ok.inj h
  exact ⟨of_offset_float hx, of_offset_float hy⟩

theorem of_columns_eq_error (h : columns j = .error fault) :
    fault = .tooLarge ∨ fault = .negativeCount := by
  rw [columns] at h
  split at h
  · exact .inl (Except.error.inj h).symm
  · split at h
    · exact .inr (Except.error.inj h).symm
    · cases h

/-- What can go wrong with a cell is that a number is too large, or negative. -/
theorem of_cell_eq_error {g : Grid} (h : g.cell i j = .error fault) :
    fault = .tooLarge ∨ fault = .negativeCount := by
  obtain h | ⟨columns, -, h⟩ := of_bind_eq_error h
  · exact of_columns_eq_error h
  obtain h | ⟨x, -, h⟩ := of_bind_eq_error h
  · exact .inl (of_offset_eq_error h)
  obtain h | ⟨y, -, h⟩ := of_bind_eq_error h
  · exact .inl (of_offset_eq_error h)
  · cases h

variable {count index : Nat} {nodes : List Node} {node placed : Node} {c : Chart}

theorem inFloats_place (h : ({} : Grid).place node i j = .ok placed) : placed.InFloats := by
  rw [place_eq] at h
  cases hcell : ({} : Grid).cell i j with
  | error fault =>
    rw [hcell] at h
    cases h
  | ok p =>
    rw [hcell] at h
    obtain rfl := Except.ok.inj h
    obtain ⟨⟨x, hx⟩, y, hy⟩ := of_cell_default hcell
    exact ⟨⟨x, congrArg some hx⟩, ⟨y, congrArg some hy⟩, ⟨160, rfl⟩, ⟨60, rfl⟩⟩

/-- Once all nodes have been placed on the default grid, they are in floats. -/
theorem inFloats_placeFrom (h : (({} : Grid).placeFrom count index nodes).2 = none) :
    ∀ n ∈ (({} : Grid).placeFrom count index nodes).1, n.InFloats := by
  induction nodes generalizing index with
  | nil => exact fun n hn => absurd hn List.not_mem_nil
  | cons n rest ih =>
    rw [placeFrom_cons] at h ⊢
    cases hplace : ({} : Grid).place n index count with
    | error fault =>
      rw [hplace] at h
      cases h
    | ok placed =>
      rw [hplace] at h
      exact List.forall_mem_cons.2 ⟨inFloats_place hplace, ih h⟩

theorem of_placeFrom_eq_some {g : Grid} (h : (g.placeFrom count index nodes).2 = some fault) :
    fault = .tooLarge ∨ fault = .negativeCount := by
  induction nodes generalizing index with
  | nil => cases h
  | cons n rest ih =>
    rw [placeFrom_cons] at h
    cases hplace : g.place n index count with
    | error f =>
      rw [hplace] at h
      obtain rfl := Option.some.inj h
      rw [place_eq] at hplace
      cases hcell : g.cell index count with
      | error f' =>
        rw [hcell] at hplace
        exact Except.error.inj hplace ▸ of_cell_eq_error hcell
      | ok p =>
        rw [hcell] at hplace
        cases hplace
    | ok placed =>
      rw [hplace] at h
      exact ih h

/-- What can go wrong with the places is that a number is too large, or negative. -/
theorem of_arrange_eq_some {g : Grid} (h : (g.arrange c).2 = some fault) :
    fault = .tooLarge ∨ fault = .negativeCount :=
  of_placeFrom_eq_some h

end Grid

/-! ## Documents -/

/-- The nodes of a text have no numbers in their metadata. -/
theorem exceedsDigits_of_mem_plan {sketch : Sketch} {n : Node} (h : n ∈ sketch.plan) :
    n.metadata.value.exceedsDigits = false := by
  cases sketch with
  | blank => cases h
  | numbered nodes links =>
    rcases List.mem_append.1 h with h | h
    · obtain ⟨m, -, rfl⟩ := List.mem_map.1 h
      rfl
    · obtain ⟨token, -, rfl⟩ := List.mem_map.1 h
      rfl
  | labelled labels links =>
    obtain ⟨l, -, rfl⟩ := List.mem_map.1 h
    rfl

namespace Document

variable {d : Document} {s : Text}

/-- No integer gets into the payload of a document that is built on the default grid. -/
theorem exceedsDigits_build (hgrid : d.grid = {}) (h : (d.build s).2 = none) :
    (d.build s).1.chart.toJson.exceedsDigits = false := by
  have harrange := build_eq_none_iff.1 h
  have hbuilt := of_build h
  refine Chart.exceedsDigits_toJson ?_ (fun n hn => ⟨?_, ?_⟩) fun e he => ?_
  · rw [build_eq]
    simp only [harrange, if_true]
    -- The metadata of the chart names the notation, if there is one.
    change (Build.groundFor d.name (Reading.ofText s)).metadata.value.exceedsDigits = false
    cases Reading.ofText s <;> rfl
  · rw [build_eq] at hn
    simp only [harrange, if_true] at hn
    rw [hgrid] at harrange hn
    exact Grid.inFloats_placeFrom harrange n hn
  · exact exceedsDigits_of_mem_plan (n := n.unplaced) (hbuilt.nodes ▸ List.mem_map_of_mem hn)
  · rw [hbuilt.edges_eq] at he
    obtain ⟨i, hi, rfl⟩ := List.mem_mapIdx.1 he
    rfl

/-- A document that has been built on the default grid can be written in every
    format. -/
theorem exists_render (hgrid : d.grid = {}) (h : (d.build s).2 = none) (f : Format) :
    ∃ content, f.render (d.build s).1 = .ok content := by
  have hlabels : ∀ n ∈ (d.build s).1.chart.nodes, n.label = some n.caption :=
    fun n hn => (of_build h).label_eq hn
  cases f with
  | auto => exact ⟨_, rfl⟩
  | numbered => exact ⟨_, rfl⟩
  | chain => exact ⟨_, rfl⟩
  | mermaid => exact ⟨_, Mermaid.write_eq_ok (fun n hn => by rw [hlabels n hn]; rfl) _⟩
  | dot => exact ⟨_, Dot.write_eq_ok hlabels _⟩
  | json =>
    rw [Format.render, Chart.toJsonText, if_neg (Bool.eq_false_iff.1 (exceedsDigits_build hgrid h))]
    exact ⟨_, rfl⟩

/-- What can go wrong with building is that a number is too large, or negative. -/
theorem of_build_eq_some {fault : Fault} (h : (d.build s).2 = some fault) :
    fault = .tooLarge ∨ fault = .negativeCount := by
  rw [build_eq] at h
  exact Grid.of_arrange_eq_some h

theorem name_build (d : Document) (s : Text) : (d.build s).1.name = d.name := by
  rw [build_eq]

end Document

end FlowScript
