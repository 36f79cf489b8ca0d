import FlowScript.Chart.Grid
import FlowScript.Proofs.Number.Binary64

/-!
# Placing nodes on the grid

Placing changes nothing but the places (`map_unplaced_arrange`), and whether it
succeeds depends on the number of nodes and not on what they are
(`arrange_eq_none_of_length`). On the default grid, whose measures are floats,
it fails only for more nodes than a float can count (`arrange_default_eq_none`).
-/

namespace FlowScript

/-- What is known of a node but for its place. -/
def Node.unplaced (n : Node) : Node :=
  { id := n.id, label := n.label, metadata := n.metadata }

namespace Grid

variable {g : Grid} {c d : Chart} {nodes : List Node} {n placed : Node} {count index k : Nat}

/-! ## What is changed -/

/-- Placing a node is a matter of its cell alone. -/
theorem place_eq (g : Grid) (n : Node) (i j : Int) :
    g.place n i j = (g.cell i j).map fun p =>
      { n with
        x := some p.1
        y := some p.2
        width := some g.cellWidth
        height := some g.cellHeight } := by
  rw [place]
  generalize g.cell i j = cell
  cases cell <;> rfl

theorem unplaced_place {i j : Int} (h : g.place n i j = .ok placed) :
    placed.unplaced = n.unplaced := by
  rw [place_eq] at h
  generalize g.cell i j = cell at h
  cases cell with
  | error fault => cases h
  | ok p =>
    obtain rfl := Except.ok.inj h
    rfl

section

-- Otherwise the largest float is computed when the two sides are compared.
attribute [local irreducible] place

theorem placeFrom_cons (g : Grid) (count index : Nat) (n : Node) (nodes : List Node) :
    g.placeFrom count index (n :: nodes) =
      match g.place n index count with
      | .error fault => (n :: nodes, some fault)
      | .ok placed =>
        (placed :: (g.placeFrom count (index + 1) nodes).1,
          (g.placeFrom count (index + 1) nodes).2) :=
  rfl

end

theorem map_unplaced_placeFrom :
    (g.placeFrom count index nodes).1.map Node.unplaced = nodes.map Node.unplaced := by
  induction nodes generalizing index with
  | nil => rfl
  | cons n rest ih =>
    cases h : g.place n index count with
    | error fault => rw [placeFrom_cons, h]
    | ok placed => rw [placeFrom_cons, h, List.map_cons, ih, unplaced_place h, List.map_cons]

/-- Placing changes neither the nodes, but for their places, nor the edges. -/
theorem map_unplaced_arrange (g : Grid) (c : Chart) :
    (g.arrange c).1.nodes.map Node.unplaced = c.nodes.map Node.unplaced :=
  map_unplaced_placeFrom

theorem length_arrange (g : Grid) (c : Chart) :
    (g.arrange c).1.nodes.length = c.nodes.length := by
  have hlen := congrArg List.length (map_unplaced_arrange g c)
  rwa [List.length_map, List.length_map] at hlen

/-! ## Success -/

/-- A node can be placed if there is a cell. -/
theorem place_isOk_iff {i j : Int} : (∃ placed, g.place n i j = .ok placed) ↔
    ∃ p, g.cell i j = .ok p := by
  rw [place_eq]
  generalize g.cell i j = cell
  cases cell <;> simp [Except.map]

/-- All nodes are placed iff there is a cell for each. -/
theorem placeFrom_eq_none_iff : (g.placeFrom count index nodes).2 = none ↔
    ∀ k < nodes.length, ∃ p, g.cell (index + k : Nat) count = .ok p := by
  induction nodes generalizing index with
  | nil => exact iff_of_true rfl fun k hk => absurd hk (Nat.not_lt_zero k)
  | cons n rest ih =>
    rw [List.length_cons]
    cases h : g.place n index count with
    | error fault =>
      -- The first node fails already, so there is no cell for it.
      rw [placeFrom_cons, h]
      simp only [reduceCtorEq, false_iff]
      intro hall
      obtain ⟨placed, hp⟩ := (place_isOk_iff (n := n)).2 (hall 0 (Nat.succ_pos _))
      cases hp.symm.trans h
    | ok placed =>
      have hcell := place_isOk_iff.1 ⟨placed, h⟩
      rw [placeFrom_cons, h]
      simp only [ih]
      constructor
      · intro hrest k hk
        cases k with
        | zero => exact hcell
        | succ k =>
          rw [Nat.add_comm k 1, ← Nat.add_assoc]
          exact hrest k (Nat.lt_of_succ_lt_succ hk)
      · intro hall k hk
        rw [Nat.add_assoc, Nat.add_comm 1 k]
        exact hall (k + 1) (Nat.succ_lt_succ hk)

/-- A grid that takes the nodes of one chart takes as many others. -/
theorem arrange_eq_none_of_length (h : (g.arrange c).2 = none)
    (hlen : d.nodes.length = c.nodes.length) : (g.arrange d).2 = none := by
  refine placeFrom_eq_none_iff.2 fun k hk => ?_
  rw [hlen] at hk ⊢
  exact placeFrom_eq_none_iff.1 h k hk

/-! ## Columns -/

/-- The number of columns for as many nodes as a float can count. -/
def columnCount (count : Nat) : Nat :=
  max 1 (Binary64.ceilSqrt (Binary64.nearest count))

theorem columnCount_pos (count : Nat) : 0 < columnCount count :=
  Nat.le_max_left 1 _

theorem columns_eq_ok (h : count < 2 ^ k) (hk : k < 1024) :
    columns count = .ok (columnCount count) := by
  have hcount : ¬(count : Int) < 0 := Int.not_lt.2 (Int.natCast_nonneg count)
  rw [columns, Int.natAbs_natCast]
  -- With a number as its exponent the power would be evaluated.
  generalize 1024 = m at hk ⊢
  rw [if_neg (Nat.not_le_of_lt (Binary64.nearest_lt h hk)), if_neg hcount, columnCount]

/-! ## The default grid -/

/-- Integers that are not too large meet floats. -/
theorem floatOfInt?_isSome {i : Int} (h : i.natAbs < 2 ^ k) (hk : k < 1024) :
    ∃ x, Number.floatOfInt? i = some x := by
  rw [Number.floatOfInt?]
  simp only [if_pos (Binary64.ofRatio_lt_infinity h hk)]
  exact ⟨_, rfl⟩

/-- Steps of float measures can be counted as far as floats go. -/
theorem offset_float_eq_ok {i : Int} (h : i.natAbs < 2 ^ k) (hk : k < 1024) (o w gap : Float) :
    ∃ x, offset (.float o) (.float w) (.float gap) i = .ok x := by
  obtain ⟨f, hf⟩ := floatOfInt?_isSome h hk
  have hstep : (Number.float w).add? (.float gap) = some (.float (w + gap)) := rfl
  have hway : (Number.int i).mul? (.float (w + gap)) = some (.float (f * (w + gap))) := by
    rw [Number.mul?]
    · simp [Number.toFloat?, hf]
    · simp
  refine ⟨.float (o + f * (w + gap)), ?_⟩
  rw [offset, hstep]
  simp only [Option.bind_eq_bind, Option.bind_some, hway]
  rfl

/-- The default grid has a cell for each of the nodes that a float can count. -/
theorem cell_default_eq_ok (h : count < 2 ^ k) (hk : k < 1024) (hindex : index < count) :
    ∃ p, ({} : Grid).cell index count = .ok p := by
  have hcolumns := columns_eq_ok h hk
  have hpos : (0 : Int) ≤ columnCount count := Int.natCast_nonneg _
  -- Neither the column nor the row is greater than the place of the node.
  have hmod : ((index : Int).fmod (columnCount count)).natAbs < 2 ^ k := by
    rw [Int.fmod_eq_emod_of_nonneg _ hpos, ← Int.natCast_emod, Int.natAbs_natCast]
    exact Nat.lt_of_le_of_lt (Nat.mod_le index _) (Nat.lt_trans hindex h)
  have hdiv : ((index : Int).fdiv (columnCount count)).natAbs < 2 ^ k := by
    rw [Int.fdiv_eq_ediv_of_nonneg _ hpos, ← Int.natCast_ediv, Int.natAbs_natCast]
    exact Nat.lt_of_le_of_lt (Nat.div_le_self index _) (Nat.lt_trans hindex h)
  obtain ⟨x, hx⟩ := offset_float_eq_ok hmod hk 0 160 60
  obtain ⟨y, hy⟩ := offset_float_eq_ok hdiv hk 0 60 40
  refine ⟨(x, y), ?_⟩
  rw [cell, hcolumns]
  simp only [bind, Except.bind, hx, hy]
  rfl

/-- On the default grid there are cells for all nodes that a float can count. -/
theorem arrange_default_eq_none (h : c.nodes.length < 2 ^ k) (hk : k < 1024) :
    (({} : Grid).arrange c).2 = none := by
  refine placeFrom_eq_none_iff.2 fun j hj => ?_
  rw [Nat.zero_add]
  exact cell_default_eq_ok h hk hj

end Grid

end FlowScript
