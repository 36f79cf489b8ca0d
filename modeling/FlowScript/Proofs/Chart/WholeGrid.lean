import FlowScript.Proofs.Chart.Grid
import FlowScript.Proofs.Number.SquareRoot
import Mathlib.Order.Bounds.Defs

/-!
# Grids in whole numbers

Whole measures give whole coordinates, without rounding and without a limit, so
every node has its cell (`arrange_toGrid`). The nodes are laid out row by row in
columns whose number is the least that makes a square of them, and where cells
have a size and gaps are not negative the nodes do not overlap:

* `columnCount_isLeast`: up to `2 ^ 52` nodes the rounded square root gives the
  right number of columns;
* `arrange_rowMajor`: the cells, their order and the rectangles that the nodes
  fill.
-/

namespace FlowScript

/-! ## Columns -/

namespace Grid

variable {n c : Nat}

/-- There are enough columns for a square of cells, and no more than that. -/
theorem columnCount_le_iff (hn : n ≤ 2 ^ 52) : columnCount n ≤ c ↔ 1 ≤ c ∧ n ≤ c * c := by
  rw [columnCount, Binary64.nearest_eq_self (by omega), Nat.max_le, Binary64.ceilSqrt_le_iff hn]

theorem columnCount_isLeast (hn : n ≤ 2 ^ 52) :
    IsLeast {c | 1 ≤ c ∧ n ≤ c * c} (columnCount n) :=
  ⟨(columnCount_le_iff hn).1 le_rfl, fun _ hc => (columnCount_le_iff hn).2 hc⟩

/-- A place in the last row or before it is in a square of cells. -/
theorem row_lt_columnCount (hn : n ≤ 2 ^ 52) {i : Nat} (hi : i < n) :
    i / columnCount n < columnCount n :=
  Nat.div_lt_of_lt_mul (hi.trans_le (columnCount_isLeast hn).1.2)

/-- Later places are in a later row, or in the same row and a later column. -/
theorem row_lt_or_column_lt {i j : Nat} (h : i < j) :
    i / c < j / c ∨ i / c = j / c ∧ i % c < j % c := by
  rcases (Nat.div_le_div_right h.le : i / c ≤ j / c).lt_or_eq with hrow | hrow
  · exact .inl hrow
  · have hi := Nat.div_add_mod i c
    have hj := Nat.div_add_mod j c
    rw [hrow] at hi
    exact .inr ⟨hrow, by omega⟩

end Grid

/-! ## Nodes in the plane -/

/-- The upper left corner of the node is at `(x, y)`. -/
def Node.StandsAt (n : Node) (x y : Int) : Prop :=
  n.x = some (.int x) ∧ n.y = some (.int y)

/-- The nodes stand in different rows, the first one higher, or side by side in
    the same one. -/
def Node.Precedes (m n : Node) : Prop :=
  ∃ x y x' y', m.StandsAt x y ∧ n.StandsAt x' y' ∧ (y < y' ∨ y = y' ∧ x < x')

/-- The points of the plane that a node in whole numbers covers. Its right and
    lower ends do not belong to it. -/
def Node.area (n : Node) : Set (ℝ × ℝ) :=
  {p | ∃ x y w h : Int, n.StandsAt x y ∧ n.width = some (.int w) ∧ n.height = some (.int h) ∧
    p.1 ∈ Set.Ico (x : ℝ) (x + w) ∧ p.2 ∈ Set.Ico (y : ℝ) (y + h)}

/-! ## The grid -/

/-- The measures of a grid in whole numbers. -/
structure WholeGrid where
  /-- The width of a cell. -/
  cellWidth : Int
  /-- The height of a cell. -/
  cellHeight : Int
  /-- The space between columns. -/
  gapX : Int
  /-- The space between rows. -/
  gapY : Int
  /-- The left end of the first cell. -/
  originX : Int
  /-- The upper end of the first cell. -/
  originY : Int

namespace WholeGrid

variable {g : WholeGrid} {n m : Node} {count index c i j : Nat}

/-- The grid with these measures. -/
def toGrid (g : WholeGrid) : Grid where
  cellWidth := .int g.cellWidth
  cellHeight := .int g.cellHeight
  gapX := .int g.gapX
  gapY := .int g.gapY
  originX := .int g.originX
  originY := .int g.originY

/-- Where a cell starts on an axis: as many steps of a cell and a gap from the
    origin. -/
def start (origin size gap : Int) (place : Nat) : Int :=
  origin + place * (size + gap)

/-- The left end of a column. -/
def left (g : WholeGrid) (column : Nat) : Int :=
  start g.originX g.cellWidth g.gapX column

/-- The upper end of a row. -/
def top (g : WholeGrid) (row : Nat) : Int :=
  start g.originY g.cellHeight g.gapY row

/-- The node in the cell with the number `i`, where there are `c` columns. -/
def settle (g : WholeGrid) (c i : Nat) (n : Node) : Node :=
  { n with
    x := some (.int (g.left (i % c)))
    y := some (.int (g.top (i / c)))
    width := some (.int g.cellWidth)
    height := some (.int g.cellHeight) }

theorem standsAt_settle (g : WholeGrid) (c i : Nat) (n : Node) :
    (g.settle c i n).StandsAt (g.left (i % c)) (g.top (i / c)) :=
  ⟨rfl, rfl⟩

/-! ## Placing -/

/-- Every cell has whole coordinates, however far it is from the origin. -/
theorem cell_toGrid (h : Grid.columns count = .ok c) (i : Nat) :
    g.toGrid.cell i count = .ok (.int (g.left (i % c)), .int (g.top (i / c))) := by
  have hc : (0 : Int) ≤ c := Int.natCast_nonneg c
  rw [Grid.cell, h]
  simp only [bind, Except.bind, Int.fmod_eq_emod_of_nonneg _ hc, Int.fdiv_eq_ediv_of_nonneg _ hc]
  rfl

theorem place_toGrid (h : Grid.columns count = .ok c) (n : Node) (i : Nat) :
    g.toGrid.place n i count = .ok (g.settle c i n) := by
  rw [Grid.place_eq, cell_toGrid h]
  rfl

theorem placeFrom_toGrid (h : Grid.columns count = .ok c) (nodes : List Node) :
    g.toGrid.placeFrom count index nodes =
      (nodes.mapIdx fun i => g.settle c (index + i), none) := by
  induction nodes generalizing index with
  | nil => rfl
  | cons n rest ih =>
    rw [Grid.placeFrom_cons, place_toGrid h, ih, List.mapIdx_cons]
    simp only [Nat.add_zero, Nat.add_right_comm, Nat.add_assoc]

/-- A grid in whole numbers takes as many nodes as a float can count. -/
theorem arrange_toGrid (ch : Chart) (h : Grid.columns ch.nodes.length = .ok c) :
    g.toGrid.arrange ch = ({ ch with nodes := ch.nodes.mapIdx (g.settle c) }, none) := by
  rw [Grid.arrange, placeFrom_toGrid h]
  simp only [Nat.zero_add]

/-! ## Nodes side by side -/

/-- Cells have a size, and they do not overlap. -/
structure Roomy (g : WholeGrid) : Prop where
  /-- Cells have a width. -/
  width : 0 < g.cellWidth
  /-- Cells have a height. -/
  height : 0 < g.cellHeight
  /-- Columns do not overlap. -/
  gapX : 0 ≤ g.gapX
  /-- Rows do not overlap. -/
  gapY : 0 ≤ g.gapY

/-- A cell ends before the next ones start. -/
theorem start_add_le {origin size gap : Int} (hsize : 0 < size) (hgap : 0 ≤ gap) (hij : i < j) :
    start origin size gap i + size ≤ start origin size gap j := by
  have hstep : ((i : Int) + 1) * (size + gap) ≤ j * (size + gap) :=
    Int.mul_le_mul_of_nonneg_right (by omega) (Int.add_nonneg hsize.le hgap)
  rw [Int.add_mul, Int.one_mul] at hstep
  rw [start, start]
  omega

theorem Roomy.right_le_left (h : g.Roomy) (hij : i < j) :
    g.left i + g.cellWidth ≤ g.left j :=
  start_add_le h.width h.gapX hij

theorem Roomy.bottom_le_top (h : g.Roomy) (hij : i < j) :
    g.top i + g.cellHeight ≤ g.top j :=
  start_add_le h.height h.gapY hij

theorem Roomy.precedes_settle (h : g.Roomy) (hij : i < j) :
    (g.settle c i m).Precedes (g.settle c j n) := by
  refine ⟨_, _, _, _, standsAt_settle g c i m, standsAt_settle g c j n, ?_⟩
  rcases Grid.row_lt_or_column_lt (c := c) hij with hrow | ⟨hrow, hcolumn⟩
  · have := h.bottom_le_top hrow
    have := h.height
    exact .inl (by omega)
  · have := h.right_le_left hcolumn
    have := h.width
    exact .inr ⟨by rw [hrow], by omega⟩

theorem mem_area_settle {p : ℝ × ℝ} : p ∈ (g.settle c i n).area ↔
    p.1 ∈ Set.Ico (g.left (i % c) : ℝ) (g.left (i % c) + g.cellWidth) ∧
      p.2 ∈ Set.Ico (g.top (i / c) : ℝ) (g.top (i / c) + g.cellHeight) := by
  constructor
  · rintro ⟨x, y, w, k, ⟨hx, hy⟩, hw, hk, hp⟩
    cases hx
    cases hy
    cases hw
    cases hk
    exact hp
  · exact fun hp => ⟨_, _, _, _, standsAt_settle g c i n, rfl, rfl, hp⟩

theorem Roomy.inter_area_settle (h : g.Roomy) (hij : i < j) :
    (g.settle c i m).area ∩ (g.settle c j n).area = ∅ := by
  rw [Set.eq_empty_iff_forall_notMem]
  rintro p ⟨hi, hj⟩
  obtain ⟨⟨-, hright⟩, ⟨-, hbottom⟩⟩ := mem_area_settle.1 hi
  obtain ⟨⟨hleft, -⟩, ⟨htop, -⟩⟩ := mem_area_settle.1 hj
  rcases Grid.row_lt_or_column_lt (c := c) hij with hrow | ⟨-, hcolumn⟩
  · have hle : (g.top (i / c) + g.cellHeight : ℝ) ≤ g.top (j / c) := by
      exact_mod_cast h.bottom_le_top hrow
    linarith
  · have hle : (g.left (i % c) + g.cellWidth : ℝ) ≤ g.left (j % c) := by
      exact_mod_cast h.right_le_left hcolumn
    linarith

theorem pairwise_mapIdx_settle {R : Node → Node → Prop}
    (h : ∀ i j m n, i < j → R (g.settle c i m) (g.settle c j n)) (nodes : List Node) :
    (nodes.mapIdx (g.settle c)).Pairwise R := by
  rw [List.pairwise_iff_getElem]
  intro i j hi hj hij
  rw [List.getElem_mapIdx, List.getElem_mapIdx]
  exact h i j _ _ hij

/-- Up to `2 ^ 52` nodes the number of columns is the least whose square has
    room for all of them. On a grid in whole numbers any nodes are laid out row
    by row in these columns, and no two overlap. -/
theorem arrange_rowMajor :
    (∀ count ≤ 2 ^ 52, ∃ c, Grid.columns (count : Nat) = .ok c ∧
      IsLeast {c | 1 ≤ c ∧ count ≤ c * c} c) ∧
    ∀ (g : WholeGrid) (ch : Chart) (k : Nat), g.Roomy → k < 1024 → ch.nodes.length < 2 ^ k →
      ∃ c, Grid.columns ch.nodes.length = .ok c ∧
        g.toGrid.arrange ch = ({ ch with nodes := ch.nodes.mapIdx (g.settle c) }, none) ∧
        (∀ i < ch.nodes.length, i % c < c ∧ (ch.nodes.length ≤ 2 ^ 52 → i / c < c)) ∧
        (g.toGrid.arrange ch).1.nodes.Pairwise Node.Precedes ∧
        (g.toGrid.arrange ch).1.nodes.Pairwise fun m n => m.area ∩ n.area = ∅ := by
  refine ⟨fun count hcount => ?_, fun g ch k hg hk hlen => ?_⟩
  · have hlt : count < 2 ^ 53 := hcount.trans_lt (by decide)
    exact ⟨_, Grid.columns_eq_ok hlt (by decide), Grid.columnCount_isLeast hcount⟩
  · have hcolumns := Grid.columns_eq_ok hlen hk
    have harrange := arrange_toGrid (g := g) ch hcolumns
    refine ⟨_, hcolumns, harrange, fun i hi => ?_, ?_, ?_⟩
    · exact ⟨Nat.mod_lt i (Grid.columnCount_pos _), fun hn => Grid.row_lt_columnCount hn hi⟩
    · rw [harrange]
      exact pairwise_mapIdx_settle (fun _ _ _ _ => hg.precedes_settle) _
    · rw [harrange]
      exact pairwise_mapIdx_settle (fun _ _ _ _ => hg.inter_area_settle) _

/-- Five nodes stand in three columns. -/
theorem arrange_rowMajor_five :
    let g : WholeGrid := ⟨160, 60, 60, 40, 0, 0⟩
    let ch : Chart := {
      name := none
      nodes := ['a', 'b', 'c', 'd', 'e'].map fun a => { id := [a], label := some [a] } }
    g.Roomy ∧ ch.nodes.length < 2 ^ 3 ∧
      (g.toGrid.arrange ch).1.nodes = ch.nodes.mapIdx (g.settle 3) ∧
      (g.toGrid.arrange ch).1.nodes.Pairwise fun m n => m.area ∩ n.area = ∅ := by
  intro g ch
  have hroomy : g.Roomy := ⟨by decide, by decide, by decide, by decide⟩
  have hlen : ch.nodes.length < 2 ^ 3 := by decide
  obtain ⟨hleast, hlayout⟩ := arrange_rowMajor
  obtain ⟨c, hcolumns, harrange, -, -, hdisjoint⟩ := hlayout g ch 3 hroomy (by decide) hlen
  obtain ⟨c', hfive, hsquare⟩ := hleast 5 (by decide)
  obtain rfl := Except.ok.inj (hcolumns.symm.trans hfive)
  have hthree : c = 3 := by
    refine hsquare.unique ⟨⟨by decide, by decide⟩, fun d hd => ?_⟩
    by_contra hlt
    have hd' : d * d ≤ 2 * 2 := Nat.mul_le_mul (by omega) (by omega)
    have := hd.2
    omega
  exact ⟨hroomy, hlen, by rw [harrange, hthree], hdisjoint⟩

end WholeGrid

end FlowScript
