import FlowScript.Proofs.Chart.WholeGrid
import FlowScript.Proofs.Document.Reached

/-!
# The cells of a document that is edited

Building lays out all nodes in the columns that suit their number. A node that is
added later goes to the last cell of a grid that suits the new number, while the
others stay where they are. As long as the number of columns stays, that cell is
free. But when the nodes fill a square of `a` rows and columns, the next one is
placed in `a + 1` columns, where the cells are numbered anew: its cell is the
second one of the last row of the square. The nodes that follow take the rest of
that row, and only then is there a row of their own.

* `Laid.run`: the cells of the nodes, after any history on a grid in whole
  numbers;
* `same_cell_iff`: the nodes that share a cell, which are those of the last row
  of a square that was full, and those added behind it;
* `fifth_node_in_taken_cell`: the least document where this happens.
-/

namespace FlowScript

/-! ## Numbering the cells anew -/

namespace Grid

variable {n i j a m : Nat}

theorem columnCount_eq_succ (hn : n ≤ 2 ^ 52) (hlow : a * a < n) (hhigh : n ≤ (a + 1) * (a + 1)) :
    columnCount n = a + 1 := by
  have hle : columnCount n ≤ a + 1 := (columnCount_le_iff hn).2 ⟨by omega, hhigh⟩
  have hgt : ¬columnCount n ≤ a := fun hle =>
    Nat.not_lt_of_le ((columnCount_le_iff hn).1 hle).2 hlow
  omega

theorem columnCount_mono (hn : n ≤ 2 ^ 52) (hm : m ≤ n) : columnCount m ≤ columnCount n := by
  obtain ⟨hpos, hsquare⟩ := (columnCount_isLeast hn).1
  exact (columnCount_le_iff (hm.trans hn)).2 ⟨hpos, hm.trans hsquare⟩

/-- Where the first `c` rows of `c` columns and what follows `e` rows of `e + 1` columns
    have a cell in common, it is in the last of these rows, and there is one column
    more. -/
theorem of_same_cell {c e : Nat} (hce : c ≤ e) (hi : i < c * c) (hj : e * e ≤ j)
    (hrow : i / c = j / (e + 1)) (hcolumn : i % c = j % (e + 1)) :
    c = e ∧ i + c = j + 1 ∧ j + 2 ≤ c * c + c := by
  have hleft := Nat.div_add_mod i c
  have hright := Nat.div_add_mod j (e + 1)
  have hlast := Nat.div_lt_of_lt_mul hi
  have hcolumns := Nat.mod_lt i (Nat.pos_of_ne_zero fun hzero : c = 0 => by simp [hzero] at hi)
  rw [← hrow, ← hcolumn] at hright
  generalize i / c = r at hleft hright hlast
  generalize i % c = m at hleft hright hcolumns
  -- Above the last row there are too few cells, even in the wider grid.
  have hr : e ≤ r + 1 := by
    by_contra hlt
    have hle : (e + 1) * (r + 2) ≤ (e + 1) * e := Nat.mul_le_mul_left _ (by omega)
    have hrows : (e + 1) * (r + 2) = (e + 1) * r + 2 * e + 2 := by ring
    have hcells : (e + 1) * e = e * e + e := by ring
    omega
  obtain rfl : c = e := by omega
  obtain rfl : c = r + 1 := by omega
  have hold : (r + 1) * r = r * r + r := by ring
  have hnew : (r + 1 + 1) * r = r * r + 2 * r := by ring
  have hsquare : (r + 1) * (r + 1) = r * r + 2 * r + 1 := by ring
  exact ⟨rfl, by omega, by omega⟩

/-- Two places have the same cell iff the later one is behind a square of `a` rows, and
    the earlier one in its last row, as many places behind the first of that row. -/
theorem cell_eq_iff (hn : n ≤ 2 ^ 52) (hlast : j < 2 ^ 52) (hij : i < j) :
    (i / columnCount (max n (i + 1)) = j / columnCount (max n (j + 1)) ∧
      i % columnCount (max n (i + 1)) = j % columnCount (max n (j + 1))) ↔
    ∃ a m, m + 2 ≤ a ∧ n ≤ a * a ∧ j = a * a + m ∧ i + a = j + 1 := by
  have hni : max n (i + 1) ≤ 2 ^ 52 := by omega
  have hnj : max n (j + 1) ≤ 2 ^ 52 := by omega
  constructor
  · rintro ⟨hrow, hcolumn⟩
    have hle : columnCount (max n (i + 1)) ≤ columnCount (max n (j + 1)) :=
      columnCount_mono hnj (by omega)
    obtain ⟨hpos, hsquare⟩ := (columnCount_isLeast hni).1
    have hnext := fun c => (columnCount_le_iff (c := c) hnj)
    generalize columnCount (max n (i + 1)) = c at *
    generalize columnCount (max n (j + 1)) = c' at *
    -- In the same number of columns the two places would be the same.
    have hlt : c < c' := by
      refine hle.lt_of_ne fun heq => ?_
      have hi := Nat.div_add_mod i c
      rw [hrow, hcolumn, heq, Nat.div_add_mod] at hi
      omega
    obtain ⟨e, rfl⟩ := Nat.exists_eq_add_one_of_ne_zero (Nat.ne_zero_of_lt hlt)
    have hce : c ≤ e := Nat.le_of_lt_succ hlt
    -- One column less has no room for the later place.
    have hj : e * e ≤ j := by
      have hnot := mt (hnext e).2 (Nat.not_succ_le_self e)
      have := Nat.mul_le_mul hce hce
      omega
    obtain ⟨rfl, hplace, hrest⟩ := of_same_cell hce (by omega) hj hrow hcolumn
    exact ⟨c, j - c * c, by omega, by omega, by omega, hplace⟩
  · rintro ⟨a, m, hm, hna, rfl, hplace⟩
    obtain ⟨b, rfl⟩ := Nat.exists_eq_add_one_of_ne_zero (show a ≠ 0 by omega)
    have hb : (b + 1) * (b + 1) = b * b + 2 * b + 1 := by ring
    have hb' : (b + 1 + 1) * (b + 1 + 1) = b * b + 4 * b + 4 := by ring
    rw [columnCount_eq_succ (a := b) hni (by omega) (by omega),
      columnCount_eq_succ (a := b + 1) hnj (by omega) (by omega)]
    have hold : (b + 1) * b = b * b + b := by ring
    have hnew : (b + 1 + 1) * b = b * b + 2 * b := by ring
    -- Both stand in row `b` and column `m + 1`.
    obtain ⟨hrow, hcolumn⟩ := (Nat.div_mod_unique (Nat.succ_pos b)).2
      (show m + 1 + (b + 1) * b = i ∧ m + 1 < b + 1 by omega)
    obtain ⟨hrow', hcolumn'⟩ := (Nat.div_mod_unique (Nat.succ_pos (b + 1))).2
      (show m + 1 + (b + 1 + 1) * b = (b + 1) * (b + 1) + m ∧ m + 1 < b + 1 + 1 by omega)
    exact ⟨hrow.trans hrow'.symm, hcolumn.trans hcolumn'.symm⟩

end Grid

/-! ## Corners -/

/-- Where the upper left corners of the nodes are. -/
def Chart.corners (c : Chart) : List (Option Number × Option Number) :=
  c.nodes.map fun n => (n.x, n.y)

theorem Chart.length_corners (c : Chart) : c.corners.length = c.nodes.length :=
  List.length_map _

namespace WholeGrid

variable {g : WholeGrid} {c e i j : Nat}

/-- The upper left corner of the cell with the number `i`, where there are `c`
    columns. -/
def corner (g : WholeGrid) (c i : Nat) : Option Number × Option Number :=
  (some (.int (g.left (i % c))), some (.int (g.top (i / c))))

/-- No two columns start at the same place, and no two rows. -/
structure Spaced (g : WholeGrid) : Prop where
  /-- Columns advance to the right. -/
  columns : 0 < g.cellWidth + g.gapX
  /-- Rows advance downwards. -/
  rows : 0 < g.cellHeight + g.gapY

theorem start_inj {origin size gap : Int} (h : 0 < size + gap) :
    start origin size gap i = start origin size gap j ↔ i = j := by
  rw [start, start, Int.add_right_inj, Int.mul_eq_mul_right_iff h.ne']
  exact Int.ofNat_inj

theorem Spaced.left_inj (h : g.Spaced) : g.left i = g.left j ↔ i = j :=
  start_inj h.columns

theorem Spaced.top_inj (h : g.Spaced) : g.top i = g.top j ↔ i = j :=
  start_inj h.rows

theorem Spaced.corner_eq_iff (h : g.Spaced) :
    g.corner c i = g.corner e j ↔ i / c = j / e ∧ i % c = j % e := by
  simp only [corner, Prod.mk.injEq, Option.some.injEq, Number.int.injEq, h.left_inj, h.top_inj]
  exact and_comm

end WholeGrid

namespace Document

open Grid (columnCount)

variable {g : WholeGrid} {d d' : Document} {n : Node} {laid : Nat}

/-! ## Histories -/

/-- How many nodes the last build has laid out, after an action. A build that
    fails leaves the nodes of the one before. -/
def laidAfter (d : Document) (laid : Nat) : Action → Nat
  | .build s => if (d.build s).2 = none then (d.build s).1.chart.nodes.length else laid
  | .relabelNode .. | .relabelEdge .. | .editNode .. | .editEdge .. | .addNode .. | .connect .. =>
    laid

/-- How many nodes the last build has laid out, after a list of actions. -/
def laidFrom (d : Document) (laid : Nat) : List Action → Nat
  | [] => laid
  | a :: rest => (d.act a).laidFrom (d.laidAfter laid a) rest

/-- The nodes of the last build stand in the columns of all of them, and every
    other node in the columns that there were for it and those before it. -/
structure Laid (g : WholeGrid) (laid : Nat) (d : Document) : Prop where
  /-- The grid is the given one. -/
  grid : d.grid = g.toGrid
  /-- The nodes of the last build are among those of the chart. -/
  le : laid ≤ d.chart.nodes.length
  /-- The nodes stand in their cells, if a float can count them. -/
  corners : ∀ k < 1024, d.chart.nodes.length < 2 ^ k → d.chart.corners =
    (List.range d.chart.nodes.length).map fun i => g.corner (columnCount (max laid (i + 1))) i

theorem laid_new (name : Option Text) (g : WholeGrid) : Laid g 0 (new name g.toGrid) where
  grid := rfl
  le := Nat.le_refl 0
  corners _ _ _ := rfl

/-! ## Nodes that stay -/

theorem Laid.of_corners_eq (h : Laid g laid d) (hgrid : d'.grid = d.grid)
    (hcorners : d'.chart.corners = d.chart.corners) : Laid g laid d' := by
  have hlen : d'.chart.nodes.length = d.chart.nodes.length := by
    rw [← Chart.length_corners, hcorners, Chart.length_corners]
  refine ⟨hgrid.trans h.grid, hlen ▸ h.le, ?_⟩
  rw [hlen, hcorners]
  exact h.corners

theorem corners_relabelNode (d : Document) (id label : Text) :
    (d.relabelNode id label).1.chart.corners = d.chart.corners := by
  rw [relabelNode]
  split
  · simp only [Chart.corners, Chart.modifyNode, List.map_map]
    refine List.map_congr_left fun n _ => ?_
    rw [Function.comp_apply]
    split <;> rfl
  · rfl

theorem Laid.relabelNode (h : Laid g laid d) (id label : Text) :
    Laid g laid (d.relabelNode id label).1 :=
  h.of_corners_eq (grid_relabelNode d id label) (corners_relabelNode d id label)

theorem Laid.editNode (h : Laid g laid d) (id : Text) (ask : Text → Option Text) :
    Laid g laid (d.editNode id ask).1 := by
  rw [Document.editNode]
  split
  · simp only
    split
    · exact h
    · next label _ => exact h.relabelNode id label
  · exact h

/-! ## Nodes that are laid out -/

theorem Laid.build (h : Laid g laid d) (s : Text) :
    Laid g (d.laidAfter laid (.build s)) (d.build s).1 := by
  rw [laidAfter, build_eq]
  by_cases hfault : (d.grid.arrange (draftOf d.name s)).2 = none
  · simp only [if_pos hfault]
    refine ⟨h.grid, Nat.le_refl _, fun k hk hsmall => ?_⟩
    simp only [Grid.length_arrange] at hsmall ⊢
    rw [h.grid, WholeGrid.arrange_toGrid _ (Grid.columns_eq_ok hsmall hk)]
    -- All of them are counted, so the columns are the same for all.
    refine List.ext_getElem (by simp [Chart.corners]) fun i hi hi' => ?_
    have hmax : max (draftOf d.name s).nodes.length (i + 1) = (draftOf d.name s).nodes.length := by
      rw [List.length_map, List.length_range] at hi'
      exact Nat.max_eq_left hi'
    simp only [Chart.corners, List.getElem_map, List.getElem_mapIdx, List.getElem_range, hmax]
    rfl
  · -- The chart is the one from before.
    simp only [if_neg hfault]
    exact h.of_corners_eq rfl rfl

/-- A new node stands in the last cell of a grid for one more node. -/
theorem append_toGrid (hgrid : d.grid = g.toGrid) (hfresh : n.id ∉ d.chart.nodeIds) {c : Nat}
    (hc : Grid.columns (d.chart.nodes.length + 1 : Nat) = .ok c) : (d.append n).1 =
      { d with chart := { d.chart with
          nodes := d.chart.nodes ++ [g.settle c d.chart.nodes.length n] } } := by
  have hplace := WholeGrid.place_toGrid (g := g) hc n d.chart.nodes.length
  rw [← hgrid] at hplace
  rw [append_of_place hfresh hplace]

theorem Laid.append (h : Laid g laid d) (n : Node) : Laid g laid (d.append n).1 := by
  by_cases hfresh : n.id ∈ d.chart.nodeIds
  · rw [Document.append, Chart.addNode_of_mem hfresh]
    exact h
  · obtain ⟨m, -, heq⟩ := append_of_not_mem hfresh
    have hlen : (d.append n).1.chart.nodes.length = d.chart.nodes.length + 1 := by
      rw [heq]
      exact List.length_append
    refine ⟨?_, hlen ▸ Nat.le_succ_of_le h.le, fun k hk hsmall => ?_⟩
    · rw [heq]
      exact h.grid
    · rw [hlen] at hsmall ⊢
      have hmax : max laid (d.chart.nodes.length + 1) = d.chart.nodes.length + 1 :=
        Nat.max_eq_right (Nat.le_succ_of_le h.le)
      rw [append_toGrid h.grid hfresh (Grid.columns_eq_ok hsmall hk), Chart.corners,
        List.map_append, ← Chart.corners, h.corners k hk (Nat.lt_of_succ_lt hsmall),
        List.range_succ, List.map_append, List.map_singleton, List.map_singleton, hmax]
      rfl

/-- Adding a node changes the registry, and appends the node or leaves the
    chart. -/
theorem exists_addNode_eq (d : Document) (label : Text) :
    ∃ r, (d.addNode label).1 = { d with registry := r } ∨
      ∃ n, (d.addNode label).1 = (append { d with registry := r } n).1 := by
  rw [addNode]
  split
  · split
    · exact ⟨d.registry, .inl rfl⟩
    · exact ⟨_, .inr ⟨_, rfl⟩⟩
  · simp only
    split
    · exact ⟨_, .inl rfl⟩
    · exact ⟨_, .inr ⟨_, rfl⟩⟩

theorem Laid.addNode (h : Laid g laid d) (label : Text) : Laid g laid (d.addNode label).1 := by
  obtain ⟨r, heq | ⟨n, heq⟩⟩ := exists_addNode_eq d label
  · rw [heq]
    exact h.of_corners_eq rfl rfl
  · have hr : Laid g laid { d with registry := r } := h.of_corners_eq rfl rfl
    rw [heq]
    exact hr.append n

theorem Laid.act (h : Laid g laid d) (hd : d.Wired) (a : Action) :
    Laid g (d.laidAfter laid a) (d.act a) := by
  have hedges (hedits : a.EditsEdges) : Laid g laid (d.act a) := by
    obtain ⟨ls, hact, -⟩ := hd.exists_act hedits
    exact hact ▸ h.of_corners_eq rfl rfl
  cases a with
  | build s => exact h.build s
  | relabelNode id label => exact h.relabelNode id label
  | editNode id ask => exact h.editNode id ask
  | addNode label => exact h.addNode label
  | relabelEdge | editEdge | connect => exact hedges trivial

theorem Laid.run (h : Laid g laid d) (hd : d.Tidy) (actions : List Action) :
    Laid g (d.laidFrom laid actions) (d.run actions) := by
  induction actions generalizing d laid with
  | nil => exact h
  | cons a rest ih => exact ih (h.act hd.toWired a) (hd.act a)

/-! ## Cells that are shared -/

theorem Laid.corner_eq (h : Laid g laid d) (hlen : d.chart.nodes.length ≤ 2 ^ 52) {i : Nat}
    (hi : i < d.chart.nodes.length) : (d.chart.nodes[i].x, d.chart.nodes[i].y) =
      g.corner (columnCount (max laid (i + 1))) i := by
  have hcorners := h.corners 53 (by decide) (hlen.trans_lt (by decide))
  have hget := List.getElem_of_eq hcorners (i := i) (by rwa [Chart.length_corners])
  simpa only [Chart.corners, List.getElem_map, List.getElem_range] using hget

theorem Laid.same_corner_iff (h : Laid g laid d) (hg : g.Spaced)
    (hlen : d.chart.nodes.length ≤ 2 ^ 52) {i j : Nat} (hi : i < d.chart.nodes.length)
    (hj : j < d.chart.nodes.length) (hij : i < j) :
    (d.chart.nodes[i].x = d.chart.nodes[j].x ∧ d.chart.nodes[i].y = d.chart.nodes[j].y) ↔
      ∃ a m, m + 2 ≤ a ∧ laid ≤ a * a ∧ j = a * a + m ∧ i + a = j + 1 := by
  rw [← Prod.mk.injEq, h.corner_eq hlen hi, h.corner_eq hlen hj, hg.corner_eq_iff]
  exact Grid.cell_eq_iff (h.le.trans hlen) (hj.trans_le hlen) hij

/-- Two nodes share a cell iff, for some square of `a` rows that the last build did not
    outgrow, the later one is among the first `a - 1` behind the square, and the earlier
    one as many places behind the first of the last row. So all cells are distinct iff
    no square of two rows or more has been outgrown since the last build. -/
theorem same_cell_iff (name : Option Text) (g : WholeGrid) (hg : g.Spaced)
    (actions : List Action) :
    let d := (new name g.toGrid).run actions
    let laid := (new name g.toGrid).laidFrom 0 actions
    d.chart.nodes.length ≤ 2 ^ 52 →
      (∀ i j (hi : i < d.chart.nodes.length) (hj : j < d.chart.nodes.length), i < j →
        ((d.chart.nodes[i].x = d.chart.nodes[j].x ∧ d.chart.nodes[i].y = d.chart.nodes[j].y) ↔
          ∃ a m, m + 2 ≤ a ∧ laid ≤ a * a ∧ j = a * a + m ∧ i + a = j + 1)) ∧
      ((d.chart.nodes.Pairwise fun p q => ¬(p.x = q.x ∧ p.y = q.y)) ↔
        ∀ a, 2 ≤ a → laid ≤ a * a → d.chart.nodes.length ≤ a * a) := by
  intro d laid hlen
  have h : Laid g laid d := (laid_new name g).run (tidy_new name g.toGrid) actions
  refine ⟨fun i j hi hj hij => h.same_corner_iff hg hlen hi hj hij, ?_⟩
  rw [List.pairwise_iff_getElem]
  constructor
  · -- The first node behind a square is in a cell of its last row.
    intro hdistinct a ha hlaid
    by_contra hlt
    have hle : a ≤ a * a := Nat.le_mul_self a
    have hij : a * a + 1 - a < a * a := by omega
    refine hdistinct (a * a + 1 - a) (a * a) (by omega) (by omega) hij
      ((h.same_corner_iff hg hlen _ _ hij).2 ⟨a, 0, ha, hlaid, rfl, by omega⟩)
  · intro hsquares i j hi hj hij hsame
    obtain ⟨a, m, hm, hlaid, rfl, -⟩ := (h.same_corner_iff hg hlen hi hj hij).1 hsame
    have := hsquares a (by omega) hlaid
    omega

/-- The fifth node is added to a square of four. -/
theorem same_cell_iff_behind_four :
    let g : WholeGrid := ⟨160, 60, 60, 40, 0, 0⟩
    let actions : List Action := [.build "1.A\n2.B\n3.C\n4.D".toList, .addNode "E".toList]
    let d := (new none g.toGrid).run actions
    g.Spaced ∧ d.chart.nodes.length ≤ 2 ^ 52 ∧
      ∃ (h₃ : 3 < d.chart.nodes.length) (h₄ : 4 < d.chart.nodes.length),
        d.chart.nodes[3].x = d.chart.nodes[4].x ∧ d.chart.nodes[3].y = d.chart.nodes[4].y := by
  intro g actions
  have hg : g.Spaced := ⟨by decide, by decide⟩
  have hlen : ((new none g.toGrid).run actions).chart.nodes.length = 5 := by decide +kernel
  have hlaid : (new none g.toGrid).laidFrom 0 actions = 4 := by decide +kernel
  have hle : ((new none g.toGrid).run actions).chart.nodes.length ≤ 2 ^ 52 := by omega
  have h₃ : 3 < ((new none g.toGrid).run actions).chart.nodes.length := by omega
  have h₄ : 4 < ((new none g.toGrid).run actions).chart.nodes.length := by omega
  have hshared := (same_cell_iff none g hg actions hle).1 3 4 h₃ h₄ (by decide)
  exact ⟨hg, hle, h₃, h₄, hshared.2 ⟨2, 0, by decide, hlaid.le, rfl, rfl⟩⟩

/-- A new node can land in a cell that is taken: the fifth in that of the fourth. -/
theorem fifth_node_in_taken_cell :
    let g : WholeGrid := ⟨160, 60, 60, 40, 0, 0⟩
    let actions : List Action := [.build "1.A\n2.B\n3.C\n4.D".toList, .addNode "E".toList]
    let d := (new none g.toGrid).run actions
    g.Spaced ∧
      d.chart.nodeIds = ['1', '2', '3', '4', '5'].map (fun c => "n_".toList ++ [c]) ∧
      ∃ (h₃ : 3 < d.chart.nodes.length) (h₄ : 4 < d.chart.nodes.length),
        d.chart.nodes[3].StandsAt 220 100 ∧ d.chart.nodes[4].StandsAt 220 100 := by
  intro g actions
  have hg : g.Spaced := ⟨by decide, by decide⟩
  have hids : ((new none g.toGrid).run actions).chart.nodeIds =
      ['1', '2', '3', '4', '5'].map fun c => "n_".toList ++ [c] := by decide +kernel
  have hlen : ((new none g.toGrid).run actions).chart.nodes.length = 5 := by decide +kernel
  have hlaid : (new none g.toGrid).laidFrom 0 actions = 4 := by decide +kernel
  have h := (laid_new none g).run (tidy_new none g.toGrid) actions
  rw [hlaid] at h
  generalize (new none g.toGrid).run actions = d at *
  have hle : d.chart.nodes.length ≤ 2 ^ 52 := by omega
  have h₃ : 3 < d.chart.nodes.length := by omega
  have h₄ : 4 < d.chart.nodes.length := by omega
  -- The fourth node was laid out in two columns, the fifth in three.
  have htwo : columnCount (max 4 (3 + 1)) = 2 := by decide +kernel
  have hthree : columnCount (max 4 (4 + 1)) = 3 := by decide +kernel
  have hfourth := h.corner_eq hle h₃
  have hfifth := h.corner_eq hle h₄
  rw [htwo] at hfourth
  rw [hthree] at hfifth
  exact ⟨hg, hids, h₃, h₄, Prod.mk.inj hfourth, Prod.mk.inj hfifth⟩

end Document

end FlowScript
