import FlowScript.Chart.Basic

/-!
# The grid

Until a node is moved it stands in a cell of a grid that is as wide as the
square root of the number of nodes, rounded up. The cells are filled row by
row. Whole measures give whole coordinates; an integer that is too large to
meet a float is a fault.
-/

namespace FlowScript

/-- The measures of a grid. -/
structure Grid where
  /-- The width of a cell. -/
  cellWidth : Number := .float 160
  /-- The height of a cell. -/
  cellHeight : Number := .float 60
  /-- The space between columns. -/
  gapX : Number := .float 60
  /-- The space between rows. -/
  gapY : Number := .float 40
  /-- The left end of the first cell. -/
  originX : Number := .float 0
  /-- The upper end of the first cell. -/
  originY : Number := .float 0

namespace Grid

/-- The number of columns for `count` nodes: at least one, and otherwise the
    square root of the nearest float, rounded up. -/
def columns (count : Int) : Except Fault Nat :=
  let rounded := Binary64.nearest count.natAbs
  if Nat.pow 2 1024 ≤ rounded then .error .tooLarge
  else if count < 0 then .error .negativeCount
  else .ok (max 1 (Binary64.ceilSqrt rounded))

/-- The start of the cell at `place` on an axis: as many steps of a cell and a
    gap from the origin. -/
def offset (origin cell gap : Number) (place : Int) : Except Fault Number :=
  let result := do
    let step ← cell.add? gap
    let way ← (Number.int place).mul? step
    origin.add? way
  match result with
  | some n => .ok n
  | none => .error .tooLarge

/-- The upper left corner of the cell with the number `index` of `count`. -/
def cell (g : Grid) (index count : Int) : Except Fault (Number × Number) := do
  let columns ← columns count
  let x ← offset g.originX g.cellWidth g.gapX (index.fmod columns)
  let y ← offset g.originY g.cellHeight g.gapY (index.fdiv columns)
  return (x, y)

/-- The node in its cell. -/
def place (g : Grid) (n : Node) (index count : Int) : Except Fault Node := do
  let (x, y) ← g.cell index count
  return { n with x := some x, y := some y, width := some g.cellWidth, height := some g.cellHeight }

/-- The nodes in their cells, the first of which is `index`. At a fault the
    nodes from that one on stay where they are. -/
def placeFrom (g : Grid) (count : Nat) : (index : Nat) → List Node → List Node × Option Fault
  | _, [] => ([], none)
  | index, n :: rest =>
    match g.place n index count with
    | .error fault => (n :: rest, some fault)
    | .ok placed =>
      let (rest, fault) := g.placeFrom count (index + 1) rest
      (placed :: rest, fault)

/-- The chart with its nodes in their cells, and the fault at which that ended,
    if any. -/
def arrange (g : Grid) (c : Chart) : Chart × Option Fault :=
  let (nodes, fault) := g.placeFrom c.nodes.length 0 c.nodes
  ({ c with nodes }, fault)

end Grid

end FlowScript
