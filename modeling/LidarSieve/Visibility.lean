import LidarSieve.Region
/-!
# Visibility

A grid with one row for each ring and `sectors` columns counts the returns of a region.  A
cell with more returns than a threshold is filled; the score is the share of cells that
are not filled.  Counts stop at 255.

The cells have to fit in a buffer (`maxBuffer`), or there is no grid.
-/
set_option autoImplicit false

namespace LidarSieve

open LidarSieve.Binary

/-- Columns of the grid. -/
def sectors : Nat := 36

/-- What a filled cell holds. -/
def filledCell : UInt8 := 255

/-- How the grid is built. -/
structure Grid where
  rows : UInt64
  threshold : UInt8
  region : Region
  deriving DecidableEq

/-- The grid of a scan, and its score. -/
structure Visibility where
  header : Header
  rows : UInt64
  columns : Nat
  /-- Row after row, `filledCell` or zero. -/
  cells : Array UInt8
  filled : Nat
  /-- The share of cells that are not filled. -/
  score : Single
  deriving DecidableEq

namespace Visibility

/-- The cell of a row and column. -/
def cell? (v : Visibility) (row column : Nat) : Option UInt8 := v.cells[row * v.columns + column]?

end Visibility

namespace Grid

/-- How many cells the grid has. -/
def size (grid : Grid) : Nat := grid.rows.toNat * sectors

/-- The width of a sector, in hundredths of a degree. -/
def resolution (grid : Grid) : Single :=
  (grid.region.azimuthRange.2 - grid.region.azimuthRange.1) / Number.ofNat sectors

/-- The ring of the return has no row. -/
def isBeyondRows (grid : Grid) (r : Return) : Bool := decide (grid.rows.toNat ≤ r.ring)

/-- The direction of a return; one below zero counts as zero. -/
def direction (r : Return) : Single := r.azimuth.maximum 0

/-- The return counts: its ring has a row, its direction is a number in the range of the
region, and the region accepts it. -/
def counts (grid : Grid) (r : Return) : Bool :=
  !grid.isBeyondRows r && r.azimuth.isFinite &&
    !(direction r).lt grid.region.azimuthRange.1 && !grid.region.azimuthRange.2.lt (direction r) &&
    grid.region.accepts r

/-- The column of a return that counts; the end of the range belongs to the last column. -/
def column (grid : Grid) (r : Return) : Nat :=
  min (((direction r - grid.region.azimuthRange.1) / grid.resolution).truncate sizeBound)
    (sectors - 1)

/-- The index of the cell of a return that counts. -/
def index (grid : Grid) (r : Return) : Nat := r.ring * sectors + grid.column r

/-- One more, up to 255. -/
def saturatingIncrement (count : UInt8) : UInt8 := if count = 255 then count else count + 1

/-- Counts the returns one after the other into cells that are already there. -/
def tally (grid : Grid) : List Return → Array UInt8 → Array UInt8
  | [], cells => cells
  | r :: rest, cells =>
    if grid.counts r then tally grid rest (cells.modify (grid.index r) saturatingIncrement)
    else tally grid rest cells

/-- A return that counts has a cell. -/
theorem index_lt_size (grid : Grid) (r : Return) (counted : grid.counts r = true) :
    grid.index r < grid.size := by
  have inside : r.ring < grid.rows.toNat := by
    simp only [counts, isBeyondRows, Bool.and_eq_true, Bool.not_eq_true',
      decide_eq_false_iff_not] at counted
    omega
  unfold index size column sectors
  omega

/-- The counts of all cells, row after row, if there is a buffer for them. -/
def counts? (grid : Grid) (returns : Array Return) : Option (Array UInt8) :=
  if maxBuffer < grid.size then none
  else some (grid.tally returns.toList (Array.replicate grid.size 0))

/-- What counting reports: the number of returns whose ring has no row, if there are any. -/
def events (grid : Grid) (returns : Array Return) : List Event :=
  let points := returns.countP grid.isBeyondRows
  if points = 0 then [] else [.rowsExceeded points grid.rows.toNat]

/-- The share of cells that are not filled; a grid without cells is fully visible. -/
def score (filled total : Nat) : Single :=
  if total = 0 then 1
  else (1 - Number.ofNat filled / Number.ofNat total : Single).clamp 0 1

/-- The grid of a scan, if there is a buffer for its cells. -/
def evaluate? (grid : Grid) (header : Header) (returns : Array Return) : Option Visibility := do
  let counts ← grid.counts? returns
  let cells := counts.map fun count => if grid.threshold < count then filledCell else 0
  let filled := cells.countP (· == filledCell)
  return {
    header
    rows := grid.rows
    columns := sectors
    cells
    filled
    score := score filled cells.size }

end Grid

end LidarSieve
