import LidarSieve.Scan
import LidarSieve.Binary.Arithmetic
/-!
# Walks

A walk is a longest run of neighbours in a ring that continue each other: their ranges are
similar, and the second lies less than one degree further round than the first.  The walks
of a ring follow each other without a gap; a ring of fewer than two records has none.
-/
set_option autoImplicit false

namespace LidarSieve

open LidarSieve.Binary

/-- The positions of a ring from `first` to `last`, both included. -/
structure Walk where
  first : Nat
  last : Nat
  deriving DecidableEq, Repr

namespace Walk

/-- How many positions the walk has. -/
def size (walk : Walk) : Nat := walk.last + 1 - walk.first

/-- How many positions the walk has, if it does not end in front of its start and the number
is a size. -/
def size? (walk : Walk) : Option Nat :=
  if walk.first ≤ walk.last ∧ walk.size < sizeBound then some walk.size else none

/-- The positions of the walk in order. -/
def positions (walk : Walk) : List Nat := List.range' walk.first walk.size

/-- The positions of the walk in order, as far as the first one that a ring of `length`
records does not have.  What comes behind that one does not matter to anybody who takes the
records in order, and a walk may end far outside its ring. -/
def positionsWithin (walk : Walk) (length : Nat) : List Nat :=
  List.range' walk.first (min walk.size (length - walk.first + 1))

/-- A walk inside its ring loses no position. -/
theorem positionsWithin_of_last_lt (walk : Walk) (length : Nat) (inside : walk.last < length) :
    walk.positionsWithin length = walk.positions := by
  unfold positionsWithin positions size
  congr 1
  omega

/-- Walks of the given sizes one after the other, the first of them at position `start`. -/
def consecutive : Nat → List Nat → List Walk
  | _, [] => []
  | start, size :: rest => ⟨start, start + size - 1⟩ :: consecutive (start + size) rest

end Walk

/-! ## Continuity -/

/-- A full turn in hundredths of a degree. -/
def fullTurn : Single := 36000

/-- The step round, in hundredths of a degree, at which neighbours stop being continuous. -/
def azimuthLimit : Single := 100

/-- How far `next` lies further round than `current`; a step back counts as a step across
the end of the turn. -/
def azimuthGap (current next : Single) : Single :=
  let step := next - current
  if step < 0 then step + fullTurn else step

/-- The greater of two ranges is less than `ratio` times the lesser. -/
def rangesSimilar (ratio a b : Single) : Bool := (a.maximum b).lt (a.minimum b * ratio)

/-- The second return continues the walk of the first. -/
def continues (ratio : Single) (current next : Return) : Bool :=
  rangesSimilar ratio current.distance next.distance &&
    (azimuthGap current.azimuth next.azimuth).lt azimuthLimit

/-! ## Segmentation -/

/-- The returns of a ring cut into the longest runs of continuous neighbours. -/
def runs (ratio : Single) (ring : List Return) : List (List Return) :=
  if ring.length < 2 then [] else ring.splitBy (continues ratio)

/-- The walks of a ring. -/
def walks (ratio : Single) (ring : List Return) : List Walk :=
  Walk.consecutive 0 ((runs ratio ring).map List.length)

/-- The returns of the records that a ring lists, if they all exist.  The records of a ring
that has no walks are not looked up. -/
def ringReturns? (returns : Array Return) (ring : List Nat) : Option (List Return) :=
  if ring.length < 2 then some [] else ring.mapM (returns[·]?)

end LidarSieve
