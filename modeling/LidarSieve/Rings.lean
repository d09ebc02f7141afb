import LidarSieve.Scan
import LidarSieve.Event
/-!
# Rings

The records of a scan, sorted by the ring of the sensor that received them.  Each ring
keeps the order of the scan and holds at most `capacity` records.  Records whose ring
number is not below the number of rings are skipped, and records that find their ring
full are dropped; both are counted.
-/
set_option autoImplicit false

namespace LidarSieve

/-- Record indices by ring number. -/
structure Rings where
  buckets : Array (Array Nat)
  deriving DecidableEq, Repr

/-- Records that no ring holds. -/
structure Unplaced where
  /-- Records whose ring number is out of range. -/
  skipped : Nat
  /-- Records whose ring was full. -/
  dropped : Nat
  deriving DecidableEq, Repr

/-- Rings under construction, and what did not find a place in them so far. -/
structure Placement where
  rings : Rings
  unplaced : Unplaced
  /-- Ring number of the first record that was skipped. -/
  firstSkipped : Option Nat
  /-- Ring number of the first record that was dropped. -/
  firstDropped : Option Nat
  deriving DecidableEq, Repr

namespace Rings

/-- How many rings there are. -/
def count (rings : Rings) : Nat := rings.buckets.size

/-- The record indices of a ring; a ring that does not exist has none. -/
def ring (rings : Rings) (number : Nat) : Array Nat := rings.buckets.getD number #[]

/-- How many records the rings hold. -/
def size (rings : Rings) : Nat := (rings.buckets.toList.map Array.size).foldr (· + ·) 0

/-- The rings hold no record. -/
def isEmpty (rings : Rings) : Bool := rings.size == 0

/-- Rings without records. -/
def empty (count : Nat) : Rings := ⟨Array.replicate count #[]⟩

end Rings

namespace Placement

/-- Before any record is placed. -/
def start (count : Nat) : Placement := ⟨.empty count, ⟨0, 0⟩, none, none⟩

/-- Places one record. -/
def place (capacity : Nat) (p : Placement) (index ring : Nat) : Placement :=
  match p.rings.buckets[ring]? with
  | none =>
    { p with
      unplaced := { p.unplaced with skipped := p.unplaced.skipped + 1 }
      firstSkipped := p.firstSkipped.or (some ring) }
  | some bucket =>
    if capacity ≤ bucket.size then
      { p with
        unplaced := { p.unplaced with dropped := p.unplaced.dropped + 1 }
        firstDropped := p.firstDropped.or (some ring) }
    else { p with rings := ⟨p.rings.buckets.modify ring (·.push index)⟩ }

/-- Places records one after the other, the first of them under the given index. -/
def placeFrom (capacity : Nat) : Nat → List Return → Placement → Placement
  | _, [], p => p
  | index, r :: rest, p => placeFrom capacity (index + 1) rest (p.place capacity index r.ring)

/-- What placing reports: one warning if a record was skipped, and one if a record was
dropped. -/
def events (p : Placement) (count capacity : Nat) : List Event :=
  (p.firstSkipped.map fun ring => Event.ringsSkipped p.unplaced.skipped ring count).toList ++
    (p.firstDropped.map fun ring => Event.ringsFull p.unplaced.dropped ring capacity).toList

end Placement

/-- Sorts the returns of a scan into `count` rings of at most `capacity` records. -/
def Rings.build (count capacity : Nat) (returns : Array Return) : Placement :=
  Placement.placeFrom capacity 0 returns.toList (.start count)

end LidarSieve
