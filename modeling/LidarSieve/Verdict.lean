import LidarSieve.Walk
/-!
# Verdicts

A walk is kept as the echo of an object when it has many returns, or when its first and
last return are far apart.  All other walks are noise.
-/
set_option autoImplicit false

namespace LidarSieve

open LidarSieve.Binary

/-- What a walk is taken for. -/
inductive Verdict where
  | cluster
  | noise
  deriving DecidableEq, Repr

namespace Verdict

/-- The name of the verdict. -/
def name : Verdict → String
  | cluster => "Cluster"
  | noise => "Noise"

end Verdict

/-- What makes a walk an object. -/
structure Criterion where
  /-- This many returns always do. -/
  points : Nat
  /-- So does this distance between the first and the last return, in metres. -/
  length : Single
  deriving DecidableEq

namespace Criterion

/-- The square of the distance between two returns. -/
def squaredSpan (first last : Return) : Single :=
  let dx := last.x - first.x
  let dy := last.y - first.y
  let dz := last.z - first.z
  dx * dx + dy * dy + dz * dz

/-- The ends of a walk are far enough apart. -/
def isLong (c : Criterion) (first last : Return) : Bool :=
  (c.length * c.length).le (squaredSpan first last)

/-- The verdict on a walk of `size` returns with these ends. -/
def judge (c : Criterion) (size : Nat) (first last : Return) : Verdict :=
  if c.points ≤ size || c.isLong first last then .cluster else .noise

/-- The verdict on a walk of a ring that lists records.  The ends of a walk are looked up
only if its size does not decide; where they do not exist there is no verdict, and none
either on a walk without a size. -/
def judge? (c : Criterion) (returns : Array Return) (ring : Array Nat) (walk : Walk) :
    Option Verdict := do
  let size ← walk.size?
  if c.points ≤ size then return .cluster
  let first ← returns[← ring[walk.first]?]?
  let last ← returns[← ring[walk.last]?]?
  return c.judge size first last

end Criterion

end LidarSieve
