import LidarSieve.Binary.Arithmetic
/-!
# Poses

Where a frame stands in another one: a shift and a rotation, the rotation given by a
quaternion.  A pose is turned into a matrix of four rows and four columns, and points are
mapped by the matrix.

The formulas need only sums, differences and products, so they are stated over any type
that has these; the library computes with them over four-byte words.
-/
set_option autoImplicit false

namespace LidarSieve

open LidarSieve.Binary

/-- Three coordinates. -/
structure Triple (α : Type) where
  x : α
  y : α
  z : α
  deriving DecidableEq, Repr

/-- A scalar and three coordinates. -/
structure Quaternion (α : Type) where
  w : α
  x : α
  y : α
  z : α
  deriving DecidableEq, Repr

/-- Four entries of a matrix. -/
structure Row (α : Type) where
  a : α
  b : α
  c : α
  d : α
  deriving DecidableEq, Repr

/-- Four rows of four entries. -/
structure Matrix (α : Type) where
  first : Row α
  second : Row α
  third : Row α
  fourth : Row α
  deriving DecidableEq, Repr

/-- A rotation followed by a shift. -/
structure Pose (α : Type) where
  shift : Triple α
  rotation : Quaternion α
  deriving DecidableEq, Repr

/-- A map into another frame; over four-byte words, unless another type is named. -/
structure Transform (α : Type := Single) where
  frame : String
  matrix : Matrix α
  deriving DecidableEq

/-! ## Formulas -/

section Formulas

variable {α : Type} [Add α] [Sub α] [Mul α] [OfNat α 0] [OfNat α 1] [OfNat α 2]

/-- The entries of a row, from left to right. -/
def Row.toList (r : Row α) : List α := [r.a, r.b, r.c, r.d]

/-- The entries of a matrix, row by row. -/
def Matrix.toList (m : Matrix α) : List α :=
  m.first.toList ++ m.second.toList ++ m.third.toList ++ m.fourth.toList

/-- No rotation. -/
def Quaternion.identity : Quaternion α := ⟨1, 0, 0, 0⟩

/-- The sum of the squares of the components. -/
def Quaternion.squaredNorm (q : Quaternion α) : α := q.w * q.w + q.x * q.x + q.y * q.y + q.z * q.z

/-- The matrix of a pose: the rotation in the left upper corner, the shift in the last
column. -/
def Pose.matrix (p : Pose α) : Matrix α :=
  let ⟨w, x, y, z⟩ := p.rotation
  { first := ⟨1 - 2 * (y * y + z * z), 2 * (x * y - w * z), 2 * (x * z + w * y), p.shift.x⟩
    second := ⟨2 * (x * y + w * z), 1 - 2 * (x * x + z * z), 2 * (y * z - w * x), p.shift.y⟩
    third := ⟨2 * (x * z - w * y), 2 * (y * z + w * x), 1 - 2 * (x * x + y * y), p.shift.z⟩
    fourth := ⟨0, 0, 0, 1⟩ }

/-- The product of a row with a point whose fourth coordinate is one. -/
def Row.apply (r : Row α) (p : Triple α) : α := r.a * p.x + r.b * p.y + r.c * p.z + r.d * 1

/-- The image of a point; the fourth coordinate is left out. -/
def Matrix.apply (m : Matrix α) (p : Triple α) : Triple α :=
  ⟨m.first.apply p, m.second.apply p, m.third.apply p⟩

/-- The transform of a pose. -/
def Transform.ofPose (frame : String) (pose : Pose α) : Transform α := ⟨frame, pose.matrix⟩

/-- The image of a point. -/
def Transform.apply (t : Transform α) (p : Triple α) : Triple α := t.matrix.apply p

end Formulas

/-! ## Unit quaternions -/

/-- The least difference between one and a greater word: `2 ^ -23`. -/
def epsilon : Single := 1 / Number.ofNat 8388608

/-- The quaternion divided by its length.  One that is too short to have a direction
becomes the identity. -/
def Quaternion.normalized (q : Quaternion Single) : Quaternion Single :=
  let length := q.squaredNorm.sqrt
  if length ≤ epsilon then .identity
  else ⟨q.w / length, q.x / length, q.y / length, q.z / length⟩

end LidarSieve
