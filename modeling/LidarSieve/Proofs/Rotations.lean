import Mathlib.Algebra.Quaternion
import Mathlib.LinearAlgebra.Matrix.Determinant.Basic
import Mathlib.LinearAlgebra.Matrix.Notation
import Mathlib.Tactic.FinCases
import Mathlib.Tactic.LinearCombination
import LidarSieve.Pose
/-!
# Poses as rotations

The matrix of a pose is computed by formulas that need only sums, differences and products, so they
can be read over any commutative ring.  There the quaternions are an algebra, and a pose with a unit
quaternion `q` maps a point `p` to `q * p * star q`, shifted (`Transform.pure_apply`).

The formulas have a one on the diagonal, which stands for the sum of the squares of the components.
With the squares in its place every entry is quadratic (`Quaternion.rotation`), and what holds of
these entries holds of every quaternion: products go to products (`Quaternion.rotation_mul`) and the
determinant is the third power of the squared length (`Quaternion.det_rotation`).
-/
set_option autoImplicit false

namespace LidarSieve

variable {K : Type} [CommRing K]

/-! ## The algebra of quaternions -/

/-- The quaternions over a ring. -/
abbrev Hamilton (K : Type) [CommRing K] : Type := QuaternionAlgebra K (-1) 0 (-1)

/-- The quaternion as a number. -/
def Quaternion.hamilton (q : Quaternion K) : Hamilton K := ⟨q.w, q.x, q.y, q.z⟩

/-- The components of a number. -/
def Quaternion.ofHamilton (a : Hamilton K) : Quaternion K := ⟨a.re, a.imI, a.imJ, a.imK⟩

/-- The point as a number without a scalar part. -/
def Triple.pure (p : Triple K) : Hamilton K := ⟨0, p.x, p.y, p.z⟩

/-- The square of the distance between two points. -/
def Triple.squaredDistance (p r : Triple K) : K :=
  (p.x - r.x) ^ 2 + (p.y - r.y) ^ 2 + (p.z - r.z) ^ 2

/-- The square of a distance is the product of the difference with its conjugate. -/
theorem Triple.coe_squaredDistance (p r : Triple K) :
    ((p.squaredDistance r : K) : Hamilton K) = (p.pure - r.pure) * star (p.pure - r.pure) := by
  ext
  · rw [QuaternionAlgebra.re_coe]
    simp [squaredDistance, pure]
    ring
  · rw [QuaternionAlgebra.imI_coe]
    simp [pure]
    ring
  · rw [QuaternionAlgebra.imJ_coe]
    simp [pure]
    ring
  · rw [QuaternionAlgebra.imK_coe]
    simp [pure]
    ring

/-- The left upper corner of a matrix, three rows of three entries. -/
def Matrix.corner (m : Matrix K) :=
  !![m.first.a, m.first.b, m.first.c;
    m.second.a, m.second.b, m.second.c;
    m.third.a, m.third.b, m.third.c]

/-! ## Quadratic entries -/

namespace Quaternion

/-- The rotation by a quaternion, with quadratic entries. -/
def rotation (q : Quaternion K) :=
  !![q.w * q.w + q.x * q.x - q.y * q.y - q.z * q.z, 2 * (q.x * q.y - q.w * q.z),
      2 * (q.x * q.z + q.w * q.y);
    2 * (q.x * q.y + q.w * q.z), q.w * q.w - q.x * q.x + q.y * q.y - q.z * q.z,
      2 * (q.y * q.z - q.w * q.x);
    2 * (q.x * q.z - q.w * q.y), 2 * (q.y * q.z + q.w * q.x),
      q.w * q.w - q.x * q.x - q.y * q.y + q.z * q.z]

theorem rotation_mul (a b : Hamilton K) :
    (ofHamilton (a * b)).rotation = (ofHamilton a).rotation * (ofHamilton b).rotation := by
  ext i j
  fin_cases i <;> fin_cases j <;>
    simp [rotation, ofHamilton, Matrix.mul_apply, Fin.sum_univ_three] <;> ring

theorem rotation_star (a : Hamilton K) :
    (ofHamilton (star a)).rotation = (ofHamilton a).rotation.transpose := by
  ext i j
  fin_cases i <;> fin_cases j <;> simp [rotation, ofHamilton] <;> ring

theorem det_rotation (q : Quaternion K) : q.rotation.det = q.squaredNorm ^ 3 := by
  simp [Matrix.det_fin_three, rotation, squaredNorm]
  ring

/-- The squared length of a product is the product of the squared lengths. -/
theorem squaredNorm_mul (a b : Hamilton K) :
    (ofHamilton (a * b)).squaredNorm = (ofHamilton a).squaredNorm * (ofHamilton b).squaredNorm := by
  simp [squaredNorm, ofHamilton]
  ring

section Unit

variable {q : Quaternion K} (unit : q.squaredNorm = 1)

include unit

theorem star_hamilton_mul_self : star q.hamilton * q.hamilton = 1 := by
  unfold squaredNorm at unit
  ext
  · simp only [hamilton, QuaternionAlgebra.re_mul, QuaternionAlgebra.re_star,
      QuaternionAlgebra.imI_star, QuaternionAlgebra.imJ_star, QuaternionAlgebra.imK_star,
      QuaternionAlgebra.re_one]
    linear_combination unit
  all_goals
    simp [hamilton]
    ring

/-- The inverse of a rotation is its transpose. -/
theorem transpose_mul_rotation : q.rotation.transpose * q.rotation = 1 := by
  have product := rotation_mul (star q.hamilton) q.hamilton
  rw [rotation_star, star_hamilton_mul_self unit] at product
  rw [show q.rotation = (ofHamilton q.hamilton).rotation from rfl, ← product]
  ext i j
  fin_cases i <;> fin_cases j <;> simp [rotation, ofHamilton]

end Unit

end Quaternion

/-! ## Poses -/

namespace Pose

variable {q : Quaternion K} (unit : q.squaredNorm = 1) (shift : Triple K)

include unit

/-- The corner of the matrix of a pose with a unit quaternion is the rotation by the quaternion. -/
theorem corner_matrix : (Pose.mk shift q).matrix.corner = q.rotation := by
  unfold Quaternion.squaredNorm at unit
  ext i j
  fin_cases i <;> fin_cases j <;>
    simp [Pose.matrix, Matrix.corner, Quaternion.rotation] <;>
    linear_combination -unit

end Pose

namespace Transform

variable {q : Quaternion K} (unit : q.squaredNorm = 1) (frame : String) (shift : Triple K)

include unit

/-- The image of a point is the number that the quaternion and its conjugate are multiplied with,
shifted. -/
theorem pure_apply (p : Triple K) :
    ((ofPose frame ⟨shift, q⟩).apply p).pure =
      q.hamilton * p.pure * star q.hamilton + shift.pure := by
  unfold Quaternion.squaredNorm at unit
  ext
  · simp [ofPose, apply, Pose.matrix, Matrix.apply, Row.apply, Triple.pure, Quaternion.hamilton]
    ring
  · simp [ofPose, apply, Pose.matrix, Matrix.apply, Row.apply, Triple.pure, Quaternion.hamilton]
    linear_combination -p.x * unit
  · simp [ofPose, apply, Pose.matrix, Matrix.apply, Row.apply, Triple.pure, Quaternion.hamilton]
    linear_combination -p.y * unit
  · simp [ofPose, apply, Pose.matrix, Matrix.apply, Row.apply, Triple.pure, Quaternion.hamilton]
    linear_combination -p.z * unit

/-- Distances between points are kept. -/
theorem squaredDistance_apply (p s : Triple K) :
    ((ofPose frame ⟨shift, q⟩).apply p).squaredDistance ((ofPose frame ⟨shift, q⟩).apply s) =
      p.squaredDistance s := by
  have left := Quaternion.star_hamilton_mul_self unit
  have right : q.hamilton * star q.hamilton = 1 := by
    rw [← star_comm_self', left]
  have difference :
      ((ofPose frame ⟨shift, q⟩).apply p).pure - ((ofPose frame ⟨shift, q⟩).apply s).pure =
        q.hamilton * (p.pure - s.pure) * star q.hamilton := by
    rw [pure_apply unit frame shift, pure_apply unit frame shift, add_sub_add_right_eq_sub,
      ← sub_mul, ← mul_sub]
  apply QuaternionAlgebra.coe_injective
  rw [Triple.coe_squaredDistance, difference, star_mul, star_mul, star_star]
  -- What is in the middle is one, and what is left around the distance commutes with it.
  calc q.hamilton * (p.pure - s.pure) * star q.hamilton *
        (q.hamilton * (star (p.pure - s.pure) * star q.hamilton))
      = q.hamilton * (p.pure - s.pure) * (star q.hamilton * q.hamilton) *
          (star (p.pure - s.pure) * star q.hamilton) := by simp only [mul_assoc]
    _ = q.hamilton * ((p.pure - s.pure) * star (p.pure - s.pure)) * star q.hamilton := by
        rw [left, mul_one]
        simp only [mul_assoc]
    _ = p.squaredDistance s := by
        rw [← Triple.coe_squaredDistance, ← QuaternionAlgebra.coe_commutes, mul_assoc, right,
          mul_one]

end Transform

/-- Over every commutative ring, for unit quaternions and any shifts:

* the transform of a pose leads into its frame, and multiplies a point with the quaternion and its
  conjugate, and shifts it;
* the corner of the matrix is orthogonal and its determinant is one, and the transform keeps
  distances between points;
* the corner for a product of quaternions is the product of the corners. -/
theorem Transform.ofPose_rotates {q r : Quaternion K} (unit : q.squaredNorm = 1)
    (unit' : r.squaredNorm = 1) (frame : String) (shift shift' shift'' : Triple K) :
    ((ofPose frame ⟨shift, q⟩).frame = frame ∧
      ∀ p, ((ofPose frame ⟨shift, q⟩).apply p).pure =
        q.hamilton * p.pure * star q.hamilton + shift.pure) ∧
    ((Pose.mk shift q).matrix.corner.transpose * (Pose.mk shift q).matrix.corner = 1 ∧
      (Pose.mk shift q).matrix.corner.det = 1) ∧
    (∀ p s, ((ofPose frame ⟨shift, q⟩).apply p).squaredDistance
      ((ofPose frame ⟨shift, q⟩).apply s) = p.squaredDistance s) ∧
    (Pose.mk shift'' (.ofHamilton (q.hamilton * r.hamilton))).matrix.corner =
      (Pose.mk shift q).matrix.corner * (Pose.mk shift' r).matrix.corner := by
  have product : (Quaternion.ofHamilton (q.hamilton * r.hamilton)).squaredNorm = 1 := by
    rw [Quaternion.squaredNorm_mul]
    change q.squaredNorm * r.squaredNorm = 1
    rw [unit, unit', mul_one]
  refine ⟨⟨rfl, pure_apply unit frame shift⟩, ⟨?_, ?_⟩, squaredDistance_apply unit frame shift, ?_⟩
  · rw [Pose.corner_matrix unit]
    exact Quaternion.transpose_mul_rotation unit
  · rw [Pose.corner_matrix unit, Quaternion.det_rotation, unit, one_pow]
  · rw [Pose.corner_matrix product, Pose.corner_matrix unit, Pose.corner_matrix unit']
    exact Quaternion.rotation_mul q.hamilton r.hamilton

/-- A third of a turn around the diagonal of the axes. -/
def thirdTurn : Quaternion ℚ := ⟨1 / 2, 1 / 2, 1 / 2, 1 / 2⟩

/-- A turn around the second axis whose sine and cosine are rational. -/
def slantedTurn : Quaternion ℚ := ⟨3 / 5, 0, 4 / 5, 0⟩

theorem thirdTurn_rotates :
    thirdTurn.squaredNorm = 1 ∧ slantedTurn.squaredNorm = 1 ∧
      ((Transform.ofPose "base" ⟨⟨1, 2, 3⟩, thirdTurn⟩).apply ⟨1, 0, 0⟩).pure =
        (⟨1, 3, 3⟩ : Triple ℚ).pure ∧
      (Pose.mk ⟨1, 2, 3⟩ thirdTurn).matrix.corner.det = 1 ∧
      (Pose.mk ⟨0, 0, 0⟩ (.ofHamilton (thirdTurn.hamilton * slantedTurn.hamilton))).matrix.corner =
        (Pose.mk ⟨1, 2, 3⟩ thirdTurn).matrix.corner *
          (Pose.mk ⟨0, 0, 0⟩ slantedTurn).matrix.corner := by
  have unit : thirdTurn.squaredNorm = 1 := by norm_num [Quaternion.squaredNorm, thirdTurn]
  have unit' : slantedTurn.squaredNorm = 1 := by norm_num [Quaternion.squaredNorm, slantedTurn]
  obtain ⟨⟨-, image⟩, ⟨-, determinant⟩, -, product⟩ :=
    Transform.ofPose_rotates unit unit' "base" ⟨1, 2, 3⟩ ⟨0, 0, 0⟩ ⟨0, 0, 0⟩
  refine ⟨unit, unit', ?_, determinant, product⟩
  rw [image]
  ext <;> norm_num [thirdTurn, Quaternion.hamilton, Triple.pure]

end LidarSieve
