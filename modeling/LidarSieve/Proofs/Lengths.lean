import LidarSieve.Proofs.Squares
import LidarSieve.Settings.Basic
/-!
# Quaternions of length one

A quaternion is normalised by its length, the root of the sum of the squares of its components.  The
words end short of `2 ^ 128`.  As long as the sum does, it is accurate
(`Quaternion.sumsSquares_squaredNorm`), so is its root (`Quaternion.abs_squaredNorm_values_sub_le`),
and as a length above `epsilon` is great enough for underflow not to matter, the quaternion that
comes out is near length one (`Quaternion.isNearUnit_normalized`).

A greater sum is an infinity.  The quotients by it are zeros, so that a mount whose rotation is that
long does not turn at all (`Quaternion.normalized_of_overflow`, `Pose.isUnturned_of_zeros`).
-/
set_option autoImplicit false

namespace LidarSieve

open LidarSieve.Binary

namespace Quaternion

/-- All components are finite. -/
structure IsFinite (q : Quaternion Single) : Prop where
  w : q.w.isFinite = true
  x : q.x.isFinite = true
  y : q.y.isFinite = true
  z : q.z.isFinite = true

/-- The numbers that the components stand for. -/
def values (q : Quaternion Single) : Quaternion ℚ := ⟨q.w.value, q.x.value, q.y.value, q.z.value⟩

/-- The components are finite, and the exact sum of their squares is one, up to a tolerance. -/
structure IsNearUnit (tolerance : ℚ) (q : Quaternion Single) : Prop where
  finite : q.IsFinite
  near : |q.values.squaredNorm - 1| ≤ tolerance

theorem IsNearUnit.mono {q : Quaternion Single} {tolerance tolerance' : ℚ}
    (unit : q.IsNearUnit tolerance) (le : tolerance ≤ tolerance') : q.IsNearUnit tolerance' :=
  ⟨unit.finite, unit.near.trans le⟩

theorem isNearUnit_identity {tolerance : ℚ} (nonneg : 0 ≤ tolerance) :
    (identity : Quaternion Single).IsNearUnit tolerance := by
  refine ⟨⟨by decide, by decide, by decide, by decide⟩, ?_⟩
  simp only [identity, values, squaredNorm, Number.value_one, Number.zero_eq, Number.value_zero]
  norm_num
  exact nonneg

/-! ## The squared length -/

/-- No component is longer than the quaternion. -/
theorem mul_self_le_squaredNorm (r : Quaternion ℚ) :
    r.w * r.w ≤ r.squaredNorm ∧ r.x * r.x ≤ r.squaredNorm ∧ r.y * r.y ≤ r.squaredNorm ∧
      r.z * r.z ≤ r.squaredNorm := by
  have w := mul_self_nonneg r.w
  have x := mul_self_nonneg r.x
  have y := mul_self_nonneg r.y
  have z := mul_self_nonneg r.z
  unfold squaredNorm
  refine ⟨?_, ?_, ?_, ?_⟩ <;> linarith

section SquaredNorm

variable {q : Quaternion Single} (finite : q.IsFinite)

include finite

theorem isUnsigned_squaredNorm : q.squaredNorm.IsUnsigned := by
  have w := Number.isUnsigned_mul_self finite.w
  have x := Number.isUnsigned_mul_self finite.x
  have y := Number.isUnsigned_mul_self finite.y
  have z := Number.isUnsigned_mul_self finite.z
  exact ((w.add x).add y).add z

/-- A finite squared length is accurate. -/
theorem sumsSquares_squaredNorm (bounded : q.squaredNorm.isFinite = true) :
    Number.SumsSquares 4 q.squaredNorm q.values.squaredNorm := by
  obtain ⟨bounded_wxy, -⟩ := Number.isFinite_of_isFinite_add bounded
  obtain ⟨bounded_wx, -⟩ := Number.isFinite_of_isFinite_add bounded_wxy
  obtain ⟨bounded_w, -⟩ := Number.isFinite_of_isFinite_add bounded_wx
  have w := Number.sumsSquares_mul_self finite.w bounded_w
  have wx := w.add_square (by decide) finite.x bounded_wx
  have wxy := wx.add_square (by decide) finite.y bounded_wxy
  exact wxy.add_square (by decide) finite.z bounded

theorem isFinite_squaredNorm (le : q.values.squaredNorm ≤ 2 ^ 127) :
    q.squaredNorm.isFinite = true := by
  have nonneg_y := mul_self_nonneg q.y.value
  have nonneg_z := mul_self_nonneg q.z.value
  have le_w := (mul_self_le_squaredNorm q.values).1.trans le
  change q.w.value * q.w.value + q.x.value * q.x.value + q.y.value * q.y.value +
    q.z.value * q.z.value ≤ 2 ^ 127 at le
  have w := Number.sumsSquares_mul_self finite.w
    (Number.isFinite_mul_self finite.w le_w)
  have wx := w.add_square (by decide) finite.x
    (w.isFinite_add_square (by decide) finite.x (by linarith))
  have wxy := wx.add_square (by decide) finite.y
    (wx.isFinite_add_square (by decide) finite.y (by linarith))
  exact wxy.isFinite_add_square (by decide) finite.z le

theorem isFinite_squaredNorm_eq_false (ge : 2 ^ 129 ≤ q.values.squaredNorm) :
    q.squaredNorm.isFinite = false := by
  by_contra bounded
  have bounded := Bool.of_not_eq_false bounded
  have near := abs_le.mp (sumsSquares_squaredNorm finite bounded).near
  have value_le := (le_abs_self _).trans (Number.abs_value_le bounded)
  push_cast at near
  linarith

end SquaredNorm

/-! ## Quotients by a length -/

/-- The components divided by one and the same number. -/
def dividedBy {α : Type} [Div α] (q : Quaternion α) (n : α) : Quaternion α :=
  ⟨q.w / n, q.x / n, q.y / n, q.z / n⟩

theorem squaredNorm_dividedBy (r : Quaternion ℚ) (n : ℚ) :
    (r.dividedBy n).squaredNorm = r.squaredNorm / (n * n) := by
  unfold dividedBy squaredNorm
  simp only [div_mul_div_comm, ← add_div]

section Quotients

variable {q : Quaternion Single} {n : Single} (finite : q.IsFinite) (finite' : n.isFinite = true)
  (nonzero : n.isZero = false) (le : q.values.squaredNorm ≤ 4 * (n.value * n.value))

include finite finite' nonzero le

/-- A quaternion of at most twice the length has finite quotients. -/
theorem isFinite_dividedBy : (q.dividedBy n).IsFinite := by
  obtain ⟨w, x, y, z⟩ := mul_self_le_squaredNorm q.values
  exact ⟨Number.isFinite_div finite.w finite' nonzero (w.trans le),
    Number.isFinite_div finite.x finite' nonzero (x.trans le),
    Number.isFinite_div finite.y finite' nonzero (y.trans le),
    Number.isFinite_div finite.z finite' nonzero (z.trans le)⟩

/-- The squared length of the quotients is near the one of the exact quotients. -/
theorem abs_squaredNorm_dividedBy_sub_le :
    |(q.dividedBy n).values.squaredNorm - (q.values.dividedBy n.value).squaredNorm| ≤
      3 / 2 ^ 24 * (q.values.dividedBy n.value).squaredNorm + 20 / 2 ^ 150 := by
  obtain ⟨w, x, y, z⟩ := mul_self_le_squaredNorm q.values
  have near_w := abs_le.mp
    (Number.abs_div_mul_self_sub_le finite.w finite' nonzero (w.trans le))
  have near_x := abs_le.mp
    (Number.abs_div_mul_self_sub_le finite.x finite' nonzero (x.trans le))
  have near_y := abs_le.mp
    (Number.abs_div_mul_self_sub_le finite.y finite' nonzero (y.trans le))
  have near_z := abs_le.mp
    (Number.abs_div_mul_self_sub_le finite.z finite' nonzero (z.trans le))
  unfold dividedBy values squaredNorm
  rw [abs_le]
  constructor
  · linarith
  · linarith

end Quotients

/-! ## Normalised quaternions -/

theorem value_epsilon : epsilon.value = 1 / 2 ^ 23 := by
  rw [Number.value_of_quanta (q := 2 ^ 126) (by decide)]
  norm_num

section Length

variable {q : Quaternion Single} (finite : q.IsFinite) (long : ¬ q.squaredNorm.sqrt ≤ epsilon)

theorem normalized_of_short (short : q.squaredNorm.sqrt ≤ epsilon) : q.normalized = identity := by
  unfold normalized
  exact if_pos short

include long

theorem normalized_of_long :
    q.normalized = q.dividedBy q.squaredNorm.sqrt := by
  unfold normalized
  exact if_neg long

include finite

theorem isZero_squaredNorm : q.squaredNorm.isZero = false := by
  by_contra zero
  have zero := Bool.of_not_eq_false zero
  have root : q.squaredNorm.sqrt = q.squaredNorm := by
    unfold Number.sqrt
    rw [(isUnsigned_squaredNorm finite).isNaN, zero]
    simp
  refine long ?_
  rw [root, Number.le_iff]
  have magnitude : q.squaredNorm.magnitude = 0 := of_decide_eq_true zero
  have key : q.squaredNorm.key = 0 := by
    simp [Number.key, magnitude]
  rw [key]
  exact ⟨(isUnsigned_squaredNorm finite).isNaN, by decide, by decide⟩

variable (bounded : q.squaredNorm.isFinite = true)

include bounded

theorem isFinite_length : q.squaredNorm.sqrt.isFinite = true :=
  Number.isFinite_sqrt (isUnsigned_squaredNorm finite) bounded (isZero_squaredNorm finite long)

theorem lt_value_length : 1 / 2 ^ 23 < q.squaredNorm.sqrt.value := by
  have finite_length := isFinite_length finite long bounded
  rw [← value_epsilon, Number.value_lt_value_iff (by decide) finite_length]
  exact Number.lt_of_not_le (Number.isNaN_of_isFinite finite_length) (by decide) long

/-- The square of the length is near the exact sum of the squares. -/
theorem abs_squaredNorm_values_sub_le :
    |q.values.squaredNorm - q.squaredNorm.sqrt.value * q.squaredNorm.sqrt.value| ≤
      22 / 2 ^ 24 * (q.squaredNorm.sqrt.value * q.squaredNorm.sqrt.value) := by
  have large := lt_value_length finite long bounded
  have sum := sumsSquares_squaredNorm finite bounded
  have near := abs_le.mp sum.near
  have root := abs_le.mp (Number.abs_sqrt_mul_self_sub_le sum.unsigned bounded
    (isZero_squaredNorm finite long) large.le)
  have square := mul_self_le_mul_self (by norm_num) large.le
  push_cast at near
  rw [abs_le]
  constructor
  · linarith
  · linarith

end Length

/-- Short of an overflow, what comes out is near length one. -/
theorem isNearUnit_normalized {q : Quaternion Single} (finite : q.IsFinite)
    (bounded : q.squaredNorm.isFinite = true) : q.normalized.IsNearUnit (1 / 2 ^ 19) := by
  by_cases long : q.squaredNorm.sqrt ≤ epsilon
  · rw [normalized_of_short long]
    exact isNearUnit_identity (by norm_num)
  have finite_length := isFinite_length finite long bounded
  have large := lt_value_length finite long bounded
  have near := abs_squaredNorm_values_sub_le finite long bounded
  have nonzero : q.squaredNorm.sqrt.isZero = false := by
    by_contra zero
    have value_eq := Number.value_of_isZero (Bool.of_not_eq_false zero)
    linarith
  rw [normalized_of_long long]
  generalize q.squaredNorm.sqrt = n at *
  have positive : 0 < n.value * n.value := mul_self_pos.mpr (by linarith)
  have le : q.values.squaredNorm ≤ 4 * (n.value * n.value) := by
    have above := (abs_le.mp near).2
    linarith
  refine ⟨isFinite_dividedBy finite finite_length nonzero le, ?_⟩
  have accurate := abs_le.mp (abs_squaredNorm_dividedBy_sub_le finite finite_length nonzero le)
  -- The exact quotients by the length are near a unit.
  have near_one : |(q.values.dividedBy n.value).squaredNorm - 1| ≤ 22 / 2 ^ 24 := by
    rw [squaredNorm_dividedBy, ← div_self positive.ne', ← sub_div, abs_div, abs_of_pos positive,
      div_le_iff₀ positive]
    exact near
  have near_one := abs_le.mp near_one
  rw [abs_le]
  constructor
  · linarith
  · linarith

/-! ## Overflow -/

/-- What is divided by an infinity is a zero. -/
theorem div_infinity {c : Single} (finite : c.isFinite = true) :
    c / Number.infinity false = Number.zero c.negative := by
  have number : (Number.infinity false : Single).isNaN = false := by decide
  have infinite : (Number.infinity false : Single).isInfinite = true := by decide
  have sign : (Number.infinity false : Single).negative = false := rfl
  change Number.div c (Number.infinity false) = _
  unfold Number.div
  simp [Number.isNaN_of_isFinite finite, Number.isInfinite_of_isFinite finite, number, infinite,
    sign]

/-- The quaternion that comes out of an overflow has no direction. -/
theorem normalized_of_overflow {q : Quaternion Single} (finite : q.IsFinite)
    (overflow : q.squaredNorm.isFinite = false) :
    q.normalized = ⟨.zero q.w.negative, .zero q.x.negative, .zero q.y.negative,
      .zero q.z.negative⟩ := by
  have root : (Number.infinity false : Single).sqrt = Number.infinity false := by decide
  have length : q.squaredNorm.sqrt = Number.infinity false := by
    rw [(isUnsigned_squaredNorm finite).eq_infinity overflow, root]
  have long : ¬ q.squaredNorm.sqrt ≤ epsilon := by
    rw [length]
    decide
  rw [normalized_of_long long, length, dividedBy, div_infinity finite.w, div_infinity finite.x,
    div_infinity finite.y, div_infinity finite.z]

theorem not_isNearUnit_zeros {tolerance : ℚ} (below : tolerance < 1) (a b c d : Bool) :
    ¬ (⟨.zero a, .zero b, .zero c, .zero d⟩ : Quaternion Single).IsNearUnit tolerance := by
  intro unit
  have near := unit.near
  simp only [values, squaredNorm, Number.value_zero] at near
  norm_num at near
  linarith

end Quaternion

/-- The corner of the matrix is the identity, up to the signs of its zeros. -/
structure Matrix.IsUnturned (m : Matrix Single) : Prop where
  diagonal : m.first.a = 1 ∧ m.second.b = 1 ∧ m.third.c = 1
  elsewhere : ∀ entry ∈ [m.first.b, m.first.c, m.second.a, m.second.c, m.third.a, m.third.b],
    entry.isZero = true

/-- A quaternion without a direction turns nothing. -/
theorem Pose.isUnturned_of_zeros (shift : Triple Single) (a b c d : Bool) :
    (Pose.mk shift ⟨.zero a, .zero b, .zero c, .zero d⟩).matrix.IsUnturned := by
  have one : ∀ a b : Bool,
      (1 - 2 * (.zero a * .zero a + .zero b * .zero b) : Single) = 1 := by decide
  have sum : ∀ a b c d : Bool,
      (2 * (.zero a * .zero b + .zero c * .zero d) : Single).isZero = true := by decide
  have difference : ∀ a b c d : Bool,
      (2 * (.zero a * .zero b - .zero c * .zero d) : Single).isZero = true := by decide
  refine ⟨⟨one c d, one b d, one b c⟩, ?_⟩
  simp [Pose.matrix, sum, difference]

/-- A quaternion of finite components is near length one when it is normalised, exactly if the sum of
the squares of the components, as it is computed, is finite.  It is if the exact sum is at most
`2 ^ 127`, and is not if that is `2 ^ 129` or more.

* If the sum is finite, the transform of a mount is that of a quaternion near length one.
* If it is not, all components become zeros, and the mount does not turn. -/
theorem Quaternion.normalized_by_length {q : Quaternion Single} (finite : q.IsFinite) :
    (q.normalized.IsNearUnit (1 / 1000) ↔ q.squaredNorm.isFinite = true) ∧
    (q.values.squaredNorm ≤ 2 ^ 127 → q.squaredNorm.isFinite = true) ∧
    (2 ^ 129 ≤ q.values.squaredNorm → q.squaredNorm.isFinite = false) ∧
    (q.squaredNorm.isFinite = true → ∀ frame shift, ∃ unit : Quaternion Single,
      unit.IsNearUnit (1 / 1000) ∧
        (Mount.mk frame shift q).transform = .ofPose frame ⟨shift, unit⟩) ∧
    (q.squaredNorm.isFinite = false →
      q.normalized = ⟨.zero q.w.negative, .zero q.x.negative, .zero q.y.negative,
        .zero q.z.negative⟩ ∧
      ∀ frame shift, (Mount.mk frame shift q).transform.matrix.IsUnturned) := by
  have near (bounded : q.squaredNorm.isFinite = true) : q.normalized.IsNearUnit (1 / 1000) :=
    (isNearUnit_normalized finite bounded).mono (by norm_num)
  refine ⟨⟨?_, near⟩, isFinite_squaredNorm finite, isFinite_squaredNorm_eq_false finite, ?_, ?_⟩
  · intro unit
    by_contra overflow
    rw [normalized_of_overflow finite (Bool.of_not_eq_true overflow)] at unit
    exact not_isNearUnit_zeros (by norm_num) _ _ _ _ unit
  · intro bounded frame shift
    exact ⟨q.normalized, near bounded, rfl⟩
  · intro overflow
    have zeros := normalized_of_overflow finite overflow
    refine ⟨zeros, fun frame shift => ?_⟩
    simp only [Mount.transform, Transform.ofPose, zeros]
    exact Pose.isUnturned_of_zeros shift _ _ _ _

/-- A quaternion of length five. -/
def shortTurn : Quaternion Single := ⟨1, 2, 2, 4⟩

theorem shortTurn_normalized :
    shortTurn.IsFinite ∧ shortTurn.normalized.IsNearUnit (1 / 1000) := by
  have finite : shortTurn.IsFinite := ⟨by decide, by decide, by decide, by decide⟩
  exact ⟨finite, (Quaternion.normalized_by_length finite).1.mpr (by decide)⟩

/-- Half a turn around the first axis, whose length is `10 ^ 20`. -/
def longTurn : Quaternion Single := ⟨0, .ofDecimal false ⟨1, 20⟩, 0, 0⟩

/-- The half turn is lost. -/
theorem longTurn_normalized :
    longTurn.IsFinite ∧ longTurn.normalized = ⟨0, 0, 0, 0⟩ ∧
      ¬ longTurn.normalized.IsNearUnit (1 / 1000) ∧
      (Mount.mk "map" ⟨0, 0, 0⟩ longTurn).transform =
        (Mount.mk "map" ⟨0, 0, 0⟩ .identity).transform := by
  have zeros : longTurn.normalized = ⟨0, 0, 0, 0⟩ := by decide +kernel
  refine ⟨⟨by decide, by decide +kernel, by decide, by decide⟩, zeros, ?_, by decide +kernel⟩
  rw [zeros, Number.zero_eq]
  exact Quaternion.not_isNearUnit_zeros (by norm_num) _ _ _ _

end LidarSieve
