import Mathlib.Algebra.Order.Field.Rat
import Mathlib.Data.Nat.Cast.Order.Field
import Mathlib.Tactic.FieldSimp
import Mathlib.Tactic.Linarith
import Mathlib.Tactic.Positivity
import LidarSieve.Proofs.Order
import LidarSieve.Proofs.Spacing
/-!
# How accurate an operation is

A finite word stands for a rational number, its quanta divided by those of one (`Number.value`).
Sums, products and quotients of finite words are rounded from the exact ones (`Number.Rounds`), and
what is rounded is near the exact number: the two differ by a part of that number,
`Format.roundoff`, and by half a quantum at most, `Format.underflow` (`Number.Rounds.abs_value_sub_le`),
unless the number is beyond all finite words (`Number.Rounds.isFinite`).
-/
set_option autoImplicit false

namespace LidarSieve.Binary

namespace Format

variable (f : Format)

/-- How far a value is rounded, as a part of it. -/
def roundoff : ℚ := 1 / (2 * f.fractions)

/-- How far a small value is rounded at most: half a quantum. -/
def underflow : ℚ := 1 / (2 * f.unit)

variable {f}

/-- The last place that is kept weighs one quantum, or is filled by the fractions of the value. -/
theorem two_pow_excess_le {num den : Nat} (pos : 0 < den) :
    ((2 ^ f.excess num den : Nat) : ℚ) ≤ num / den / f.fractions + 1 := by
  have fractions : (0 : ℚ) < f.fractions := Nat.cast_pos.mpr f.fractions_pos
  rcases Nat.eq_zero_or_pos (f.excess num den) with no_excess | some_excess
  · have nonneg : (0 : ℚ) ≤ num / den / f.fractions := by positivity
    rw [no_excess, Nat.pow_zero, Nat.cast_one]
    linarith
  · have whole := fractions_mul_two_pow_excess_le some_excess
    have filled : (f.fractions : ℚ) * (2 ^ f.excess num den : Nat) ≤ num / den := by
      calc (f.fractions : ℚ) * (2 ^ f.excess num den : Nat)
          = ((f.fractions * 2 ^ f.excess num den : Nat) : ℚ) := by push_cast; ring
        _ ≤ ((num / den : Nat) : ℚ) := Nat.cast_le.mpr whole
        _ ≤ num / den := Nat.cast_div_le
    have part : ((2 ^ f.excess num den : Nat) : ℚ) ≤ num / den / f.fractions := by
      rw [le_div_iff₀ fractions, mul_comm]
      exact filled
    linarith

/-- Short of the infinity, a value is rounded by a part of it and half a quantum at most. -/
theorem abs_quanta_round_sub_le {num den : Nat} (pos : 0 < den)
    (finite : f.round num den < f.infinity) :
    |(f.quanta (f.round num den) : ℚ) - num / den| ≤ f.roundoff * (num / den) + 1 / 2 := by
  have positive : (0 : ℚ) < den := Nat.cast_pos.mpr pos
  have fractions : (0 : ℚ) < f.fractions := Nat.cast_pos.mpr f.fractions_pos
  have low : (2 : ℚ) * (f.quanta (f.round num den) * den) ≤
      2 * num + den * (2 ^ f.excess num den : Nat) := by
    exact_mod_cast two_mul_quanta_round_le pos finite
  have high : (2 : ℚ) * num ≤
      2 * (f.quanta (f.round num den) * den) + den * (2 ^ f.excess num den : Nat) := by
    exact_mod_cast two_mul_le_quanta_round pos finite
  have place : ((2 ^ f.excess num den : Nat) : ℚ) ≤ num / den / f.fractions + 1 :=
    two_pow_excess_le pos
  have half : (1 / 2 : ℚ) * (num / den / f.fractions + 1) = f.roundoff * (num / den) + 1 / 2 := by
    unfold roundoff
    field_simp
  have exact_value : (num : ℚ) / den * den = num := div_mul_cancel₀ _ positive.ne'
  -- Both bounds are multiples of the denominator, so that it can be left out.
  have near : |(f.quanta (f.round num den) : ℚ) - num / den| ≤
      1 / 2 * (2 ^ f.excess num den : Nat) := by
    rw [abs_le]
    constructor
    · refine le_of_mul_le_mul_right ?_ positive
      rw [sub_mul, exact_value]
      linarith
    · refine le_of_mul_le_mul_right ?_ positive
      rw [sub_mul, exact_value]
      linarith
  linarith

end Format

namespace Number

variable {f : Format} {x y : Number f}

/-! ## Values -/

/-- The number that a finite word stands for. -/
def value (x : Number f) : ℚ := x.quanta / f.unit

/-- The factor of a sign. -/
def signFactor (negative : Bool) : ℚ := if negative then -1 else 1

theorem signFactor_bne (a b : Bool) : signFactor (a != b) = signFactor a * signFactor b := by
  cases a <;> cases b <;> simp [signFactor]

theorem signFactor_div (a b : Bool) : signFactor a / signFactor b = signFactor a * signFactor b := by
  cases b <;> simp [signFactor, div_neg]

theorem abs_signFactor_mul (negative : Bool) (t : ℚ) : |signFactor negative * t| = |t| := by
  cases negative <;> simp [signFactor]

theorem value_eq (x : Number f) :
    x.value = signFactor x.negative * (f.quanta x.magnitude / f.unit) := by
  unfold value quanta signFactor
  cases x.negative
  · simp
  · simp [neg_div]

theorem abs_value (x : Number f) : |x.value| = f.quanta x.magnitude / f.unit := by
  have nonneg : (0 : ℚ) ≤ f.quanta x.magnitude / f.unit := by positivity
  rw [value_eq, abs_signFactor_mul, abs_of_nonneg nonneg]

theorem value_of_isZero (zero : x.isZero = true) : x.value = 0 := by
  have zeroMagnitude : x.magnitude = 0 := of_decide_eq_true zero
  rw [value_eq, zeroMagnitude, Format.quanta_zero, Nat.cast_zero, zero_div, mul_zero]

theorem value_zero (negative : Bool) : (zero negative : Number f).value = 0 :=
  value_of_isZero (decide_eq_true rfl)

theorem value_le_value_iff (left : x.isFinite = true) (right : y.isFinite = true) :
    x.value ≤ y.value ↔ x ≤ y := by
  have positive : (0 : ℚ) < f.unit := Nat.cast_pos.mpr f.unit_pos
  unfold value
  rw [div_le_div_iff_of_pos_right positive, Int.cast_le, le_iff_quanta_le left right]

/-- A word that is not zero has some quanta. -/
theorem quanta_pos (nonzero : x.isZero = false) : 0 < f.quanta x.magnitude := by
  have magnitude_ne : x.magnitude ≠ 0 := of_decide_eq_false nonzero
  have pos := f.fractions_pos
  unfold Format.quanta
  split
  · exact Nat.pos_of_ne_zero magnitude_ne
  · exact Nat.mul_pos (by omega) (Nat.two_pow_pos _)

theorem value_lt_value_iff (left : x.isFinite = true) (right : y.isFinite = true) :
    x.value < y.value ↔ x < y := by
  have positive : (0 : ℚ) < f.unit := Nat.cast_pos.mpr f.unit_pos
  unfold value
  rw [div_lt_div_iff_of_pos_right positive, Int.cast_lt, lt_iff_quanta_lt left right]

/-! ## Rounded numbers -/

/-- The word is what a number is rounded to. -/
def Rounds (x : Number f) (e : ℚ) : Prop :=
  ∃ (negative : Bool) (num den : Nat), 0 < den ∧ x = rounded negative num den ∧
    e = signFactor negative * (num / den / f.unit)

section Rounds

variable {e : ℚ} (rounds : x.Rounds e)

include rounds

/-- A number is rounded to a finite word, if it is not beyond one. -/
theorem Rounds.isFinite (finite : y.isFinite = true) (le : |e| ≤ |y.value|) : x.isFinite = true := by
  obtain ⟨negative, num, den, pos, rfl, rfl⟩ := rounds
  have unit : (0 : ℚ) < f.unit := Nat.cast_pos.mpr f.unit_pos
  have positive : (0 : ℚ) < den := Nat.cast_pos.mpr pos
  have nonneg : (0 : ℚ) ≤ num / den / f.unit := by positivity
  have below : y.magnitude < f.infinity := of_decide_eq_true finite
  rw [abs_signFactor_mul, abs_of_nonneg nonneg, abs_value, div_le_div_iff_of_pos_right unit,
    div_le_iff₀ positive] at le
  refine decide_eq_true (Nat.lt_of_le_of_lt ?_ below)
  exact Format.round_le pos below.le (by exact_mod_cast le)

/-- If it is finite, a rounded word is near the number. -/
theorem Rounds.abs_value_sub_le (finite : x.isFinite = true) :
    |x.value - e| ≤ f.roundoff * |e| + f.underflow := by
  obtain ⟨negative, num, den, pos, rfl, rfl⟩ := rounds
  have unit : (0 : ℚ) < f.unit := Nat.cast_pos.mpr f.unit_pos
  have near := Format.abs_quanta_round_sub_le pos (of_decide_eq_true finite)
  have nonneg : (0 : ℚ) ≤ num / den / f.unit := by positivity
  have value_rounded : (rounded negative num den : Number f).value =
      signFactor negative * (f.quanta (f.round num den) / f.unit) := value_eq _
  rw [value_rounded, ← mul_sub, abs_signFactor_mul, abs_signFactor_mul, abs_of_nonneg nonneg,
    ← sub_div, abs_div, abs_of_pos unit, div_le_iff₀ unit]
  have whole : (f.roundoff * (num / den / f.unit) + f.underflow) * f.unit =
      f.roundoff * (num / den) + 1 / 2 := by
    unfold Format.underflow
    field_simp
  rw [whole]
  exact near

end Rounds

/-- A number of quanta is rounded from the value of that many. -/
theorem rounds_ofQuanta (zeroSign : Bool) (total : Int) :
    (ofQuanta zeroSign total : Number f).Rounds (total / f.unit) := by
  unfold ofQuanta
  split_ifs with vanishes
  · refine ⟨zeroSign, 0, 1, Nat.one_pos, ?_, ?_⟩
    · have zero_magnitude : f.round 0 1 = 0 := Format.round_eq_zero (by decide)
      unfold zero rounded
      simp only [zero_magnitude]
    · rw [vanishes]
      simp
  · refine ⟨decide (total < 0), total.natAbs, 1, Nat.one_pos, rfl, ?_⟩
    rw [Nat.cast_one, div_one, Nat.cast_natAbs, ← mul_div_assoc]
    congr 1
    unfold signFactor
    by_cases below : total < 0
    · simp [below, abs_of_neg below]
    · simp [below, abs_of_nonneg (Int.not_lt.mp below)]

/-- A sum of finite words is rounded from the exact sum. -/
theorem rounds_add (left : x.isFinite = true) (right : y.isFinite = true) :
    (x + y).Rounds (x.value + y.value) := by
  have total : x.value + y.value = ((x.quanta + y.quanta : Int) : ℚ) / f.unit := by
    unfold value
    rw [Int.cast_add, add_div]
  rw [add_of_isFinite left right, total]
  exact rounds_ofQuanta _ _

/-- A product of finite words is rounded from the exact product. -/
theorem rounds_mul (left : x.isFinite = true) (right : y.isFinite = true) :
    (x * y).Rounds (x.value * y.value) := by
  have unit : (f.unit : ℚ) ≠ 0 := Nat.cast_ne_zero.mpr f.unit_pos.ne'
  refine ⟨x.negative != y.negative, f.quanta x.magnitude * f.quanta y.magnitude, f.unit, f.unit_pos,
    mul_of_isFinite left right, ?_⟩
  rw [value_eq, value_eq, signFactor_bne]
  push_cast
  field_simp

/-- A quotient of finite words is rounded from the exact quotient. -/
theorem rounds_div (left : x.isFinite = true) (right : y.isFinite = true)
    (nonzero : y.isZero = false) : (x / y).Rounds (x.value / y.value) := by
  have unit : (f.unit : ℚ) ≠ 0 := Nat.cast_ne_zero.mpr f.unit_pos.ne'
  have pos := quanta_pos nonzero
  have quanta : (f.quanta y.magnitude : ℚ) ≠ 0 := Nat.cast_ne_zero.mpr pos.ne'
  refine ⟨x.negative != y.negative, f.quanta x.magnitude * f.unit, f.quanta y.magnitude, pos,
    div_of_isFinite left right nonzero, ?_⟩
  rw [value_eq, value_eq, signFactor_bne, mul_div_mul_comm, signFactor_div]
  push_cast
  field_simp

/-! ## Words of four bytes -/

theorem roundoff_single : single.roundoff = 1 / 2 ^ 24 := by
  have fractions : single.fractions = 2 ^ 23 := rfl
  rw [Format.roundoff, fractions]
  norm_num

theorem underflow_single : single.underflow = 1 / 2 ^ 150 := by
  have unit : single.unit = 2 ^ 149 := rfl
  rw [Format.underflow, unit]
  norm_num

theorem value_of_quanta {x : Single} {q : Int} (quanta : x.quanta = q) :
    x.value = q / 2 ^ 149 := by
  have unit : single.unit = 2 ^ 149 := rfl
  rw [value, quanta, unit]
  norm_num

theorem value_one : (1 : Single).value = 1 := by
  rw [value_of_quanta (q := 2 ^ 149) (by decide)]
  norm_num

/-- Finite words are not beyond `2 ^ 128`, which the infinity stands in the place of. -/
theorem abs_value_le {x : Single} (finite : x.isFinite = true) : |x.value| ≤ 2 ^ 128 := by
  have unit : (0 : ℚ) < single.unit := Nat.cast_pos.mpr single.unit_pos
  have last : single.quanta single.infinity = 2 ^ 128 * single.unit := by decide
  have le := (Format.quanta_le_quanta_iff (magnitude_le_of_isFinite finite)
    (Nat.le_refl single.infinity)).mpr (magnitude_le_of_isFinite finite)
  rw [last] at le
  rw [abs_value, div_le_iff₀ unit]
  exact_mod_cast le

section Rounds

variable {x : Single} {e : ℚ} (rounds : x.Rounds e)

include rounds

theorem Rounds.isFinite_single (le : |e| ≤ 3 * 2 ^ 126) : x.isFinite = true := by
  have large : (ofBits 0x7F400000 : Single).isFinite = true ∧
      (ofBits 0x7F400000 : Single).quanta = 3 * 2 ^ 126 * 2 ^ 149 := by decide
  have value : (ofBits 0x7F400000 : Single).value = 3 * 2 ^ 126 := by
    rw [value_of_quanta large.2]
    norm_num
  refine rounds.isFinite large.1 ?_
  rw [value]
  exact le.trans (le_abs_self _)

theorem Rounds.abs_sub_le (nonneg : 0 ≤ e) (finite : x.isFinite = true) :
    |x.value - e| ≤ 1 / 2 ^ 24 * e + 1 / 2 ^ 150 := by
  have near := rounds.abs_value_sub_le finite
  rw [roundoff_single, underflow_single, abs_of_nonneg nonneg] at near
  exact near

end Rounds

end Number

end LidarSieve.Binary
