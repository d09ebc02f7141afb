import LidarSieve.Proofs.Accuracy
/-!
# Squares and roots

What is computed of squares is accurate, as long as it is not too small or too great.

* The square of a root that is not tiny is near the number that the root is taken of
  (`abs_sqrt_mul_self_sub_le`).
* The square of a quotient of at most two is near the exact one (`abs_div_mul_self_sub_le`).
* A sum of squares is near the exact sum, up to one part for each square.  This is carried by
  `SumsSquares`, which one more square leaves true (`SumsSquares.add_square`), and the sum stays
  finite while the exact one is at most `2 ^ 127` (`SumsSquares.isFinite_add_square`).
-/
set_option autoImplicit false

namespace LidarSieve.Binary.Number

/-! ## Words without a sign -/

/-- The word stands for a number or an infinity that is not negative. -/
structure IsUnsigned {f : Format} (x : Number f) : Prop where
  negative : x.negative = false
  isNaN : x.isNaN = false

section Unsigned

variable {f : Format} {x y : Number f}

theorem isUnsigned_mul_self (finite : x.isFinite = true) : (x * x).IsUnsigned := by
  rw [mul_of_isFinite finite finite, bne_self_eq_false]
  exact ⟨rfl, isNaN_rounded _ _ _⟩

theorem IsUnsigned.quanta_eq (unsigned : x.IsUnsigned) : x.quanta = f.quanta x.magnitude := by
  rw [quanta, unsigned.negative, if_neg Bool.false_ne_true]

theorem IsUnsigned.add (left : x.IsUnsigned) (right : y.IsUnsigned) : (x + y).IsUnsigned := by
  change (Number.add x y).IsUnsigned
  unfold Number.add
  rw [left.isNaN, right.isNaN, left.negative, right.negative, left.quanta_eq, right.quanta_eq,
    bne_self_eq_false, Bool.and_false, Bool.and_false, Bool.or_false]
  simp only [Bool.false_eq_true, if_false]
  split_ifs
  · exact left
  · exact right
  · refine ⟨?_, isNaN_ofQuanta _ _⟩
    unfold ofQuanta
    split_ifs
    · rfl
    · have nonneg : ¬ (f.quanta x.magnitude + f.quanta y.magnitude : Int) < 0 := by omega
      exact decide_eq_false nonneg

theorem IsUnsigned.value_nonneg (unsigned : x.IsUnsigned) : 0 ≤ x.value := by
  rw [value_eq, unsigned.negative, signFactor, if_neg Bool.false_ne_true, one_mul]
  positivity

theorem IsUnsigned.eq_infinity (unsigned : x.IsUnsigned) (infinite : x.isFinite = false) :
    x = infinity false := by
  have kind : x.isInfinite = true := by
    simpa [unsigned.isNaN, infinite] using x.kinds
  rw [eq_infinity_of_isInfinite kind, unsigned.negative]

end Unsigned

/-! ## Roots -/

/-- The whole part of a root, doubled, and one more if there is a rest. -/
def doubledRoot (n : Nat) : Nat := 2 * n.sqrt + if n.sqrt * n.sqrt = n then 0 else 1

/-- The square of a doubled root is four times the number, up to twice the doubled root. -/
theorem doubledRoot_mul_self (n : Nat) :
    doubledRoot n * doubledRoot n ≤ 4 * n + 2 * doubledRoot n ∧
      4 * n ≤ doubledRoot n * doubledRoot n + 2 * doubledRoot n := by
  have low := Nat.sqrt_le n
  have high := Nat.sqrt_le_add n
  have exact_square : 2 * n.sqrt * (2 * n.sqrt) = 4 * (n.sqrt * n.sqrt) := by ring
  have next_square : (2 * n.sqrt + 1) * (2 * n.sqrt + 1) =
      4 * (n.sqrt * n.sqrt) + 4 * n.sqrt + 1 := by ring
  unfold doubledRoot
  split_ifs with square
  · rw [Nat.add_zero]
    omega
  · omega

section Roots

variable {f : Format} {x : Number f} (unsigned : x.IsUnsigned) (finite : x.isFinite = true)
  (nonzero : x.isZero = false)

include unsigned finite nonzero

theorem sqrt_eq : x.sqrt = rounded false (doubledRoot (f.quanta x.magnitude * f.unit)) 2 := by
  unfold sqrt
  simp [unsigned.isNaN, unsigned.negative, nonzero, isInfinite_of_isFinite finite, doubledRoot]

/-- The root of a finite word is rounded from a number whose square is the word's value, up to a
multiple of half a quantum. -/
theorem exists_rounds_sqrt :
    ∃ root : ℚ, 0 ≤ root ∧ x.sqrt.Rounds root ∧
      |root * root - x.value| ≤ 2 * f.underflow * root := by
  have unit : (0 : ℚ) < f.unit := Nat.cast_pos.mpr f.unit_pos
  obtain ⟨high, low⟩ := doubledRoot_mul_self (f.quanta x.magnitude * f.unit)
  have value : x.value = f.quanta x.magnitude / f.unit := by
    rw [value_eq, unsigned.negative, signFactor, if_neg Bool.false_ne_true, one_mul]
  have word := sqrt_eq unsigned finite nonzero
  generalize doubledRoot (f.quanta x.magnitude * f.unit) = t at high low word
  refine ⟨t / (2 : Nat) / f.unit, by positivity, ⟨false, t, 2, by decide, word, ?_⟩, ?_⟩
  · rw [signFactor, if_neg Bool.false_ne_true, one_mul]
  have high : (t * t : ℚ) ≤ 4 * (f.quanta x.magnitude * f.unit) + 2 * t := by exact_mod_cast high
  have low : 4 * (f.quanta x.magnitude * f.unit : ℚ) ≤ t * t + 2 * t := by exact_mod_cast low
  have scaled : (t / (2 : Nat) / f.unit * (t / (2 : Nat) / f.unit) - x.value : ℚ) =
      (t * t - 4 * (f.quanta x.magnitude * f.unit)) / (4 * (f.unit * f.unit)) := by
    rw [value]
    field_simp
    push_cast
    ring
  have bound : (2 * f.underflow * (t / (2 : Nat) / f.unit) : ℚ) =
      2 * t / (4 * (f.unit * f.unit)) := by
    unfold Format.underflow
    field_simp
    push_cast
    ring
  have square : (0 : ℚ) < 4 * (f.unit * f.unit) := by positivity
  rw [scaled, bound, abs_div, abs_of_pos square]
  apply div_le_div_of_nonneg_right _ square.le
  rw [abs_le]
  constructor
  · linarith
  · linarith

end Roots

theorem isFinite_sqrt {x : Single} (unsigned : x.IsUnsigned) (finite : x.isFinite = true)
    (nonzero : x.isZero = false) : x.sqrt.isFinite = true := by
  obtain ⟨root, nonneg, rounds, square⟩ := exists_rounds_sqrt unsigned finite nonzero
  have value_le := (le_abs_self _).trans (abs_value_le finite)
  rw [underflow_single] at square
  have square_le := (abs_le.mp square).2
  refine rounds.isFinite_single ?_
  rw [abs_of_nonneg nonneg]
  by_contra above
  have great : (2 ^ 100 : ℚ) ≤ root := by linarith
  have product := mul_le_mul_of_nonneg_right great nonneg
  linarith

/-- The square of a root that is not tiny is near the number that the root is taken of. -/
theorem abs_sqrt_mul_self_sub_le {x : Single} (unsigned : x.IsUnsigned) (finite : x.isFinite = true)
    (nonzero : x.isZero = false) (large : 1 / 2 ^ 23 ≤ x.sqrt.value) :
    |x.sqrt.value * x.sqrt.value - x.value| ≤ 8 / 2 ^ 24 * x.value := by
  obtain ⟨root, nonneg, rounds, square⟩ := exists_rounds_sqrt unsigned finite nonzero
  obtain ⟨low, high⟩ := abs_le.mp
    (rounds.abs_sub_le nonneg (isFinite_sqrt unsigned finite nonzero))
  rw [underflow_single] at square
  obtain ⟨square_low, square_high⟩ := abs_le.mp square
  generalize x.sqrt.value = n at *
  -- Half a quantum is little compared with the root.
  have tiny : (1 / 2 ^ 150 : ℚ) ≤ 1 / 2 ^ 24 * root := by linarith
  have rest : (2 * (1 / 2 ^ 150) * root : ℚ) ≤ 2 / 2 ^ 24 * (root * root) := by
    have product := mul_le_mul_of_nonneg_right tiny nonneg
    linarith
  have upper : n * n ≤ (1 + 2 / 2 ^ 24) * root * ((1 + 2 / 2 ^ 24) * root) :=
    mul_self_le_mul_self (by linarith) (by linarith)
  have lower : (1 - 2 / 2 ^ 24) * root * ((1 - 2 / 2 ^ 24) * root) ≤ n * n :=
    mul_self_le_mul_self (by linarith) (by linarith)
  have squares : 0 ≤ root * root := mul_self_nonneg root
  rw [abs_le]
  constructor
  · linarith
  · linarith

/-! ## Quotients -/

theorem abs_value_div_value_le {c n : Single} (nonzero : n.isZero = false)
    (le : c.value * c.value ≤ 4 * (n.value * n.value)) : |c.value / n.value| ≤ 2 := by
  have positive : 0 < n.value * n.value := by
    have unit := single.unit_pos
    have positive_quanta := quanta_pos nonzero
    rw [← abs_mul_abs_self, abs_value]
    positivity
  rw [← abs_two, abs_le_iff_mul_self_le, div_mul_div_comm, div_le_iff₀ positive]
  linarith

section Quotients

variable {c n : Single} (finite : c.isFinite = true) (finite' : n.isFinite = true)
  (nonzero : n.isZero = false) (le : c.value * c.value ≤ 4 * (n.value * n.value))

include finite finite' nonzero le

/-- A quotient of at most two is finite. -/
theorem isFinite_div : (c / n).isFinite = true := by
  refine (rounds_div finite finite' nonzero).isFinite_single ?_
  have two := abs_value_div_value_le nonzero le
  linarith

/-- The square of such a quotient is near the exact one. -/
theorem abs_div_mul_self_sub_le :
    |(c / n).value * (c / n).value - c.value / n.value * (c.value / n.value)| ≤
      3 / 2 ^ 24 * (c.value / n.value * (c.value / n.value)) + 5 / 2 ^ 150 := by
  have near := (rounds_div finite finite' nonzero).abs_value_sub_le
    (isFinite_div finite finite' nonzero le)
  have bounded := abs_value_div_value_le nonzero le
  rw [roundoff_single, underflow_single] at near
  generalize (c / n).value = v at near ⊢
  generalize c.value / n.value = d at near bounded ⊢
  have sum : |v + d| ≤ |v - d| + 2 * |d| := by
    calc |v + d| = |v - d + 2 * d| := by ring_nf
      _ ≤ |v - d| + |2 * d| := abs_add_le _ _
      _ = |v - d| + 2 * |d| := by rw [abs_mul, abs_two]
  rw [mul_self_sub_mul_self, abs_mul, ← abs_mul_abs_self d]
  have size := abs_nonneg d
  have square := mul_self_nonneg |d|
  generalize |d| = a at *
  calc |v + d| * |v - d|
      ≤ |v + d| * (1 / 2 ^ 24 * a + 1 / 2 ^ 150) :=
        mul_le_mul_of_nonneg_left near (abs_nonneg _)
    _ ≤ (1 / 2 ^ 24 * a + 1 / 2 ^ 150 + 2 * a) * (1 / 2 ^ 24 * a + 1 / 2 ^ 150) :=
        mul_le_mul_of_nonneg_right (by linarith) (by linarith)
    _ ≤ 3 / 2 ^ 24 * (a * a) + 5 / 2 ^ 150 := by linarith

end Quotients

/-! ## Sums of squares -/

/-- The word is a sum of `count` squares, each of which was rounded, as was each sum. -/
structure SumsSquares (count : Nat) (s : Single) (total : ℚ) : Prop where
  unsigned : s.IsUnsigned
  finite : s.isFinite = true
  nonneg : 0 ≤ total
  near : |s.value - total| ≤ count * (3 / 2 ^ 24 * total + 3 / 2 ^ 150)

section Squares

variable {count : Nat} {s c : Single} {total : ℚ}

theorem sumsSquares_mul_self (finite : c.isFinite = true) (bounded : (c * c).isFinite = true) :
    SumsSquares 1 (c * c) (c.value * c.value) := by
  have nonneg := mul_self_nonneg c.value
  have near := (rounds_mul finite finite).abs_sub_le nonneg bounded
  refine ⟨isUnsigned_mul_self finite, bounded, nonneg, near.trans ?_⟩
  rw [Nat.cast_one]
  linarith

theorem isFinite_mul_self (finite : c.isFinite = true) (le : c.value * c.value ≤ 2 ^ 127) :
    (c * c).isFinite = true := by
  refine (rounds_mul finite finite).isFinite_single ?_
  rw [abs_mul_self]
  linarith

namespace SumsSquares

variable (sum : SumsSquares count s total) (few : count ≤ 4)

include sum few

/-- A square that is added makes one more part of the error. -/
theorem add_square (finite : c.isFinite = true) (bounded : (s + c * c).isFinite = true) :
    SumsSquares (count + 1) (s + c * c) (total + c.value * c.value) := by
  have square := isUnsigned_mul_self finite
  have square_finite := (isFinite_of_isFinite_add bounded).2
  have squares := mul_self_nonneg c.value
  have nonneg := sum.nonneg
  have near := abs_le.mp sum.near
  have near_square := abs_le.mp ((rounds_mul finite finite).abs_sub_le squares square_finite)
  have near_sum := abs_le.mp ((rounds_add sum.finite square_finite).abs_sub_le
    (add_nonneg sum.unsigned.value_nonneg square.value_nonneg) bounded)
  have few : (count : ℚ) ≤ 4 := by exact_mod_cast few
  have part := mul_le_mul_of_nonneg_right few nonneg
  have parts : 0 ≤ count * (c.value * c.value) := mul_nonneg (Nat.cast_nonneg _) squares
  refine ⟨sum.unsigned.add square, bounded, add_nonneg nonneg squares, ?_⟩
  rw [Nat.cast_add_one, abs_le]
  constructor
  · linarith
  · linarith

/-- A sum that stays below three quarters of `2 ^ 128` does not overflow. -/
theorem isFinite_add_square (finite : c.isFinite = true)
    (le : total + c.value * c.value ≤ 2 ^ 127) : (s + c * c).isFinite = true := by
  have squares := mul_self_nonneg c.value
  have nonneg := sum.nonneg
  have square_finite := isFinite_mul_self finite (by linarith)
  have near := abs_le.mp sum.near
  have near_square := abs_le.mp ((rounds_mul finite finite).abs_sub_le squares square_finite)
  have few : (count : ℚ) ≤ 4 := by exact_mod_cast few
  have part := mul_le_mul_of_nonneg_right few nonneg
  refine (rounds_add sum.finite square_finite).isFinite_single ?_
  rw [abs_of_nonneg (add_nonneg sum.unsigned.value_nonneg
    (isUnsigned_mul_self finite).value_nonneg)]
  linarith

end SumsSquares

end Squares

end LidarSieve.Binary.Number
