import LidarSieve.Binary.Arithmetic
import LidarSieve.Proofs.Rounding
/-!
# Order of words and of their values

Two finite words are ordered as their values (`Number.le_iff_quanta_le`), and because rounding keeps
the order, a sum of finite words is not below a finite word that the exact sum is not below
(`Number.le_add`).  For zero, which no sum other than the exact one is rounded to, the converse holds
as well (`Number.zero_le_add_iff`).  Products of finite words that are not below zero grow with their
factors (`Number.mul_le_mul`).

What is known of a result is known of its operands: a sum that is a number has no operand that is
not, and a finite sum has finite operands.
-/
set_option autoImplicit false

namespace LidarSieve.Binary.Number

variable {f : Format} {x y z : Number f}

/-! ## Kinds of words -/

theorem isNaN_of_isFinite (finite : x.isFinite = true) : x.isNaN = false := by
  unfold isFinite at finite
  unfold isNaN
  have := of_decide_eq_true finite
  exact decide_eq_false (by omega)

theorem isInfinite_of_isFinite (finite : x.isFinite = true) : x.isInfinite = false := by
  unfold isFinite at finite
  unfold isInfinite
  have := of_decide_eq_true finite
  exact decide_eq_false (by omega)

/-- A word is a not-a-number, an infinity or finite. -/
theorem kinds (x : Number f) : x.isNaN = true ∨ x.isInfinite = true ∨ x.isFinite = true := by
  simp only [isNaN, isInfinite, isFinite, decide_eq_true_eq]
  omega

/-- An infinity is known by its sign. -/
theorem eq_infinity_of_isInfinite (infinite : x.isInfinite = true) : x = infinity x.negative := by
  obtain ⟨negative, magnitude, bounded⟩ := x
  have same : magnitude = f.infinity := of_decide_eq_true infinite
  subst same
  rfl

theorem isNaN_neg : (-x).isNaN = x.isNaN := rfl

theorem isFinite_neg : (-x).isFinite = x.isFinite := rfl

theorem quanta_neg : (-x).quanta = -x.quanta := by
  change (negate x).quanta = _
  unfold negate quanta
  cases x.negative <;> simp

theorem magnitude_le_of_isFinite (finite : x.isFinite = true) : x.magnitude ≤ f.infinity :=
  Nat.le_of_lt (of_decide_eq_true finite)

/-! ## Comparing -/

theorem lt_iff : x < y ↔ x.isNaN = false ∧ y.isNaN = false ∧ x.key < y.key := by
  change x.lt y = true ↔ _
  simp [lt, ordered, and_assoc]

theorem le_iff : x ≤ y ↔ x.isNaN = false ∧ y.isNaN = false ∧ x.key ≤ y.key := by
  change x.le y = true ↔ _
  simp [le, ordered, and_assoc]

theorem le_self (number : x.isNaN = false) : x ≤ x :=
  le_iff.mpr ⟨number, number, Int.le_refl _⟩

theorem le_trans (left : x ≤ y) (right : y ≤ z) : x ≤ z := by
  rw [le_iff] at left right ⊢
  exact ⟨left.1, right.2.1, left.2.2.trans right.2.2⟩

theorem lt_of_lt_of_le (left : x < y) (right : y ≤ z) : x < z := by
  rw [lt_iff] at left ⊢
  rw [le_iff] at right
  exact ⟨left.1, right.2.1, Int.lt_of_lt_of_le left.2.2 right.2.2⟩

theorem lt_of_le_of_lt (left : x ≤ y) (right : y < z) : x < z := by
  rw [lt_iff] at right ⊢
  rw [le_iff] at left
  exact ⟨left.1, right.2.1, Int.lt_of_le_of_lt left.2.2 right.2.2⟩

theorem lt_trans (left : x < y) (right : y < z) : x < z := by
  rw [lt_iff] at left right ⊢
  exact ⟨left.1, right.2.1, left.2.2.trans right.2.2⟩

theorem le_of_lt (less : x < y) : x ≤ y := by
  rw [lt_iff] at less
  exact le_iff.mpr ⟨less.1, less.2.1, Int.le_of_lt less.2.2⟩

/-- Words that stand for values are comparable. -/
theorem le_of_not_lt (left : x.isNaN = false) (right : y.isNaN = false) (not_lt : ¬ x < y) :
    y ≤ x := by
  rw [lt_iff] at not_lt
  rw [le_iff]
  exact ⟨right, left, by simpa [left, right] using not_lt⟩

theorem lt_of_not_le (left : x.isNaN = false) (right : y.isNaN = false) (not_le : ¬ x ≤ y) :
    y < x := by
  rw [le_iff] at not_le
  rw [lt_iff]
  exact ⟨right, left, by simpa [left, right] using not_le⟩

theorem not_lt_of_le (le : x ≤ y) : ¬ y < x := by
  rw [le_iff] at le
  rw [lt_iff]
  exact fun less => Int.not_lt.mpr le.2.2 less.2.2

theorem ne_of_lt (less : x < y) : x ≠ y := by
  rintro rfl
  exact Int.lt_irrefl _ (lt_iff.mp less).2.2

/-- Magnitudes under the two signs are ordered as their values. -/
theorem key_le_key_iff (left : x.isFinite = true) (right : y.isFinite = true) :
    x.key ≤ y.key ↔ x.quanta ≤ y.quanta := by
  have bound := magnitude_le_of_isFinite left
  have bound' := magnitude_le_of_isFinite right
  have zero_le := Nat.zero_le f.infinity
  have up := Format.quanta_le_quanta_iff bound bound'
  have down := Format.quanta_le_quanta_iff bound' bound
  have left_zero := Format.quanta_le_quanta_iff bound zero_le
  have right_zero := Format.quanta_le_quanta_iff bound' zero_le
  rw [Format.quanta_zero] at left_zero right_zero
  unfold key quanta
  cases x.negative <;> cases y.negative <;> simp only [Bool.false_eq_true, if_true, if_false] <;>
    omega

/-- Finite words are ordered as their values. -/
theorem le_iff_quanta_le (left : x.isFinite = true) (right : y.isFinite = true) :
    x ≤ y ↔ x.quanta ≤ y.quanta := by
  rw [le_iff, isNaN_of_isFinite left, isNaN_of_isFinite right, key_le_key_iff left right]
  simp

theorem lt_iff_quanta_lt (left : x.isFinite = true) (right : y.isFinite = true) :
    x < y ↔ x.quanta < y.quanta := by
  rw [lt_iff, isNaN_of_isFinite left, isNaN_of_isFinite right, ← Int.not_le,
    key_le_key_iff right left, Int.not_le]
  simp

/-! ## Greater and lesser of two -/

/-- A word that stands for a value lies between the lesser and the greater of itself and another. -/
theorem key_bounds_left (number : x.isNaN = false) :
    (x.minimum y).key ≤ x.key ∧ x.key ≤ (x.maximum y).key := by
  unfold minimum maximum
  rw [number]
  simp only [Bool.false_eq_true, if_false]
  constructor
  · split_ifs with le
    · exact (le_iff.mp le).2.2
    · exact Int.le_refl _
  · split_ifs with le
    · exact (le_iff.mp le).2.2
    · exact Int.le_refl _

theorem key_bounds_right (number : y.isNaN = false) :
    (x.minimum y).key ≤ y.key ∧ y.key ≤ (x.maximum y).key := by
  unfold minimum maximum
  cases left : x.isNaN with
  | true => exact ⟨Int.le_refl _, Int.le_refl _⟩
  | false =>
    simp only [Bool.false_eq_true, if_false, le_iff, left, number, true_and]
    constructor
    · split_ifs <;> omega
    · split_ifs <;> omega

/-- Of two words one stands for a value, if the greater of them does. -/
theorem isNaN_of_maximum (number : (x.maximum y).isNaN = false) :
    x.isNaN = false ∨ y.isNaN = false := by
  cases left : x.isNaN with
  | false => exact .inl rfl
  | true =>
    unfold maximum at number
    rw [if_pos left] at number
    exact .inr number

/-- Where one of two words is no number, the lesser and the greater of them are the other one. -/
theorem minimum_eq_maximum (nan : x.isNaN = true ∨ y.isNaN = true) : x.minimum y = x.maximum y := by
  unfold minimum maximum
  simp only [le_iff]
  rcases nan with nan | nan <;> simp [nan]

theorem minimum_of_numbers (left : x.isNaN = false) (right : y.isNaN = false) :
    (x.minimum y).isNaN = false ∧ (x.minimum y).key = min x.key y.key := by
  unfold minimum
  simp only [left, right, le_iff, Bool.false_eq_true, if_false, true_and]
  split
  · exact ⟨right, by omega⟩
  · exact ⟨left, by omega⟩

theorem maximum_of_numbers (left : x.isNaN = false) (right : y.isNaN = false) :
    (x.maximum y).isNaN = false ∧ (x.maximum y).key = max x.key y.key := by
  unfold maximum
  simp only [left, right, le_iff, Bool.false_eq_true, if_false, true_and]
  split
  · exact ⟨right, by omega⟩
  · exact ⟨left, by omega⟩

/-! ## Zero -/

theorem zero_eq : (0 : Number f) = zero false := by
  have rounded_eq : f.round (0 * f.unit) 1 = 0 := Format.round_eq_zero (by omega)
  change rounded false (0 * f.unit) 1 = zero false
  unfold rounded zero
  congr

theorem key_zero : (0 : Number f).key = 0 := by
  rw [zero_eq]
  rfl

theorem isNaN_zero : (0 : Number f).isNaN = false := by
  rw [zero_eq]
  simp [isNaN, zero]

/-- A word that is not below zero is ordered by its magnitude. -/
theorem key_eq_magnitude (nonneg : 0 ≤ x.key) : x.key = x.magnitude := by
  unfold key at nonneg ⊢
  split_ifs at nonneg ⊢ <;> omega

/-- What lies between zero and a finite word is finite. -/
theorem isFinite_of_between (zero_le : 0 ≤ x) (le : x ≤ y) (finite : y.isFinite = true) :
    x.isFinite = true := by
  have lower := (le_iff.mp zero_le).2.2
  have upper := (le_iff.mp le).2.2
  have bound := of_decide_eq_true finite
  rw [key_zero] at lower
  unfold key at lower upper
  refine decide_eq_true ?_
  split_ifs at lower upper <;> omega

theorem key_nonneg (zero_le : 0 ≤ x) : 0 ≤ x.key := by
  have nonneg := (le_iff.mp zero_le).2.2
  rw [key_zero] at nonneg
  exact nonneg

theorem zero_lt_iff (number : x.isNaN = false) :
    0 < x ↔ x.negative = false ∧ 0 < x.magnitude := by
  rw [lt_iff, number, isNaN_zero, key_zero]
  unfold key
  cases x.negative <;> simp

/-- A word that is not below zero, the negative zero included, has the quanta of its magnitude. -/
theorem quanta_of_nonneg (zero_le : 0 ≤ x) : x.quanta = f.quanta x.magnitude := by
  have nonneg := key_nonneg zero_le
  unfold key at nonneg
  unfold quanta
  split_ifs at nonneg ⊢ with negative
  · have zeroMagnitude : x.magnitude = 0 := by omega
    rw [zeroMagnitude, Format.quanta_zero]
    rfl
  · rfl

/-! ## Rounded sums -/

/-- Only zero is rounded to zero. -/
theorem zero_lt_round_iff (some_finite : 0 < f.infinity) (n : Nat) : 0 < f.round n 1 ↔ 0 < n := by
  constructor
  · intro positive
    by_contra not_positive
    rw [Nat.eq_zero_of_not_pos not_positive, Format.round_eq_zero Nat.one_pos] at positive
    exact Nat.lt_irrefl 0 positive
  · intro positive
    exact Format.le_round Nat.one_pos some_finite (by rw [Format.quanta_one]; omega)

theorem isNaN_ofQuanta (zeroSign : Bool) (total : Int) :
    (ofQuanta zeroSign total : Number f).isNaN = false := by
  have bound := f.round_le_infinity total.natAbs 1
  unfold ofQuanta isNaN
  split
  · simp [zero]
  · exact decide_eq_false (Nat.not_lt_of_le bound)

theorem key_ofQuanta (zeroSign : Bool) (total : Int) :
    (ofQuanta zeroSign total : Number f).key =
      if total < 0 then -(f.round total.natAbs 1 : Int) else (f.round total.natAbs 1 : Int) := by
  unfold ofQuanta
  by_cases vanishes : total = 0
  · have rounded : f.round 0 1 = 0 := Format.round_eq_zero (by omega)
    simp [vanishes, key, zero, rounded]
  · rw [if_neg vanishes]
    simp [key, Number.rounded]

theorem magnitude_ofQuanta (zeroSign : Bool) (total : Int) :
    (ofQuanta zeroSign total : Number f).magnitude = f.round total.natAbs 1 := by
  unfold ofQuanta
  split_ifs with vanishes
  · rw [vanishes]
    exact (Format.round_eq_zero (by decide)).symm
  · rfl

/-- Rounding keeps the order of exact sums. -/
theorem key_ofQuanta_mono (left right : Bool) {a b : Int} (le : a ≤ b) :
    (ofQuanta left a : Number f).key ≤ (ofQuanta right b : Number f).key := by
  rw [key_ofQuanta, key_ofQuanta]
  split_ifs with below below'
  · have := Format.round_mono (f := f) Nat.one_pos Nat.one_pos
      (show b.natAbs * 1 ≤ a.natAbs * 1 by omega)
    omega
  · omega
  · omega
  · have := Format.round_mono (f := f) Nat.one_pos Nat.one_pos
      (show a.natAbs * 1 ≤ b.natAbs * 1 by omega)
    omega

/-- The value of a finite word is rounded to this word. -/
theorem key_ofQuanta_quanta (zeroSign : Bool) (finite : x.isFinite = true) :
    (ofQuanta zeroSign x.quanta : Number f).key = x.key := by
  have exact_value := Format.round_quanta (magnitude_le_of_isFinite finite)
  rw [key_ofQuanta]
  unfold quanta key
  cases x.negative with
  | false =>
    simp only [Bool.false_eq_true, if_false]
    rw [if_neg (by omega), Int.natAbs_natCast, exact_value]
  | true =>
    simp only [if_true, Int.natAbs_neg, Int.natAbs_natCast, exact_value]
    split_ifs with negative
    · rfl
    · have noQuanta : f.quanta x.magnitude = 0 := by omega
      rw [noQuanta, Format.round_eq_zero (by omega)] at exact_value
      omega

/-! ## Sums -/

theorem sub_eq_add_neg : x - y = x + -y := rfl

theorem add_of_isFinite (left : x.isFinite = true) (right : y.isFinite = true) :
    x + y = ofQuanta (x.negative && y.negative) (x.quanta + y.quanta) := by
  change add x y = _
  unfold add
  simp [isNaN_of_isFinite left, isNaN_of_isFinite right, isInfinite_of_isFinite left,
    isInfinite_of_isFinite right]

/-- A sum is not less than a finite word that the exact sum is not less than. -/
theorem le_add (left : x.isFinite = true) (right : y.isFinite = true) (finite : z.isFinite = true)
    (le : z.quanta ≤ x.quanta + y.quanta) : z ≤ x + y := by
  rw [le_iff, add_of_isFinite left right]
  refine ⟨isNaN_of_isFinite finite, isNaN_ofQuanta _ _, ?_⟩
  rw [← key_ofQuanta_quanta false finite]
  exact key_ofQuanta_mono _ _ le

/-- A sum is not greater than a finite word that the exact sum is not greater than. -/
theorem add_le (left : x.isFinite = true) (right : y.isFinite = true) (finite : z.isFinite = true)
    (le : x.quanta + y.quanta ≤ z.quanta) : x + y ≤ z := by
  rw [le_iff, add_of_isFinite left right]
  refine ⟨isNaN_ofQuanta _ _, isNaN_of_isFinite finite, ?_⟩
  rw [← key_ofQuanta_quanta false finite]
  exact key_ofQuanta_mono _ _ le

/-- Taking a greater word away leaves no more. -/
theorem sub_le_sub (finite : z.isFinite = true) (left : x.isFinite = true) (right : y.isFinite = true)
    (le : x ≤ y) : z - y ≤ z - x := by
  have mono := (le_iff_quanta_le left right).mp le
  rw [sub_eq_add_neg, sub_eq_add_neg, le_iff, add_of_isFinite finite (isFinite_neg.trans right),
    add_of_isFinite finite (isFinite_neg.trans left), quanta_neg, quanta_neg]
  exact ⟨isNaN_ofQuanta _ _, isNaN_ofQuanta _ _, key_ofQuanta_mono _ _ (by omega)⟩

/-- Only what is exactly zero is rounded to zero, so that a sum has the sign of the exact one. -/
theorem zero_le_add_iff (left : x.isFinite = true) (right : y.isFinite = true) :
    0 ≤ x + y ↔ 0 ≤ x.quanta + y.quanta := by
  have away := zero_lt_round_iff (Nat.zero_lt_of_lt (of_decide_eq_true left))
    (x.quanta + y.quanta).natAbs
  rw [le_iff, add_of_isFinite left right, isNaN_ofQuanta, key_zero, key_ofQuanta]
  simp only [isNaN_zero, true_and]
  split_ifs with below <;> omega

/-- Only what is exactly zero is rounded to zero, so that a difference is above zero as the exact
one. -/
theorem zero_lt_sub_iff (left : x.isFinite = true) (right : y.isFinite = true) :
    0 < y - x ↔ x < y := by
  have away := zero_lt_round_iff (Nat.zero_lt_of_lt (of_decide_eq_true left))
    (y.quanta + -x.quanta).natAbs
  rw [lt_iff_quanta_lt left right, sub_eq_add_neg,
    add_of_isFinite right (isFinite_neg.trans left), quanta_neg, lt_iff, isNaN_ofQuanta, key_zero,
    key_ofQuanta]
  simp only [isNaN_zero, true_and]
  split_ifs with below <;> omega

/-- The difference of words that are not below zero and not out of order is rounded from their
distance. -/
theorem magnitude_sub (zero_le : 0 ≤ x) (le : x ≤ y) (finite : y.isFinite = true) :
    (y - x).magnitude = f.round (f.quanta y.magnitude - f.quanta x.magnitude) 1 := by
  have finite' := isFinite_of_between zero_le le finite
  have mono := (le_iff_quanta_le finite' finite).mp le
  rw [quanta_of_nonneg zero_le, quanta_of_nonneg (le_trans zero_le le)] at mono
  rw [sub_eq_add_neg, add_of_isFinite finite (isFinite_neg.trans finite'), magnitude_ofQuanta,
    quanta_neg, quanta_of_nonneg zero_le, quanta_of_nonneg (le_trans zero_le le)]
  congr 1
  omega

theorem isNaN_nan : (nan : Number f).isNaN = true := by
  have some_bit := Nat.two_pow_pos (f.fractionBits - 1)
  refine decide_eq_true ?_
  change f.infinity < f.quietNaN
  rw [Format.quietNaN, Nat.pow_eq]
  omega

/-- Only numbers have a sum that is one. -/
theorem isNaN_of_isNaN_add (number : (x + y).isNaN = false) :
    x.isNaN = false ∧ y.isNaN = false := by
  change (add x y).isNaN = false at number
  unfold add at number
  split at number
  · rw [isNaN_nan] at number
    cases number
  · rename_i numbers
    simpa using numbers

/-- Only finite words have a finite sum. -/
theorem isFinite_of_isFinite_add (finite : (x + y).isFinite = true) :
    x.isFinite = true ∧ y.isFinite = true := by
  have number := isNaN_of_isFinite finite
  have bounded := isInfinite_of_isFinite finite
  obtain ⟨left_number, right_number⟩ := isNaN_of_isNaN_add number
  change (add x y).isNaN = false at number
  change (add x y).isInfinite = false at bounded
  unfold add at number bounded
  simp only [left_number, right_number, Bool.or_false, Bool.false_eq_true, if_false]
    at number bounded
  have left_bounded : x.isInfinite = false := by
    by_contra infinite
    rw [Bool.not_eq_false] at infinite
    rw [if_pos infinite] at number bounded
    split at number
    · rw [isNaN_nan] at number
      cases number
    · rename_i same
      rw [if_neg same, infinite] at bounded
      cases bounded
  have right_bounded : y.isInfinite = false := by
    by_contra infinite
    rw [Bool.not_eq_false] at infinite
    rw [left_bounded, if_neg Bool.false_ne_true, if_pos infinite, infinite] at bounded
    cases bounded
  constructor
  · simpa [left_number, left_bounded] using x.kinds
  · simpa [right_number, right_bounded] using y.kinds

/-! ## Products -/

/-- Only a number has a product that is one. -/
theorem isNaN_of_isNaN_mul (number : (x * y).isNaN = false) : x.isNaN = false := by
  change (mul x y).isNaN = false at number
  unfold mul at number
  dsimp only at number
  split at number
  · rw [isNaN_nan] at number
    cases number
  · rename_i numbers
    simp only [Bool.or_eq_true, not_or, Bool.not_eq_true] at numbers
    exact numbers.1

theorem isNaN_rounded (negative : Bool) (num den : Nat) :
    (rounded negative num den : Number f).isNaN = false :=
  decide_eq_false (Nat.not_lt_of_le (f.round_le_infinity num den))

theorem zero_lt_rounded_iff {negative : Bool} {num den : Nat} :
    0 < (rounded negative num den : Number f) ↔ negative = false ∧ 0 < f.round num den :=
  zero_lt_iff (isNaN_rounded negative num den)

theorem mul_of_isFinite (left : x.isFinite = true) (right : y.isFinite = true) :
    x * y = rounded (x.negative != y.negative)
      (f.quanta x.magnitude * f.quanta y.magnitude) f.unit := by
  change mul x y = _
  unfold mul
  simp [isNaN_of_isFinite left, isNaN_of_isFinite right, isInfinite_of_isFinite left,
    isInfinite_of_isFinite right]

/-- The sign of a product does not matter to its order where no factor is below zero: a negative
factor is a zero then. -/
theorem key_mul_of_nonneg (left : x.isFinite = true) (right : y.isFinite = true)
    (zero_le : 0 ≤ x.key) (zero_le' : 0 ≤ y.key) :
    (x * y).key = f.round (f.quanta x.magnitude * f.quanta y.magnitude) f.unit := by
  have none_of_negative {z : Number f} (nonneg : 0 ≤ z.key) (negative : z.negative = true) :
      f.quanta z.magnitude = 0 := by
    unfold key at nonneg
    rw [if_pos negative] at nonneg
    have zero : z.magnitude = 0 := by omega
    rw [zero, Format.quanta_zero]
  rw [mul_of_isFinite left right]
  unfold rounded key
  dsimp only
  split
  · rename_i differ
    -- One of the two is negative, and so the product counts no quanta.
    have no_quanta : f.quanta x.magnitude * f.quanta y.magnitude = 0 := by
      cases sign : x.negative with
      | true => rw [none_of_negative zero_le sign, Nat.zero_mul]
      | false =>
        rw [sign, Bool.false_bne] at differ
        rw [none_of_negative zero_le' differ, Nat.mul_zero]
    rw [no_quanta, Format.round_eq_zero f.unit_pos]
    rfl
  · rfl

/-- Of two words that are not below zero, the lesser counts no more quanta. -/
theorem quanta_magnitude_mono (zero_le : 0 ≤ x.key) (le : x ≤ y) (finite : y.isFinite = true) :
    f.quanta x.magnitude ≤ f.quanta y.magnitude := by
  have keys := (le_iff.mp le).2.2
  have high := key_eq_magnitude (zero_le.trans keys)
  have bound := magnitude_le_of_isFinite finite
  rw [high, key_eq_magnitude zero_le, Int.ofNat_le] at keys
  exact (Format.quanta_le_quanta_iff (keys.trans bound) bound).mpr keys

/-- Products of finite words that are not below zero grow with their factors. -/
theorem mul_le_mul {w : Number f} (zero_le : 0 ≤ x) (le : x ≤ y) (finite : y.isFinite = true)
    (zero_le' : 0 ≤ z) (le' : z ≤ w) (finite' : w.isFinite = true) : x * z ≤ y * w := by
  have left := isFinite_of_between zero_le le finite
  have right := isFinite_of_between zero_le' le' finite'
  have low := key_nonneg zero_le
  have low' := key_nonneg zero_le'
  have high := low.trans (le_iff.mp le).2.2
  have high' := low'.trans (le_iff.mp le').2.2
  rw [le_iff, key_mul_of_nonneg left right low low', key_mul_of_nonneg finite finite' high high',
    mul_of_isFinite left right, mul_of_isFinite finite finite']
  refine ⟨isNaN_rounded _ _ _, isNaN_rounded _ _ _, ?_⟩
  rw [Int.ofNat_le]
  apply Format.round_mono f.unit_pos f.unit_pos
  apply Nat.mul_le_mul_right
  exact Nat.mul_le_mul (quanta_magnitude_mono low le finite) (quanta_magnitude_mono low' le' finite')

/-! ## Quotients -/

theorem div_of_isFinite (left : x.isFinite = true) (right : y.isFinite = true)
    (nonzero : y.isZero = false) :
    x / y = rounded (x.negative != y.negative) (f.quanta x.magnitude * f.unit)
      (f.quanta y.magnitude) := by
  change div x y = _
  unfold div
  simp [isNaN_of_isFinite left, isNaN_of_isFinite right, isInfinite_of_isFinite left,
    isInfinite_of_isFinite right, nonzero]

/-- A quotient by a whole number of units has the quanta of the dividend, divided. -/
theorem div_of_units {n : Nat} (left : x.isFinite = true) (right : y.isFinite = true)
    (nonzero : y.isZero = false) (units : f.quanta y.magnitude = n * f.unit) :
    x / y = rounded (x.negative != y.negative) (f.quanta x.magnitude) n := by
  rw [div_of_isFinite left right nonzero, units]
  unfold rounded
  congr 1
  exact f.round_mul _ _ f.unit_pos

end LidarSieve.Binary.Number
