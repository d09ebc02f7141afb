import LidarSieve.Proofs.Order
import LidarSieve.Proofs.Spacing
import LidarSieve.Proofs.Validity
import LidarSieve.Visibility
/-!
# Sectors in hundredths of a degree

The bounds of a sector are given in degrees, and valid bounds are in order.  The region keeps them
in hundredths of a degree, which takes one rounded product each.  The products stay within a turn
and are not out of order, but a place of a hundredfold weighs up to `2 ^ 7` places of the word: of
two neighbouring words the products may be the same one, and then the sector is empty.  Words with
another one between them are more than such a place apart, and their products differ
(`Number.mul_hundred_lt_of_between`).

Hundredfolds that differ are nineteen quanta apart or more (`Number.quanta_round_hundredfold_apart`),
so that the width of a column is not rounded to zero.
-/
set_option autoImplicit false

namespace LidarSieve

open LidarSieve.Binary

namespace Binary.Number

variable {x y : Single}

/-! ## Hundredfolds -/

/-- One degree, in hundredths. -/
theorem hundred_spec : (100 : Single).isFinite = true ∧ (0 : Single) ≤ 100 ∧
    single.quanta (100 : Single).magnitude = 100 * single.unit := by
  decide

/-- One turn, in degrees and in hundredths. -/
theorem turn_spec : (360 : Single).isFinite = true ∧ (36000 : Single).isFinite = true ∧
    (360 : Single) * 100 = 36000 := by
  decide

/-- Directions of one turn are finite. -/
theorem isFinite_of_le_turn (zero_le : 0 ≤ x) (le : x ≤ 360) : x.isFinite = true :=
  isFinite_of_between zero_le le turn_spec.1

/-- A hundredfold is rounded from the hundredfold number of quanta. -/
theorem key_mul_hundred (zero_le : 0 ≤ x) (finite : x.isFinite = true) :
    (x * 100).key = single.round (100 * single.quanta x.magnitude) 1 := by
  have units : single.quanta x.magnitude * single.quanta (100 : Single).magnitude * 1 =
      100 * single.quanta x.magnitude * single.unit := by
    rw [hundred_spec.2.2]
    ring
  rw [key_mul_of_nonneg finite hundred_spec.1 (key_nonneg zero_le) (key_nonneg hundred_spec.2.1),
    single.round_congr single.unit_pos Nat.one_pos units]

theorem isNaN_mul_hundred (finite : x.isFinite = true) : (x * 100).isNaN = false := by
  rw [mul_of_isFinite finite hundred_spec.1]
  exact isNaN_rounded _ _ _

theorem zero_le_mul_hundred (zero_le : 0 ≤ x) (finite : x.isFinite = true) : 0 ≤ x * 100 := by
  rw [le_iff, key_mul_hundred zero_le finite, key_zero]
  exact ⟨isNaN_zero, isNaN_mul_hundred finite, Int.natCast_nonneg _⟩

theorem magnitude_mul_hundred (zero_le : 0 ≤ x) (finite : x.isFinite = true) :
    (x * 100).magnitude = single.round (100 * single.quanta x.magnitude) 1 := by
  have key := key_eq_magnitude (key_nonneg (zero_le_mul_hundred zero_le finite))
  rw [key_mul_hundred zero_le finite, Int.ofNat_inj] at key
  exact key.symm

/-- Hundredfolds are not out of order. -/
theorem mul_hundred_mono (zero_le : 0 ≤ x) (le : x ≤ y) (finite : y.isFinite = true) :
    x * 100 ≤ y * 100 :=
  mul_le_mul zero_le le finite hundred_spec.2.1 (le_self (isNaN_of_isFinite hundred_spec.1))
    hundred_spec.1

/-- The hundredfold of a direction in degrees is a direction in hundredths. -/
theorem mul_hundred_le (zero_le : 0 ≤ x) (le : x ≤ 360) : x * 100 ≤ 36000 := by
  rw [← turn_spec.2.2]
  exact mul_hundred_mono zero_le le turn_spec.1

/-- So it is finite. -/
theorem isFinite_mul_hundred (zero_le : 0 ≤ x) (le : x ≤ 360) : (x * 100).isFinite = true :=
  isFinite_of_between (zero_le_mul_hundred zero_le (isFinite_of_le_turn zero_le le))
    (mul_hundred_le zero_le le) turn_spec.2.1

/-! ## Hundredfolds of words with another one between them -/

/-- The place of a hundredfold weighs at most `2 ^ 7` places of the word. -/
theorem excess_hundredfold_le {k n : Nat} (few : n < 2 ^ 31 * 2 ^ k) :
    single.excess n 1 ≤ k + 7 := by
  have bits : single.fractionBits = 23 := rfl
  unfold Format.excess
  rw [Nat.div_one, bits]
  rcases Nat.eq_zero_or_pos n with rfl | pos
  · simp
  · rw [← Nat.pow_add] at few
    have := (Nat.log2_lt (Nat.ne_of_gt pos)).mpr few
    omega

/-- Hundredfolds of values that are two magnitudes apart are rounded apart. -/
theorem round_hundredfold_lt {m : Nat}
    (finite : single.round (100 * single.quanta (m + 2)) 1 < single.infinity) :
    single.round (100 * single.quanta m) 1 < single.round (100 * single.quanta (m + 2)) 1 := by
  obtain ⟨k, a, shifted, rfl⟩ := single.exists_shifted m
  obtain ⟨lower, upper⟩ := Format.quanta_succ_succ shifted
  have fractions : single.fractions = 8388608 := by decide
  have below := shifted.below
  rw [fractions] at below
  have place := Nat.two_pow_pos k
  have few : 100 * single.quanta (k * single.fractions + a + 2) < 2 ^ 31 * 2 ^ k := by
    have significand : (a + 3) * 2 ^ k ≤ 16777218 * 2 ^ k := Nat.mul_le_mul_right _ (by omega)
    omega
  have weight : 2 ^ single.excess (100 * single.quanta (k * single.fractions + a + 2)) 1 ≤
      128 * 2 ^ k := by
    calc 2 ^ single.excess (100 * single.quanta (k * single.fractions + a + 2)) 1
        ≤ 2 ^ (k + 7) := Nat.pow_le_pow_right (by decide) (excess_hundredfold_le few)
      _ = 128 * 2 ^ k := by ring
  refine Format.round_lt_round ?_ finite
  have value := Format.quanta_shifted shifted
  have steps : (a + 2) * 2 ^ k = a * 2 ^ k + 2 * 2 ^ k := Nat.add_mul _ _ _
  omega

/-- Words with another one between them have different hundredfolds. -/
theorem mul_hundred_lt_of_between {w : Single} (zero_le : 0 ≤ x) (after : x < w) (before : w < y)
    (le : y ≤ 360) : x * 100 < y * 100 := by
  have zero_le' : 0 ≤ y := le_trans zero_le (le_of_lt (lt_trans after before))
  have finite : y.isFinite = true := isFinite_of_le_turn zero_le' le
  have finite' : x.isFinite = true :=
    isFinite_of_between zero_le (le_of_lt (lt_trans after before)) finite
  -- Counted in magnitudes, the words are two steps apart.
  have steps : x.magnitude + 2 ≤ y.magnitude := by
    have first := (lt_iff.mp after).2.2
    have second := (lt_iff.mp before).2.2
    have low := key_eq_magnitude (key_nonneg zero_le)
    have high := key_eq_magnitude (key_nonneg zero_le')
    omega
  have bound := magnitude_le_of_isFinite finite
  have within : (y * 100).magnitude < single.infinity :=
    of_decide_eq_true (isFinite_mul_hundred zero_le' le)
  rw [magnitude_mul_hundred zero_le' finite] at within
  have mono : single.round (100 * single.quanta (x.magnitude + 2)) 1 ≤
      single.round (100 * single.quanta y.magnitude) 1 := by
    refine Format.round_mono Nat.one_pos Nat.one_pos (Nat.mul_le_mul_right 1 ?_)
    refine Nat.mul_le_mul_left 100 ?_
    exact (Format.quanta_le_quanta_iff (steps.trans bound) bound).mpr steps
  have less := round_hundredfold_lt (m := x.magnitude) (by omega)
  rw [lt_iff, key_mul_hundred zero_le finite', key_mul_hundred zero_le' finite]
  exact ⟨isNaN_mul_hundred finite', isNaN_mul_hundred finite, Int.ofNat_lt.mpr (less.trans_le mono)⟩

/-! ## Hundredfolds that differ -/

/-- Hundredfolds of different numbers of quanta that are not rounded to the same magnitude are
rounded well apart. -/
theorem quanta_round_hundredfold_apart {m n : Nat} (less : m < n)
    (apart : single.round (100 * m) 1 < single.round (100 * n) 1)
    (finite : single.round (100 * n) 1 < single.infinity) :
    single.quanta (single.round (100 * m) 1) + 19 ≤ single.quanta (single.round (100 * n) 1) := by
  have finite' := apart.trans finite
  have differ : single.quanta (single.round (100 * m) 1) <
      single.quanta (single.round (100 * n) 1) := by
    rw [← Nat.not_le, Format.quanta_le_quanta_iff finite.le finite'.le]
    exact Nat.not_le_of_lt apart
  have low := Format.two_mul_quanta_round_le Nat.one_pos finite'
  have high := Format.two_mul_le_quanta_round Nat.one_pos finite
  have value := Format.quanta_round finite'
  have value' := Format.quanta_round finite
  have excess_le := single.excess_mono Nat.one_pos Nat.one_pos
    (show 100 * m * 1 ≤ 100 * n * 1 by omega)
  have below := single.roundQuotient_excess_le (100 * m) 1
  have full (some_excess : 0 < single.excess (100 * n) 1) :=
    Format.fractions_le_roundQuotient_excess some_excess
  have fractions : single.fractions = 8388608 := by decide
  simp only [Nat.pow_eq, fractions] at below full
  generalize single.excess (100 * m) 1 = e at *
  generalize single.excess (100 * n) 1 = e' at *
  generalize roundQuotient (100 * m) (1 * 2 ^ e) = r at *
  generalize roundQuotient (100 * n) (1 * 2 ^ e') = r' at *
  rcases Nat.lt_or_ge e 5 with narrow | wide
  · have places : 2 ^ e ≤ 2 ^ 4 := Nat.pow_le_pow_right (by decide) (by omega)
    rcases Nat.lt_or_ge e' 7 with near | far
    · -- Half a place on either side is little compared with a hundred quanta.
      have places' : 2 ^ e' ≤ 2 ^ 6 := Nat.pow_le_pow_right (by decide) (by omega)
      omega
    · have places' : 2 ^ 7 ≤ 2 ^ e' := Nat.pow_le_pow_right (by decide) far
      have upper : r * 2 ^ e ≤ 2 * 8388608 * 2 ^ 4 := Nat.mul_le_mul below places
      have lower : 8388608 * 2 ^ 7 ≤ r' * 2 ^ e' := Nat.mul_le_mul (full (by omega)) places'
      omega
  · -- Both values are multiples of a place that weighs enough.
    have multiple : 2 ^ 5 ∣ r * 2 ^ e := (Nat.pow_dvd_pow 2 wide).mul_left r
    have multiple' : 2 ^ 5 ∣ r' * 2 ^ e' := (Nat.pow_dvd_pow 2 (wide.trans excess_le)).mul_left r'
    omega

/-! ## Widths -/

theorem div_columns {z : Single} (finite : z.isFinite = true) :
    z / 36 = rounded z.negative (single.quanta z.magnitude) 36 := by
  have columns : (36 : Single).isFinite = true ∧ (36 : Single).isZero = false ∧
      (36 : Single).negative = false ∧
      single.quanta (36 : Single).magnitude = 36 * single.unit := by decide
  obtain ⟨finite', nonzero, positive, units⟩ := columns
  rw [div_of_units finite finite' nonzero units, positive, Bool.bne_false]

/-- A column is wider than zero, if the sector is not so narrow that it is rounded to zero. -/
theorem zero_lt_column_iff {z : Single} (finite : z.isFinite = true)
    (enough : 0 < z.magnitude → 19 ≤ single.quanta z.magnitude) : 0 < z / 36 ↔ 0 < z := by
  rw [div_columns finite, zero_lt_rounded_iff, zero_lt_iff (isNaN_of_isFinite finite)]
  refine and_congr_right fun _ => ?_
  rcases Nat.eq_zero_or_pos z.magnitude with zeroMagnitude | positive
  · rw [zeroMagnitude, Format.quanta_zero, Format.round_eq_zero (by decide)]
  · have least : single.round 19 36 = 1 := by decide
    have width : single.round 19 36 ≤ single.round (single.quanta z.magnitude) 36 :=
      Format.round_mono (by decide) (by decide) (Nat.mul_le_mul_right 36 (enough positive))
    omega

/-- Bounds that are enough quanta apart, if they differ, have a column wider than zero exactly if
they differ. -/
theorem zero_lt_column_iff_lt {u v : Single} (zero_le : 0 ≤ u) (le : u ≤ v)
    (finite : v.isFinite = true)
    (apart : u < v → single.quanta u.magnitude + 19 ≤ single.quanta v.magnitude) :
    0 < (v - u) / 36 ↔ u < v := by
  have finite' := isFinite_of_between zero_le le finite
  have size := magnitude_sub zero_le le finite
  have finite_sub : (v - u).isFinite = true := by
    refine decide_eq_true (Nat.lt_of_le_of_lt ?_ (of_decide_eq_true finite))
    rw [size]
    refine Format.round_le Nat.one_pos (magnitude_le_of_isFinite finite) ?_
    rw [Nat.mul_one]
    exact Nat.sub_le _ _
  rw [← zero_lt_sub_iff finite' finite]
  refine zero_lt_column_iff finite_sub fun positive => ?_
  have less : u < v := by
    rw [lt_iff_quanta_lt finite' finite, quanta_of_nonneg zero_le,
      quanta_of_nonneg (le_trans zero_le le)]
    by_contra not_less
    have noQuanta : single.quanta v.magnitude - single.quanta u.magnitude = 0 := by omega
    rw [size, noQuanta, Format.round_eq_zero (by decide)] at positive
    omega
  have nineteen : single.quanta 19 = 19 := by decide
  have enough := apart less
  rw [← nineteen, Format.quanta_le_quanta_iff (by decide) (magnitude_le_of_isFinite finite_sub),
    size]
  refine Format.le_round Nat.one_pos (by decide) ?_
  omega

/-- The hundredfolds of directions in order have a column wider than zero exactly if they differ. -/
theorem zero_lt_column_hundredfolds_iff (zero_le : 0 ≤ x) (le : x ≤ y) (turn : y ≤ 360) :
    0 < (y * 100 - x * 100) / 36 ↔ x * 100 < y * 100 := by
  have zero_le' := le_trans zero_le le
  have finite : y.isFinite = true := isFinite_of_le_turn zero_le' turn
  have finite' : x.isFinite = true := isFinite_of_between zero_le le finite
  have hundredfold := isFinite_mul_hundred zero_le' turn
  refine zero_lt_column_iff_lt (zero_le_mul_hundred zero_le finite')
    (mul_hundred_mono zero_le le finite) hundredfold fun less => ?_
  have apart := (lt_iff.mp less).2.2
  have bound : (y * 100).magnitude < single.infinity := of_decide_eq_true hundredfold
  rw [key_mul_hundred zero_le finite', key_mul_hundred zero_le' finite, Int.ofNat_lt] at apart
  rw [magnitude_mul_hundred zero_le' finite] at bound ⊢
  rw [magnitude_mul_hundred zero_le finite']
  refine quanta_round_hundredfold_apart ?_ apart bound
  by_contra not_less
  exact Nat.not_le_of_lt apart (Format.round_mono Nat.one_pos Nat.one_pos (by omega))

end Binary.Number

/-! ## Sectors of parameters -/

open Binary.Number

namespace Region

/-- The sector of valid parameters has its bounds in hundredths of a degree within a turn, and they
are not out of order.  They differ if there is a word between the bounds in degrees.  Bounds of
neighbouring words may come out the same; then the columns of the grid have no width and the sector
accepts nothing. -/
theorem ofParameters_sector_of_valid (p : Parameters) (valid : p.validate = .ok ())
    (mode : p.regionMode = .sector) :
    ∃ low high, ofParameters p = .sector low high p.maxDistance ∧
      low = p.minAzimuthDeg * 100 ∧ high = p.maxAzimuthDeg * 100 ∧
      0 ≤ low ∧ low ≤ high ∧ high ≤ 36000 ∧
      ((∃ w, p.minAzimuthDeg < w ∧ w < p.maxAzimuthDeg) → low < high) ∧
      (∀ rows threshold, 0 < Grid.resolution ⟨rows, threshold, ofParameters p⟩ ↔ low < high) ∧
      (¬ low < high → ∀ r, (ofParameters p).accepts r = false) := by
  obtain ⟨zero_le, less, turn⟩ := p.degrees_of_valid valid
  have le := le_of_lt less
  have zero_le' := le_trans zero_le le
  have finite := isFinite_of_le_turn zero_le' turn
  have region : ofParameters p =
      .sector (p.minAzimuthDeg * 100) (p.maxAzimuthDeg * 100) p.maxDistance := by
    unfold ofParameters
    rw [mode]
  have finite' := isFinite_of_between zero_le le finite
  refine ⟨_, _, region, rfl, rfl, zero_le_mul_hundred zero_le finite',
    mul_hundred_mono zero_le le finite, mul_hundred_le zero_le' turn, ?_, ?_, ?_⟩
  · rintro ⟨w, after, before⟩
    exact mul_hundred_lt_of_between zero_le after before turn
  · intro rows threshold
    rw [region]
    exact zero_lt_column_hundredfolds_iff zero_le le turn
  · intro not_less r
    rw [region]
    -- A direction between the bounds would put them in order.
    by_contra accepted
    simp only [accepts, Bool.not_eq_false, Bool.and_eq_true] at accepted
    obtain ⟨⟨after, before⟩, -⟩ := accepted
    exact not_less (lt_trans after before)

theorem standard_sector :
    { Parameters.standard with regionMode := .sector }.validate = .ok () ∧
      ∃ low high, ofParameters { Parameters.standard with regionMode := .sector } =
        .sector low high 12 ∧ 0 ≤ low ∧ low < high ∧ high ≤ 36000 := by
  have facts : { Parameters.standard with regionMode := .sector }.validate = .ok () ∧
      Parameters.standard.minAzimuthDeg < 180 ∧ 180 < Parameters.standard.maxAzimuthDeg := by
    decide
  obtain ⟨valid, after, before⟩ := facts
  obtain ⟨low, high, region, -, -, zero_le, -, turn, differ, -⟩ :=
    ofParameters_sector_of_valid { Parameters.standard with regionMode := .sector } valid rfl
  exact ⟨valid, low, high, region, zero_le, differ ⟨180, after, before⟩, turn⟩

/-- Valid parameters whose bounds are neighbouring words above ninety degrees. -/
def narrowParameters : Parameters :=
  { Parameters.standard with
    regionMode := .sector
    minAzimuthDeg := Number.ofBits 0x42B40014
    maxAzimuthDeg := Number.ofBits 0x42B40015 }

theorem narrowParameters_without_sector :
    narrowParameters.validate = .ok () ∧
      narrowParameters.minAzimuthDeg < narrowParameters.maxAzimuthDeg ∧
      ofParameters narrowParameters =
        .sector (Number.ofBits 0x460CA010) (Number.ofBits 0x460CA010) 12 ∧
      ¬ ∃ low high range, ofParameters narrowParameters = .sector low high range ∧ low < high ∧
        0 < Grid.resolution ⟨narrowParameters.verticalBins, narrowParameters.noiseThreshold,
          ofParameters narrowParameters⟩ := by
  have facts : narrowParameters.validate = .ok () ∧
      narrowParameters.minAzimuthDeg < narrowParameters.maxAzimuthDeg ∧
      ofParameters narrowParameters =
        .sector (Number.ofBits 0x460CA010) (Number.ofBits 0x460CA010) 12 := by
    decide
  obtain ⟨valid, order, region⟩ := facts
  refine ⟨valid, order, region, ?_⟩
  rintro ⟨low, high, range, same, less, -⟩
  rw [region] at same
  cases same
  exact Int.lt_irrefl _ (lt_iff.mp less).2.2

end Region

end LidarSieve
