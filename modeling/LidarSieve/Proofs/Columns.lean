import Mathlib.Algebra.Order.Floor.Semifield
import Mathlib.Data.Rat.Floor
import LidarSieve.Proofs.Accuracy
import LidarSieve.Proofs.Decimals
import LidarSieve.Proofs.Occupancy
/-!
# Columns of a full turn

Where the region spans a full turn, a column of the grid is ten degrees wide, a thousand hundredths,
and the column of a return is the whole part of a rounded quotient by a thousand.  Rounding could
take a direction just below a multiple of a thousand to the multiple.  It does not, because places
are lost by the division: the place of the quotient weighs less than a five-hundredth of the place of
the direction, and a direction below a multiple is one of its own places below it
(`Number.quanta_round_thousandth_lt`).  So the column is the one of the exact quotient
(`Grid.column_of_full_turn`).
-/
set_option autoImplicit false

namespace LidarSieve

open LidarSieve.Binary

namespace Binary.Number

/-! ## Quotients by a thousand -/

/-- The places of directions of one turn are parts of one. -/
theorem two_pow_dvd_unit {k a : Nat} (shifted : single.IsShifted k a)
    (le : a * 2 ^ k ≤ 36000 * single.unit) : 2 ^ k ∣ single.unit := by
  have unit : single.unit = 2 ^ 149 := rfl
  have fractions : single.fractions = 2 ^ 23 := rfl
  refine unit ▸ Nat.pow_dvd_pow 2 ?_
  rcases shifted.full with unshifted | large
  · omega
  · have wide : 2 ^ (23 + k) < 2 ^ 165 := by
      calc 2 ^ (23 + k) = 2 ^ 23 * 2 ^ k := Nat.pow_add 2 23 k
        _ ≤ a * 2 ^ k := Nat.mul_le_mul_right _ (fractions ▸ large)
        _ ≤ 36000 * single.unit := le
        _ < 2 ^ 165 := by rw [unit]; decide
    have := (Nat.pow_lt_pow_iff_right (by decide)).mp wide
    omega

/-- A direction below a multiple of a thousand has a thousandth that is not rounded to the whole
number. -/
theorem quanta_round_thousandth_lt {m n : Nat} (finite : m < single.infinity) (few : n ≤ 36)
    (less : single.quanta m < 1000 * (n * single.unit)) :
    single.quanta (single.round (single.quanta m) 1000) < n * single.unit := by
  obtain ⟨k, a, shifted, rfl⟩ := single.exists_shifted m
  have value := Format.quanta_shifted shifted
  have below := shifted.below
  have fractions : single.fractions = 8388608 := by decide
  have turn : n * single.unit ≤ 36 * single.unit := Nat.mul_le_mul_right _ few
  have bounded : single.round (a * 2 ^ k) 1000 ≤ k * single.fractions + a := by
    refine Format.round_le (by decide) finite.le ?_
    rw [value]
    omega
  -- The direction is one of its own places below the multiple.
  have gap : a * 2 ^ k + 2 ^ k ≤ 1000 * (n * single.unit) := by
    obtain ⟨c, whole⟩ := two_pow_dvd_unit shifted (by rw [value] at less; omega)
    have multiple : 1000 * (n * single.unit) = 1000 * (n * c) * 2 ^ k := by
      rw [whole]
      ring
    rw [value, multiple] at less
    rw [multiple, ← Nat.succ_mul]
    exact Nat.mul_le_mul_right _ (Nat.lt_of_mul_lt_mul_right less)
  rw [value] at less ⊢
  by_contra reached
  have low : 2 * (single.quanta (single.round (a * 2 ^ k) 1000) * 1000) ≤
      2 * (a * 2 ^ k) + 1000 * 2 ^ single.excess (a * 2 ^ k) 1000 :=
    Format.two_mul_quanta_round_le (by decide) (bounded.trans_lt finite)
  rcases Nat.eq_zero_or_pos (single.excess (a * 2 ^ k) 1000) with no_excess | some_excess
  · -- The place of the quotient is a quantum, and the direction has next to none.
    have few_quanta : a * 2 ^ k < 2 * 8388608 * 2 ^ k :=
      Nat.mul_lt_mul_of_pos_right (fractions ▸ below) (Nat.two_pow_pos k)
    have positive : 0 < n := by
      by_contra no_multiple
      rw [Nat.eq_zero_of_not_pos no_multiple] at less
      omega
    have one_le : single.unit ≤ n * single.unit := Nat.le_mul_of_pos_left _ positive
    have many_quanta : 2 ^ 40 ≤ single.unit := by decide
    rw [no_excess, Nat.pow_zero] at low
    omega
  · have filled := Format.fractions_mul_two_pow_excess_le some_excess
    have lost : single.fractions * 2 ^ single.excess (a * 2 ^ k) 1000 * 1000 ≤ a * 2 ^ k :=
      (Nat.mul_le_mul_right 1000 filled).trans (Nat.div_mul_le_self _ _)
    have place : a * 2 ^ k < 2 * single.fractions * 2 ^ k :=
      Nat.mul_lt_mul_of_pos_right below (Nat.two_pow_pos k)
    rw [fractions] at lost place
    omega

/-- The whole part of a rounded thousandth is the one of the exact thousandth. -/
theorem le_quanta_round_thousandth_iff {m n : Nat} (finite : m < single.infinity) (few : n ≤ 36) :
    n ≤ single.quanta (single.round (single.quanta m) 1000) / single.unit ↔
      n ≤ single.quanta m / (1000 * single.unit) := by
  rw [Nat.le_div_iff_mul_le single.unit_pos,
    Nat.le_div_iff_mul_le (Nat.mul_pos (by decide) single.unit_pos), Nat.mul_left_comm]
  constructor
  · intro reached
    by_contra less
    exact Nat.not_lt_of_le reached (quanta_round_thousandth_lt finite few (Nat.not_le.mp less))
  · intro le
    obtain ⟨word, bounded, value⟩ := Format.exists_quanta_eq (f := single) single.scale
      (show n < 2 * single.fractions from Nat.lt_of_le_of_lt few (by decide))
    have value : single.quanta word = n * single.unit := value
    have room : single.scale * single.fractions + 36 ≤ single.infinity := by decide
    have bounded' : word ≤ single.infinity := by omega
    rw [← value] at le ⊢
    rw [Format.quanta_le_quanta_iff bounded' (single.round_le_infinity _ _)]
    exact Format.le_round (by decide) bounded' (by omega)

/-! ## Words that stay as they are -/

/-- A finite word is the rounded one of its own quanta. -/
theorem ofQuanta_quanta {f : Format} {x : Number f} (finite : x.isFinite = true) :
    ofQuanta x.negative x.quanta = x := by
  have exact_value := Format.round_quanta (magnitude_le_of_isFinite finite)
  refine ext_magnitude ?_ ?_
  · unfold ofQuanta
    split_ifs with vanishes
    · rfl
    · unfold quanta at vanishes ⊢
      cases sign : x.negative with
      | false =>
        rw [sign] at vanishes
        simp [rounded]
      | true =>
        rw [sign] at vanishes
        simp only [if_true] at vanishes ⊢
        exact decide_eq_true (by omega)
  · rw [magnitude_ofQuanta]
    unfold quanta
    cases x.negative <;> simp [exact_value]

/-- Taking zero away takes nothing away. -/
theorem sub_zero {f : Format} {x : Number f} (finite : x.isFinite = true) : x - 0 = x := by
  have nothing : (0 : Number f).isFinite = true ∧ (-(0 : Number f)).negative = true ∧
      (-(0 : Number f)).quanta = 0 := by
    have some_finite := Nat.zero_lt_of_lt (of_decide_eq_true finite)
    rw [quanta_neg, zero_eq]
    refine ⟨decide_eq_true some_finite, rfl, ?_⟩
    simp [quanta, zero, Format.quanta_zero]
  obtain ⟨finite', negative, quanta⟩ := nothing
  rw [sub_eq_add_neg, add_of_isFinite finite (isFinite_neg.trans finite'), negative, quanta,
    Bool.and_true, Int.add_zero, ofQuanta_quanta finite]

theorem truncate_of_isFinite {x : Single} {limit : Nat} (finite : x.isFinite = true)
    (positive : x.negative = false) :
    x.truncate limit = min (single.quanta x.magnitude / single.unit) (limit - 1) := by
  unfold truncate
  simp [isNaN_of_isFinite finite, isInfinite_of_isFinite finite, positive]

end Binary.Number

namespace Grid

/-! ## Directions -/

/-- A finite direction is not below zero, and stands for the direction of the record or for
zero. -/
theorem direction_of_isFinite {r : Return} (finite : r.azimuth.isFinite = true) :
    (direction r).isFinite = true ∧ (direction r).negative = false ∧
      (direction r).value = max r.azimuth.value 0 := by
  have number := Number.isNaN_of_isFinite finite
  have zero_finite : (0 : Single).isFinite = true := by decide
  have zero_value : (0 : Single).value = 0 := by
    rw [Number.zero_eq, Number.value_zero]
  unfold direction Number.maximum
  rw [number, if_neg Bool.false_ne_true]
  split_ifs with le
  · have below := (Number.value_le_value_iff finite zero_finite).mpr le
    rw [zero_value] at below
    exact ⟨zero_finite, by decide, by rw [zero_value, max_eq_right below]⟩
  · have above := Number.lt_of_not_le number Number.isNaN_zero le
    have le' := Number.le_of_lt above
    have value := (Number.value_le_value_iff zero_finite finite).mpr le'
    rw [zero_value] at value
    exact ⟨finite, ((Number.zero_lt_iff number).mp above).1, (max_eq_left value).symm⟩

/-- The column of the exact direction of a return, where a column is ten degrees wide. -/
def exactColumn (r : Return) : Nat := min 35 ⌊max r.azimuth.value 0 / 1000⌋₊

/-! ## Regions that span a full turn -/

theorem value_fullTurn : fullTurn.value = 36000 := by
  rw [Number.value_of_quanta (q := 36000 * 2 ^ 149) (by decide)]
  norm_num

section FullTurn

variable (grid : Grid) (no_sector : ∀ low high range, grid.region ≠ .sector low high range)

include no_sector

theorem azimuthRange_of_full_turn : grid.region.azimuthRange = (0, fullTurn) := by
  unfold Region.azimuthRange
  cases region : grid.region with
  | everywhere => rfl
  | box bounds => rfl
  | sector low high range => exact absurd region (no_sector low high range)

/-- The returns that are counted, in terms of their exact directions. -/
theorem counts_of_full_turn (r : Return) : grid.counts r = true ↔
    r.ring < grid.rows.toNat ∧ r.azimuth.isFinite = true ∧ r.azimuth.value ≤ 36000 ∧
      grid.region.accepts r = true := by
  rw [counts_iff, grid.azimuthRange_of_full_turn no_sector]
  refine and_congr_right fun _ => and_congr_right fun finite => ?_
  obtain ⟨finite', -, value⟩ := direction_of_isFinite finite
  have start : ¬ direction r < 0 := by
    rw [← Number.value_lt_value_iff finite' (by decide), value, Number.zero_eq, Number.value_zero,
      not_lt]
    exact le_max_right _ _
  have stop : ¬ fullTurn < direction r ↔ r.azimuth.value ≤ 36000 := by
    rw [← Number.value_lt_value_iff isFinite_fullTurn finite', value, value_fullTurn, not_lt]
    exact ⟨fun le => (le_max_left _ _).trans le, fun le => max_le le (by decide)⟩
  rw [stop]
  exact and_iff_right start

/-- The quotient of a direction by the width of a column is its thousandth. -/
theorem column_eq_of_full_turn {r : Return} (finite : r.azimuth.isFinite = true) :
    grid.column r = min 35
      (single.quanta (single.round (single.quanta (direction r).magnitude) 1000) /
        single.unit) := by
  obtain ⟨finite', positive, -⟩ := direction_of_isFinite finite
  have width : grid.resolution = 1000 := by
    unfold resolution
    rw [grid.azimuthRange_of_full_turn no_sector]
    decide
  have thousand : (1000 : Single).isFinite = true ∧ (1000 : Single).isZero = false ∧
      (1000 : Single).negative = false ∧
      single.quanta (1000 : Single).magnitude = 1000 * single.unit := by decide
  obtain ⟨divisor_finite, nonzero, divisor_positive, units⟩ := thousand
  have quotient : direction r / 1000 =
      Number.rounded false (single.quanta (direction r).magnitude) 1000 := by
    rw [Number.div_of_units finite' divisor_finite nonzero units, positive, divisor_positive]
    rfl
  have quotient_finite : (direction r / 1000).isFinite = true := by
    rw [quotient]
    refine decide_eq_true (Nat.lt_of_le_of_lt ?_ (of_decide_eq_true finite'))
    exact Format.round_le (by decide) (Number.magnitude_le_of_isFinite finite') (by omega)
  have many_sizes : 36 ≤ sizeBound := by decide
  unfold column sectors
  rw [width, grid.azimuthRange_of_full_turn no_sector, Number.sub_zero finite',
    Number.truncate_of_isFinite quotient_finite (by rw [quotient]; rfl), quotient]
  simp only [Number.rounded]
  omega

/-- The column of a return that is counted is the one of its exact direction. -/
theorem column_eq_exactColumn {r : Return} (finite : r.azimuth.isFinite = true) :
    grid.column r = exactColumn r := by
  obtain ⟨finite', positive, value⟩ := direction_of_isFinite finite
  have whole : ⌊max r.azimuth.value 0 / 1000⌋₊ =
      single.quanta (direction r).magnitude / (1000 * single.unit) := by
    rw [← value, Number.value_eq, positive, Number.signFactor, if_neg Bool.false_ne_true, one_mul,
      div_div, mul_comm, ← Nat.floor_div_eq_div (K := ℚ)]
    push_cast
    rfl
  have le_iff {n : Nat} (few : n ≤ 36) :=
    Number.le_quanta_round_thousandth_iff (of_decide_eq_true finite') few
  rw [grid.column_eq_of_full_turn no_sector finite, exactColumn, whole]
  -- Up to the last column, the two whole parts are not below the same numbers.
  refine Nat.le_antisymm (Nat.le_min.mpr ⟨Nat.min_le_left _ _, ?_⟩)
    (Nat.le_min.mpr ⟨Nat.min_le_left _ _, ?_⟩)
  · exact (le_iff (by omega)).mp (Nat.min_le_right _ _)
  · exact (le_iff (by omega)).mpr (Nat.min_le_right _ _)

/-- Whatever the returns hold, in a region that is no sector:

* those are counted whose ring has a row, whose direction is a number of at most a full turn, and
  which the region accepts;
* the column of a return that is counted is the exact one, and no direction below the end of a column
  is taken to the next one;
* so a cell counts the returns of its row whose exact direction lies in its column. -/
theorem columns_are_exact (returns : Array Return) :
    (∀ r, grid.counts r = true ↔
      r.ring < grid.rows.toNat ∧ r.azimuth.isFinite = true ∧ r.azimuth.value ≤ 36000 ∧
        grid.region.accepts r = true) ∧
    (∀ r, grid.counts r = true →
      grid.column r = min 35 ⌊max r.azimuth.value 0 / 1000⌋₊ ∧
        ∀ n : Nat, 0 < n → r.azimuth.value < 1000 * n → grid.column r < n) ∧
    ∀ counts, grid.counts? returns = some counts →
      ∀ row < grid.rows.toNat, ∀ column < sectors,
        counts[row * sectors + column]? = some (octetCount (returns.countP fun r =>
          grid.counts r && r.ring == row && exactColumn r == column)) := by
  have finite {r : Return} (counted : grid.counts r = true) : r.azimuth.isFinite = true :=
    ((grid.counts_iff r).mp counted).2.1
  refine ⟨grid.counts_of_full_turn no_sector,
    fun r counted => ⟨?_, fun n positive below => ?_⟩, ?_⟩
  · exact grid.column_eq_exactColumn no_sector (finite counted)
  · rw [grid.column_eq_exactColumn no_sector (finite counted), exactColumn]
    refine Nat.lt_of_le_of_lt (Nat.min_le_right _ _) ?_
    have multiple : (0 : ℚ) < 1000 * n := by positivity
    rw [Nat.floor_lt (by positivity), div_lt_iff₀' (by decide)]
    exact max_lt below multiple
  · intro counts made row row_lt column column_lt
    rw [grid.getElem?_counts made row_lt column_lt, load]
    refine congrArg (fun n => some (octetCount n)) (Array.countP_congr fun r _ => ?_)
    rw [decide_eq_true_iff, fallsInto_iff, Bool.and_eq_true, Bool.and_eq_true, beq_iff_eq,
      beq_iff_eq, and_assoc]
    refine and_congr_right fun counted => ?_
    rw [grid.column_eq_exactColumn no_sector (finite counted)]

end FullTurn

/-- A return whose direction is the greatest word below 330 degrees. -/
def returnBelowBoundary : Return := ⟨5, 0, 0, 0, 1, Number.ofBits 0x4700E7FF, 5⟩

theorem column_returnBelowBoundary :
    (∀ low high range, sampleSnapshot.grid.region ≠ .sector low high range) ∧
      sampleSnapshot.grid.counts returnBelowBoundary = true ∧
      returnBelowBoundary.azimuth.value < 33000 ∧
      sampleSnapshot.grid.column returnBelowBoundary < 33 := by
  have no_sector : ∀ low high range, sampleSnapshot.grid.region ≠ .sector low high range := nofun
  have counted : sampleSnapshot.grid.counts returnBelowBoundary = true := by decide
  have below : returnBelowBoundary.azimuth.value < 33000 := by
    rw [Number.value_of_quanta (q := 8447999 * 2 ^ 141) (by decide)]
    norm_num
  obtain ⟨-, exact_column, -⟩ := sampleSnapshot.grid.columns_are_exact no_sector #[]
  have less := (exact_column returnBelowBoundary counted).2 33 (by decide) (by
    push_cast
    linarith)
  exact ⟨no_sector, counted, below, less⟩

end Grid
end LidarSieve
