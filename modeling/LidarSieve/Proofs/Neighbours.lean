import LidarSieve.Proofs.Order
import LidarSieve.Proofs.Segmentation
/-!
# Neighbours in a walk

A walk steps from a return to the next one if their ranges are similar and the gap between their
directions is below a limit.  What such a step is meant to say of the two returns is
`Return.Adjoins`; what it does say, whatever words the records hold, is `Return.Linked`.

The two differ in two places.  The greater and the lesser of two ranges pass over a range that is
no number, so that one missing range is similar to any other.  And a gap is corrected by one turn
only, so that a step that goes back by more than a turn, or by infinitely many, has a gap below
zero and below every limit.  `Scan.adjoins_iff_of_mem_walks` says that there is no third one.
-/
set_option autoImplicit false

namespace LidarSieve

open LidarSieve.Binary

/-! ## Gaps -/

section Gaps

variable {current next : Single}

theorem isFinite_fullTurn : fullTurn.isFinite = true := by decide

/-- A gap below the limit is no not-a-number, and so is the step that it comes from. -/
theorem isNaN_step_of_gap_lt (near : azimuthGap current next < azimuthLimit) :
    (next - current).isNaN = false := by
  have number := (Number.lt_iff.mp near).1
  by_contra nan
  rw [Bool.not_eq_false] at nan
  have unordered : ¬ next - current < 0 := by
    rw [Number.lt_iff, nan]
    simp
  rw [azimuthGap, if_neg unordered, nan] at number
  cases number

/-- A step whose gap is below the limit is finite, or goes back without an end. -/
theorem step_of_gap_lt (near : azimuthGap current next < azimuthLimit) :
    (next - current).isFinite = true ∨ next - current = Number.infinity true := by
  have number := isNaN_step_of_gap_lt near
  unfold azimuthGap at near
  dsimp only at near
  generalize next - current = step at near number ⊢
  rcases step.kinds with nan | infinite | finite
  · rw [nan] at number
    cases number
  · rw [Number.eq_infinity_of_isInfinite infinite] at near ⊢
    generalize step.negative = negative at near ⊢
    cases negative with
    | false => exact absurd near (by decide)
    | true => exact .inr rfl
  · exact .inl finite

/-- A gap below the limit goes forward exactly if the step does not go back by more than a turn. -/
theorem zero_le_azimuthGap_iff (near : azimuthGap current next < azimuthLimit) :
    0 ≤ azimuthGap current next ↔ -fullTurn ≤ next - current := by
  have number := isNaN_step_of_gap_lt near
  have kind := step_of_gap_lt near
  unfold azimuthGap
  dsimp only
  generalize next - current = step at number kind ⊢
  rcases kind with finite | rfl
  · split
    · rw [Number.zero_le_add_iff finite isFinite_fullTurn, Number.le_iff_quanta_le
        (Number.isFinite_neg.trans isFinite_fullTurn) finite, Number.quanta_neg]
      omega
    · rename_i forward
      have nonneg : 0 ≤ step := Number.le_of_not_lt number Number.isNaN_zero forward
      exact iff_of_true nonneg (Number.le_trans (by decide) nonneg)
  · exact iff_of_false (by decide) (by decide +kernel)

/-- Both directions of a step are numbers if its gap is below the limit. -/
theorem isNaN_of_gap_lt (near : azimuthGap current next < azimuthLimit) :
    current.isNaN = false ∧ next.isNaN = false := by
  have number := isNaN_step_of_gap_lt near
  rw [Number.sub_eq_add_neg] at number
  obtain ⟨next_number, current_number⟩ := Number.isNaN_of_isNaN_add number
  exact ⟨Number.isNaN_neg.symm.trans current_number, next_number⟩

/-- Both directions are finite if the gap between them is below the limit and the step does not go
back by more than a turn. -/
theorem isFinite_of_gap_lt (near : azimuthGap current next < azimuthLimit)
    (forward : -fullTurn ≤ next - current) : current.isFinite = true ∧ next.isFinite = true := by
  rcases step_of_gap_lt near with finite | back
  · rw [Number.sub_eq_add_neg] at finite
    obtain ⟨next_finite, current_finite⟩ := Number.isFinite_of_isFinite_add finite
    exact ⟨Number.isFinite_neg.symm.trans current_finite, next_finite⟩
  · rw [back] at forward
    exact absurd forward (by decide)

/-- A step between two directions of one turn does not go back by more than the turn. -/
theorem neg_fullTurn_le_step (current_zero : 0 ≤ current) (current_turn : current ≤ fullTurn)
    (next_zero : 0 ≤ next) (next_turn : next ≤ fullTurn) : -fullTurn ≤ next - current := by
  have zero_finite : (0 : Single).isFinite = true := by decide
  have zero_quanta : (0 : Single).quanta = 0 := by decide
  have current_finite := Number.isFinite_of_between current_zero current_turn isFinite_fullTurn
  have next_finite := Number.isFinite_of_between next_zero next_turn isFinite_fullTurn
  rw [Number.le_iff_quanta_le current_finite isFinite_fullTurn] at current_turn
  rw [Number.le_iff_quanta_le zero_finite next_finite, zero_quanta] at next_zero
  rw [Number.sub_eq_add_neg]
  refine Number.le_add next_finite (Number.isFinite_neg.trans current_finite)
    (Number.isFinite_neg.trans isFinite_fullTurn) ?_
  rw [Number.quanta_neg, Number.quanta_neg]
  omega

end Gaps

/-! ## Ranges -/

section Ranges

variable {ratio low high a b : Single}

/-- A ratio of at least one is positive, and counts no fewer quanta than one. -/
theorem unit_le_quanta_ratio (finite : ratio.isFinite = true) (one_le : 1 ≤ ratio) :
    ratio.negative = false ∧ single.unit ≤ single.quanta ratio.magnitude := by
  have one : (1 : Single).quanta = single.unit := by decide
  have value : (single.unit : Int) ≤ ratio.quanta := by
    rw [← one]
    exact (Number.le_iff_quanta_le (by decide) finite).mp one_le
  have positive := single.unit_pos
  unfold Number.quanta at value
  cases sign : ratio.negative with
  | false =>
    rw [sign] at value
    exact ⟨rfl, Int.ofNat_le.mp value⟩
  | true =>
    rw [sign, if_pos rfl] at value
    omega

/-- Multiplied by a ratio of at least one, a range that is not positive does not grow. -/
theorem key_mul_le (finite : ratio.isFinite = true) (one_le : 1 ≤ ratio)
    (number : low.isNaN = false) (nonpos : low.key ≤ 0) : (low * ratio).key ≤ low.key := by
  obtain ⟨positive, unit_le⟩ := unit_le_quanta_ratio finite one_le
  have ratio_number := Number.isNaN_of_isFinite finite
  have ratio_bounded := Number.isInfinite_of_isFinite finite
  change (Number.mul low ratio).key ≤ low.key
  unfold Number.mul
  simp only [number, ratio_number, ratio_bounded, positive, Bool.or_false, Bool.bne_false,
    Bool.false_eq_true, if_false]
  split
  · rename_i infinite
    have nonzero : ratio.isZero = false := by
      refine decide_eq_false fun zero => ?_
      rw [zero, Format.quanta_zero] at unit_le
      exact absurd unit_le (Nat.not_le_of_lt single.unit_pos)
    rw [Number.eq_infinity_of_isInfinite infinite, nonzero]
    cases low.negative <;> decide
  · rename_i bounded
    have low_finite : low.isFinite = true := by
      have kind := low.kinds
      simpa [number, bounded] using kind
    have bound := Number.magnitude_le_of_isFinite low_finite
    unfold Number.key at nonpos ⊢
    unfold Number.rounded
    dsimp only
    cases sign : low.negative with
    | false =>
      rw [sign] at nonpos
      have zero : low.magnitude = 0 := by simpa using nonpos
      rw [zero, Format.quanta_zero, Nat.zero_mul, Format.round_eq_zero single.unit_pos]
    | true =>
      have away : low.magnitude ≤ single.round
          (single.quanta low.magnitude * single.quanta ratio.magnitude) single.unit :=
        Format.le_round single.unit_pos bound (Nat.mul_le_mul_left _ unit_le)
      simp only [if_true]
      omega

/-- If one range is less than a ratio times another one that is no greater, both are positive and
the greater one is finite. -/
theorem key_bounds_of_lt_mul (finite : ratio.isFinite = true) (one_le : 1 ≤ ratio)
    (below : high < low * ratio) (le : low.key ≤ high.key) :
    0 < low.key ∧ high.key < single.infinity := by
  obtain ⟨-, number, less⟩ := Number.lt_iff.mp below
  have low_number := Number.isNaN_of_isNaN_mul number
  constructor
  · by_contra nonpos
    have shrunk := key_mul_le finite one_le low_number (Int.not_lt.mp nonpos)
    omega
  · have bounded : (low * ratio).magnitude ≤ single.infinity :=
      Nat.le_of_not_lt (of_decide_eq_false number)
    have key_le : (low * ratio).key ≤ (low * ratio).magnitude := by
      unfold Number.key
      split <;> omega
    omega

/-- Of two similar ranges at least one stands for a value, and each that does is positive and
finite. -/
theorem ranges_of_similar (finite : ratio.isFinite = true) (one_le : 1 ≤ ratio)
    (similar : a.maximum b < a.minimum b * ratio) :
    (a.isNaN = false ∨ b.isNaN = false) ∧
      ∀ range, range = a ∨ range = b → range.isNaN = false → 0 < range ∧ range.isFinite = true := by
  refine ⟨Number.isNaN_of_maximum (Number.lt_iff.mp similar).1, fun range either number => ?_⟩
  have between : (a.minimum b).key ≤ range.key ∧ range.key ≤ (a.maximum b).key := by
    rcases either with rfl | rfl
    · exact Number.key_bounds_left number
    · exact Number.key_bounds_right number
  obtain ⟨positive, bounded⟩ :=
    key_bounds_of_lt_mul finite one_le similar (between.1.trans between.2)
  have some_value : 0 < range.key := by omega
  refine ⟨Number.lt_iff.mpr ⟨Number.isNaN_zero, number, ?_⟩, decide_eq_true ?_⟩
  · rw [Number.key_zero]
    exact some_value
  · have sign : range.key = range.magnitude := by
      unfold Number.key at some_value ⊢
      split at some_value
      · omega
      · rename_i unsigned
        rw [if_neg unsigned]
    omega

end Ranges

/-! ## Neighbours of a walk -/

namespace Return

/-- The return has a range, and a direction of one turn. -/
structure IsMeasured (r : Return) : Prop where
  range : r.distance.isNaN = false
  zero_le : 0 ≤ r.azimuth
  le_turn : r.azimuth ≤ fullTurn

/-- What holds of neighbours in a walk whatever words their records hold. -/
structure Linked (ratio : Single) (current next : Return) : Prop where
  current_direction : current.azimuth.isNaN = false
  next_direction : next.azimuth.isNaN = false
  gap_lt : azimuthGap current.azimuth next.azimuth < azimuthLimit
  similar : current.distance.maximum next.distance <
    current.distance.minimum next.distance * ratio
  /-- At least one of the ranges is a number. -/
  some_range : current.distance.isNaN = false ∨ next.distance.isNaN = false
  /-- And those that are one are those of an echo. -/
  ranges : ∀ range, range = current.distance ∨ range = next.distance →
    range.isNaN = false → 0 < range ∧ range.isFinite = true

/-- What neighbours in a walk are meant to be: two echoes of known range and direction, the second
one less than a degree further round than the first and at a similar range. -/
structure Adjoins (ratio : Single) (current next : Return) : Prop where
  current_range : current.distance.isNaN = false
  next_range : next.distance.isNaN = false
  current_direction : current.azimuth.isFinite = true
  next_direction : next.azimuth.isFinite = true
  zero_le_gap : 0 ≤ azimuthGap current.azimuth next.azimuth
  gap_lt : azimuthGap current.azimuth next.azimuth < azimuthLimit
  similar : current.distance.maximum next.distance <
    current.distance.minimum next.distance * ratio

variable {ratio : Single} {current next : Return}

/-- What a walk checks of a step. -/
theorem continues_iff : continues ratio current next = true ↔
    current.distance.maximum next.distance < current.distance.minimum next.distance * ratio ∧
      azimuthGap current.azimuth next.azimuth < azimuthLimit := by
  unfold continues rangesSimilar
  rw [Bool.and_eq_true]
  exact Iff.rfl

theorem linked_of_continues (finite : ratio.isFinite = true) (one_le : 1 ≤ ratio)
    (joined : continues ratio current next = true) : current.Linked ratio next := by
  obtain ⟨similar, near⟩ := continues_iff.mp joined
  obtain ⟨some_range, ranges⟩ := ranges_of_similar finite one_le similar
  obtain ⟨current_direction, next_direction⟩ := isNaN_of_gap_lt near
  exact ⟨current_direction, next_direction, near, similar, some_range, ranges⟩

/-- A walk goes on where it is meant to, except that it takes a step with one range missing or
back by more than a turn. -/
theorem adjoins_iff_of_continues (joined : continues ratio current next = true) :
    current.Adjoins ratio next ↔
      current.distance.isNaN = false ∧ next.distance.isNaN = false ∧
        -fullTurn ≤ next.azimuth - current.azimuth := by
  obtain ⟨similar, near⟩ := continues_iff.mp joined
  constructor
  · intro adjoins
    exact ⟨adjoins.current_range, adjoins.next_range,
      (zero_le_azimuthGap_iff near).mp adjoins.zero_le_gap⟩
  · rintro ⟨current_range, next_range, forward⟩
    obtain ⟨current_direction, next_direction⟩ := isFinite_of_gap_lt near forward
    exact ⟨current_range, next_range, current_direction, next_direction,
      (zero_le_azimuthGap_iff near).mpr forward, near, similar⟩

theorem adjoins_of_isMeasured (joined : continues ratio current next = true)
    (measured : current.IsMeasured) (measured' : next.IsMeasured) :
    current.Adjoins ratio next :=
  (adjoins_iff_of_continues joined).mpr ⟨measured.range, measured'.range,
    neg_fullTurn_le_step measured.zero_le measured.le_turn measured'.zero_le measured'.le_turn⟩

end Return

/-! ## Walks of a scan -/

/-- Neighbours in a walk continue each other. -/
theorem continues_of_mem_walks {ratio : Single} {ring : List Return} {walk : Walk}
    (mem : walk ∈ walks ratio ring) {position : Nat} (from_first : walk.first ≤ position)
    (below : position < walk.last) :
    RelatedAt (continues ratio) ring position (position + 1) := by
  rcases Nat.lt_or_ge ring.length 2 with alone | two
  · rw [walks, runs, if_pos alone] at mem
    cases mem
  · exact (walks_segments ratio ring two).linked walk mem position from_first below

/-- The records of a ring that lists records of the scan are found, and any two neighbours in one
of its walks are linked.  They are what neighbours are meant to be exactly if both have a range and
the step from one to the other does not go back by more than a turn; this is so in particular if
both are measured. -/
theorem Scan.adjoins_iff_of_mem_walks (scan : Scan) (ratio : Single)
    (finite : ratio.isFinite = true) (one_le : 1 ≤ ratio) (ring : List Nat)
    (valid : ∀ index ∈ ring, index < scan.length) :
    ∃ members, ringReturns? scan.returns ring = some members ∧
      ∀ walk ∈ walks ratio members, ∀ position, walk.first ≤ position → position < walk.last →
        ∃ current ∈ ring[position]?.bind scan.return?,
          ∃ next ∈ ring[position + 1]?.bind scan.return?,
            current.Linked ratio next ∧
            (current.Adjoins ratio next ↔
              current.distance.isNaN = false ∧ next.distance.isNaN = false ∧
                -fullTurn ≤ next.azimuth - current.azimuth) ∧
            (current.IsMeasured → next.IsMeasured → current.Adjoins ratio next) := by
  rcases Nat.lt_or_ge ring.length 2 with alone | two
  · refine ⟨[], by rw [ringReturns?, if_pos alone], fun walk mem => ?_⟩
    cases mem
  · obtain ⟨members, found, -, reads⟩ := scan.mapM_returns ring valid
    refine ⟨members, by rw [ringReturns?, if_neg (Nat.not_lt_of_le two), found], ?_⟩
    intro walk mem position from_first below
    obtain ⟨current, at_current, next, at_next, joined⟩ :=
      continues_of_mem_walks mem from_first below
    rw [reads] at at_current at_next
    exact ⟨current, at_current, next, at_next, Return.linked_of_continues finite one_le joined,
      Return.adjoins_iff_of_continues joined, Return.adjoins_of_isMeasured joined⟩

theorem Scan.adjoins_of_sampleRing :
    (Number.ofDecimal false ⟨103, -2⟩ : Single).isFinite = true ∧
      (1 : Single) ≤ Number.ofDecimal false ⟨103, -2⟩ ∧
      (∀ index ∈ [0, 2, 4, 6], index < sampleScan.length) ∧
      ∃ current ∈ sampleScan.return? 2, ∃ next ∈ sampleScan.return? 4,
        current.Adjoins (Number.ofDecimal false ⟨103, -2⟩) next := by
  have finite : (Number.ofDecimal false ⟨103, -2⟩ : Single).isFinite = true := by decide +kernel
  have one_le : (1 : Single) ≤ Number.ofDecimal false ⟨103, -2⟩ := by decide +kernel
  have valid : ∀ index ∈ [0, 2, 4, 6], index < sampleScan.length := by decide
  refine ⟨finite, one_le, valid, ?_⟩
  obtain ⟨members, found, neighbours⟩ :=
    sampleScan.adjoins_iff_of_mem_walks _ finite one_le [0, 2, 4, 6] valid
  have cut : (ringReturns? sampleScan.returns [0, 2, 4, 6]).map
      (walks (Number.ofDecimal false ⟨103, -2⟩)) = some [⟨0, 2⟩, ⟨3, 3⟩] := by
    decide +kernel
  rw [found] at cut
  have first : (⟨0, 2⟩ : Walk) ∈ walks (Number.ofDecimal false ⟨103, -2⟩) members := by
    rw [Option.some.inj cut]
    exact List.mem_cons_self
  obtain ⟨current, at_current, next, at_next, -, -, measured⟩ :=
    neighbours _ first 1 (by decide) (by decide)
  have second : sampleScan.return? 2 = some ⟨4, 1, 0, 9, 1, 50, 5⟩ := by decide +kernel
  have third : sampleScan.return? 4 = some ⟨5, 1, 0, 6, 1, 90, 5⟩ := by decide +kernel
  have same : some ⟨4, 1, 0, 9, 1, 50, 5⟩ = some current := second.symm.trans at_current
  have same' : some ⟨5, 1, 0, 6, 1, 90, 5⟩ = some next := third.symm.trans at_next
  cases same
  cases same'
  exact ⟨_, at_current, _, at_next,
    measured ⟨by decide +kernel, by decide +kernel, by decide +kernel⟩
      ⟨by decide +kernel, by decide +kernel, by decide +kernel⟩⟩

/-! ## Steps that are not meant -/

/-- A return without a range between two others, then one whose direction lies more than a turn
further back, and one without a direction. -/
def looseRecords : List SensorRecord :=
  [{ x := 5, y := 0, z := 0, intensity := 0, ring := 0, azimuth := 0, distance := 5 },
   { x := 5, y := 0, z := 0, intensity := 0, ring := 0, azimuth := 50, distance := Number.nan },
   { x := 5, y := 0, z := 0, intensity := 0, ring := 0, azimuth := 90, distance := 5 },
   { x := 5, y := 0, z := 0, intensity := 0, ring := 0, azimuth := -50000, distance := 5 },
   { x := 5, y := 0, z := 0, intensity := 0, ring := 0, azimuth := Number.infinity true,
     distance := 5 }]

/-- These returns as a sensor publishes them. -/
def looseScan : Scan where
  layout := ⟨48, 0, 4, 8, 12, 16, 20, 28, .little⟩
  data := (looseRecords.flatMap (SensorRecord.octets .little)).toArray
  length := 5
  size_data := by decide +kernel

/-- All of them are taken for one walk, no step of which is meant to be one. -/
theorem looseScan_walks :
    (Number.ofDecimal false ⟨103, -2⟩ : Single).isFinite = true ∧
      (1 : Single) ≤ Number.ofDecimal false ⟨103, -2⟩ ∧
      ∃ members, ringReturns? looseScan.returns [0, 1, 2, 3, 4] = some members ∧
        walks (Number.ofDecimal false ⟨103, -2⟩) members = [⟨0, 4⟩] ∧
        ∀ position < 4, ∀ current ∈ members[position]?, ∀ next ∈ members[position + 1]?,
          ¬ current.Adjoins (Number.ofDecimal false ⟨103, -2⟩) next := by
  refine ⟨by decide +kernel, by decide +kernel,
    looseRecords.map fun r => ⟨r.x, r.y, r.z, r.intensity, r.ring.toNat, r.azimuth, r.distance⟩,
    by decide +kernel, by decide +kernel, ?_⟩
  intro position below current at_current next at_next adjoins
  have places : position = 0 ∨ position = 1 ∨ position = 2 ∨ position = 3 := by omega
  rcases places with rfl | rfl | rfl | rfl
  · cases at_next
    exact absurd adjoins.next_range (by decide)
  · cases at_current
    exact absurd adjoins.current_range (by decide)
  · cases at_current
    cases at_next
    exact absurd adjoins.zero_le_gap (by decide +kernel)
  · cases at_next
    exact absurd adjoins.next_direction (by decide)

end LidarSieve
