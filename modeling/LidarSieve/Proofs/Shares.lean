import LidarSieve.Proofs.Occupancy
import LidarSieve.Proofs.Turning
/-!
# The share of free cells

The score of a grid is one less the share of its filled cells, with two roundings: one for the share
and one for the difference.  Of a grid with fewer than `2 ^ 24` cells both counts have a word without
rounding, and neither end of the range is reached by rounding: a single filled cell is a share of
more than `2 ^ -24`, which is what the greatest word below one differs from one, and with a single
free cell the share is not above this word (`Grid.scoresShare`).  Rounding keeps the order, so that
more filled cells have no higher score (`Grid.score_antitone`).
-/
set_option autoImplicit false

namespace LidarSieve

open LidarSieve.Binary

namespace Grid

/-! ## The words at the upper end -/

/-- The greatest word below one. -/
def belowOne : Single := Number.ofBits 0x3F7FFFFF

theorem belowOne_spec : belowOne.isFinite = true ∧ belowOne < 1 ∧
    belowOne.quanta = single.quanta belowOne.magnitude ∧
    single.quanta belowOne.magnitude + 2 ^ 125 = single.unit := by
  decide

theorem one_spec : (1 : Single).isFinite = true ∧ (1 : Single).quanta = single.unit ∧
    single.quanta (1 : Single).magnitude = single.unit := by
  decide

/-! ## Shares -/

/-- The share of `filled` among `total` cells, as it is computed. -/
def share (filled total : Nat) : Single := Number.ofNat filled / Number.ofNat total

section Shares

variable {total filled : Nat} (some_cell : 0 < total) (few : total < 2 ^ 24) (le : filled ≤ total)

include some_cell few le

/-- Counts have a word without rounding, so that a share is rounded once. -/
theorem share_eq : share filled total = Number.rounded false (filled * single.unit) total := by
  have dividend := Number.isWhole_ofNat (Nat.lt_of_le_of_lt le few)
  have divisor := Number.isWhole_ofNat few
  have positive (n : Nat) : (Number.ofNat n : Single).negative = false := rfl
  have quanta {n : Nat} (whole : (Number.ofNat n : Single).IsWhole n) :
      single.quanta (Number.ofNat n : Single).magnitude = n * single.unit := by
    have value := whole.quanta_eq
    unfold Number.quanta at value
    rw [positive, if_neg Bool.false_ne_true] at value
    exact_mod_cast value
  have nonzero : (Number.ofNat total : Single).isZero = false := by
    refine decide_eq_false fun zeroMagnitude => ?_
    have units := quanta divisor
    rw [zeroMagnitude, Format.quanta_zero] at units
    exact absurd units.symm (Nat.mul_pos some_cell single.unit_pos).ne'
  rw [share, Number.div_of_units dividend.finite divisor.finite nonzero (quanta divisor),
    quanta dividend]
  rfl

/-- A share is a finite word, and what it counts is not negative. -/
theorem share_spec : (share filled total).isFinite = true ∧ 0 ≤ share filled total ∧
    (share filled total).quanta = single.quanta (share filled total).magnitude := by
  have rounded := share_eq some_cell few le
  have finite : (share filled total).isFinite = true := by
    have room : (1 : Single).magnitude < single.infinity := by decide
    rw [rounded]
    refine decide_eq_true (Nat.lt_of_le_of_lt ?_ room)
    refine Format.round_le some_cell room.le ?_
    rw [one_spec.2.2, Nat.mul_comm]
    exact Nat.mul_le_mul_left _ le
  have nonneg : 0 ≤ share filled total := by
    rw [Number.le_iff, Number.key_zero]
    refine ⟨Number.isNaN_zero, Number.isNaN_of_isFinite finite, ?_⟩
    rw [rounded]
    exact Int.natCast_nonneg _
  exact ⟨finite, nonneg, Number.quanta_of_nonneg nonneg⟩

/-- One filled cell is a share that one is not rounded back to. -/
theorem le_quanta_share (positive : 0 < filled) : 2 ^ 125 ≤ (share filled total).quanta := by
  obtain ⟨least, bounded, value⟩ := Format.exists_quanta_eq (f := single) 125
    (show 1 < 2 * single.fractions by decide)
  have room : 125 * single.fractions + 1 ≤ single.infinity := by decide
  have reached : least ≤ single.round (filled * single.unit) total := by
    refine Format.le_round some_cell (bounded.trans room) ?_
    calc single.quanta least * total = total * 2 ^ 125 := by rw [value, Nat.one_mul, Nat.mul_comm]
      _ ≤ 2 ^ 24 * 2 ^ 125 := Nat.mul_le_mul_right _ few.le
      _ = single.unit := by decide
      _ ≤ filled * single.unit := Nat.le_mul_of_pos_left _ positive
  have mono := (Format.quanta_le_quanta_iff (bounded.trans room)
    (single.round_le_infinity (filled * single.unit) total)).mpr reached
  rw [value, Nat.one_mul] at mono
  rw [(share_spec some_cell few le).2.2, share_eq some_cell few le]
  exact_mod_cast mono

end Shares

/-- One free cell keeps the share below one. -/
theorem share_lt_one {total filled : Nat} (few : total < 2 ^ 24) (less : filled < total) :
    share filled total < 1 := by
  have some_cell := Nat.zero_lt_of_lt less
  obtain ⟨finite, nonneg, quanta⟩ := share_spec some_cell few less.le
  obtain ⟨finite', below, quanta', gap⟩ := belowOne_spec
  refine Number.lt_of_le_of_lt ?_ below
  have bound := Number.magnitude_le_of_isFinite finite'
  have rounded_down : single.round (filled * single.unit) total ≤ belowOne.magnitude := by
    refine Format.round_le some_cell bound ?_
    -- The free cell is worth more than all that one is lowered by.
    have lost : 2 ^ 125 * total ≤ single.unit := by
      calc 2 ^ 125 * total ≤ 2 ^ 125 * 2 ^ 24 := Nat.mul_le_mul_left _ few.le
        _ = single.unit := by decide
    have split : single.quanta belowOne.magnitude * total + 2 ^ 125 * total =
        single.unit * total := by
      rw [← Nat.add_mul, gap]
    have next : filled * single.unit + single.unit ≤ single.unit * total := by
      rw [← Nat.succ_mul, Nat.mul_comm single.unit]
      exact Nat.mul_le_mul_right _ less
    omega
  have mono := (Format.quanta_le_quanta_iff (single.round_le_infinity _ _) bound).mpr rounded_down
  rw [Number.le_iff_quanta_le finite finite', quanta, quanta', share_eq some_cell few less.le]
  exact_mod_cast mono

/-- More filled cells have no lesser share. -/
theorem share_mono {total filled more : Nat} (some_cell : 0 < total) (few : total < 2 ^ 24)
    (le : filled ≤ more) (within : more ≤ total) : share filled total ≤ share more total := by
  obtain ⟨finite, -, -⟩ := share_spec some_cell few (le.trans within)
  obtain ⟨finite', -, -⟩ := share_spec some_cell few within
  rw [Number.le_iff]
  refine ⟨Number.isNaN_of_isFinite finite, Number.isNaN_of_isFinite finite', ?_⟩
  rw [share_eq some_cell few (le.trans within), share_eq some_cell few within]
  refine Int.ofNat_le.mpr (Format.round_mono some_cell some_cell ?_)
  exact Nat.mul_le_mul_right _ (Nat.mul_le_mul_right _ le)

theorem share_of_none (total : Nat) (some_cell : 0 < total) (few : total < 2 ^ 24) :
    share 0 total = 0 := by
  rw [share_eq some_cell few (Nat.zero_le _), Nat.zero_mul, Number.zero_eq]
  unfold Number.rounded Number.zero
  congr 1
  exact Format.round_eq_zero (by omega)

theorem share_of_all (total : Nat) (some_cell : 0 < total) (few : total < 2 ^ 24) :
    share total total = 1 := by
  have one : (1 : Single) = Number.rounded false single.unit 1 := by decide
  have same : single.round (total * single.unit) total = single.round single.unit 1 :=
    single.round_congr some_cell Nat.one_pos (by ring)
  rw [share_eq some_cell few (Nat.le_refl _), one]
  unfold Number.rounded
  simp only [same]

/-! ## Scores -/

/-- What a score says of the cells of its grid. -/
structure ScoresShare (total filled : Nat) (score : Single) : Prop where
  zero_le : 0 ≤ score
  le_one : score ≤ 1
  /-- The score is one if no cell is filled, and lower otherwise. -/
  eq_one_iff : score = 1 ↔ filled = 0
  lt_one_iff : score < 1 ↔ 0 < filled
  /-- The score is zero if all cells are filled, and higher otherwise. -/
  eq_zero_iff : score = 0 ↔ filled = total
  zero_lt_iff : 0 < score ↔ filled < total

/-- What is left of one by a share lies in the range of scores. -/
theorem one_sub_share {total filled : Nat} (some_cell : 0 < total) (few : total < 2 ^ 24)
    (le : filled ≤ total) : 0 ≤ 1 - share filled total ∧ 1 - share filled total ≤ 1 := by
  obtain ⟨finite, nonneg, quanta⟩ := share_spec some_cell few le
  obtain ⟨finite_one, one, -⟩ := one_spec
  have le_one := share_mono some_cell few le (Nat.le_refl _)
  rw [share_of_all total some_cell few, Number.le_iff_quanta_le finite finite_one, one] at le_one
  rw [Number.sub_eq_add_neg]
  constructor
  · rw [Number.zero_le_add_iff finite_one (Number.isFinite_neg.trans finite), Number.quanta_neg,
      one]
    omega
  · refine Number.add_le finite_one (Number.isFinite_neg.trans finite) finite_one ?_
    rw [Number.quanta_neg, quanta]
    omega

/-- So a score is not clamped. -/
theorem score_eq {total filled : Nat} (some_cell : 0 < total) (few : total < 2 ^ 24)
    (le : filled ≤ total) : score filled total = 1 - share filled total := by
  obtain ⟨zero_le, le_one⟩ := one_sub_share some_cell few le
  unfold score Number.clamp
  rw [if_neg some_cell.ne']
  change (if 1 - share filled total < 0 then 0 else
    if 1 < 1 - share filled total then 1 else 1 - share filled total) = _
  rw [if_neg (Number.not_lt_of_le zero_le), if_neg (Number.not_lt_of_le le_one)]

/-- More filled cells have no higher score. -/
theorem score_antitone {total filled more : Nat} (some_cell : 0 < total) (few : total < 2 ^ 24)
    (le : filled ≤ more) (within : more ≤ total) : score more total ≤ score filled total := by
  rw [score_eq some_cell few within, score_eq some_cell few (le.trans within)]
  exact Number.sub_le_sub one_spec.1 (share_spec some_cell few (le.trans within)).1
    (share_spec some_cell few within).1 (share_mono some_cell few le within)

theorem scoresShare {total filled : Nat} (some_cell : 0 < total) (few : total < 2 ^ 24)
    (le : filled ≤ total) : ScoresShare total filled (score filled total) := by
  obtain ⟨finite, nonneg, quanta⟩ := share_spec some_cell few le
  have bounds := one_sub_share some_cell few le
  rw [← score_eq some_cell few le] at bounds
  have none (empty : filled = 0) : score filled total = 1 := by
    rw [score_eq some_cell few le, empty, share_of_none total some_cell few]
    decide
  have all (full : filled = total) : score filled total = 0 := by
    rw [score_eq some_cell few le, full, share_of_all total some_cell few]
    decide
  have some_filled (pos : 0 < filled) : score filled total < 1 := by
    obtain ⟨finite', below, quanta', gap⟩ := belowOne_spec
    have least := le_quanta_share some_cell few le pos
    refine Number.lt_of_le_of_lt ?_ below
    rw [score_eq some_cell few le, Number.sub_eq_add_neg]
    refine Number.add_le one_spec.1 (Number.isFinite_neg.trans finite) finite' ?_
    rw [Number.quanta_neg, one_spec.2.1, quanta', ← gap]
    push_cast
    omega
  have some_free (less : filled < total) : 0 < score filled total := by
    rw [score_eq some_cell few le, Number.zero_lt_sub_iff finite one_spec.1]
    exact share_lt_one few less
  refine ⟨bounds.1, bounds.2, ⟨fun one => ?_, none⟩, ⟨fun less => ?_, some_filled⟩,
    ⟨fun zero => ?_, all⟩, ⟨fun more => ?_, some_free⟩⟩
  · by_contra pos
    exact Number.ne_of_lt (some_filled (Nat.pos_of_ne_zero pos)) one
  · by_contra empty
    exact Number.ne_of_lt less (none (Nat.eq_zero_of_not_pos empty))
  · by_contra not_all
    exact Number.ne_of_lt (some_free (Nat.lt_of_le_of_ne le not_all)) zero.symm
  · by_contra full
    exact Number.ne_of_lt more (all (Nat.le_antisymm le (Nat.not_lt.mp full))).symm

/-! ## Reports -/

section Reports

variable {grid : Grid} {header : Header} {returns : Array Return} {visibility : Visibility}
  (made : grid.evaluate? header returns = some visibility)

include made

/-- The score of a report is the one of its filled cells among all. -/
theorem score_of_evaluate? :
    visibility.filled ≤ grid.rows.toNat * sectors ∧
      visibility.score = score visibility.filled (grid.rows.toNat * sectors) := by
  obtain ⟨whole, -, -⟩ := grid.shape_of_evaluate? made
  have size : grid.size = grid.rows.toNat * sectors := rfl
  rw [← size, ← whole]
  unfold evaluate? at made
  obtain ⟨counts, -, made⟩ := Option.bind_eq_some_iff.mp made
  cases made
  exact ⟨Array.countP_le_size, rfl⟩

/-- All cells are counted as filled exactly if each of them is. -/
theorem filled_eq_size_iff :
    visibility.filled = grid.rows.toNat * sectors ↔
      ∀ row < grid.rows.toNat, ∀ column < sectors,
        visibility.cell? row column = some filledCell := by
  have places : (Finset.range grid.rows.toNat ×ˢ Finset.range sectors).card =
      grid.rows.toNat * sectors := by
    rw [Finset.card_product, Finset.card_range, Finset.card_range]
  have cell {row column : Nat} (row_lt : row < grid.rows.toNat) (column_lt : column < sectors) :
      visibility.cell? row column = some filledCell ↔ grid.IsFilled returns row column := by
    rw [grid.cell?_of_evaluate? made row_lt column_lt]
    by_cases filled : grid.IsFilled returns row column
    · simp [filled]
    · simp [filled, filledCell]
  rw [grid.filled_of_evaluate? made, ← places, Finset.card_filter_eq_iff]
  constructor
  · intro all row row_lt column column_lt
    rw [cell row_lt column_lt]
    exact all (row, column) (by simp [row_lt, column_lt])
  · rintro all ⟨row, column⟩ place
    simp only [Finset.mem_product, Finset.mem_range] at place
    exact (cell place.1 place.2).mp (all row place.1 column place.2)

end Reports

/-- Whatever the records hold, and whatever region and threshold: a grid of up to 65536 rows has a
report, its score lies between zero and one, it is one exactly if no cell is filled and zero exactly
if every cell is, and no grid of as many rows with more filled cells has a higher score. -/
theorem evaluate?_scores (grid : Grid) (header : Header) (returns : Array Return)
    (some_row : 0 < grid.rows.toNat) (few_rows : grid.rows.toNat ≤ 65536) :
    ∃ visibility, grid.evaluate? header returns = some visibility ∧
      ScoresShare (grid.rows.toNat * sectors) visibility.filled visibility.score ∧
      (visibility.score = 0 ↔ ∀ row < grid.rows.toNat, ∀ column < sectors,
        visibility.cell? row column = some filledCell) ∧
      ∀ (other : Grid) (header' : Header) (returns' : Array Return) (visibility' : Visibility),
        other.rows = grid.rows → other.evaluate? header' returns' = some visibility' →
          visibility.filled ≤ visibility'.filled → visibility'.score ≤ visibility.score := by
  have some_cell : 0 < grid.rows.toNat * sectors := Nat.mul_pos some_row (by decide)
  have few : grid.rows.toNat * sectors < 2 ^ 24 := by
    unfold sectors
    omega
  have fits : grid.size ≤ maxBuffer := few.le.trans (by decide)
  obtain ⟨visibility, made⟩ := (grid.exists_evaluate?_iff header returns).mpr fits
  obtain ⟨within, score⟩ := score_of_evaluate? made
  have shares := scoresShare some_cell few within
  rw [← score] at shares
  refine ⟨visibility, made, shares, ?_, ?_⟩
  · rw [shares.eq_zero_iff, filled_eq_size_iff made]
  · intro other header' returns' visibility' rows made' le
    obtain ⟨within', score'⟩ := score_of_evaluate? made'
    rw [rows] at within' score'
    rw [score, score']
    exact score_antitone some_cell few le within'

/-- Two rows that three of the returns of the small scan fill one cell of. -/
def smallGrid : Grid := ⟨2, 2, .everywhere⟩

theorem smallGrid_scores :
    0 < smallGrid.rows.toNat ∧ smallGrid.rows.toNat ≤ 65536 ∧
      ∃ visibility, smallGrid.evaluate? sampleCloud.header sampleScan.returns = some visibility ∧
        visibility.filled = 1 ∧ 0 < visibility.score ∧ visibility.score < 1 := by
  have some_row : 0 < smallGrid.rows.toNat := by decide
  have few_rows : smallGrid.rows.toNat ≤ 65536 := by decide
  obtain ⟨visibility, made, shares, -⟩ :=
    smallGrid.evaluate?_scores sampleCloud.header sampleScan.returns some_row few_rows
  have filled : (smallGrid.evaluate? sampleCloud.header sampleScan.returns).map (·.filled) =
      some 1 := by
    decide +kernel
  rw [made, Option.map_some, Option.some_inj] at filled
  refine ⟨some_row, few_rows, visibility, made, filled, ?_, ?_⟩
  · rw [shares.zero_lt_iff, filled]
    decide
  · rw [shares.lt_one_iff, filled]
    decide

end Grid

end LidarSieve
