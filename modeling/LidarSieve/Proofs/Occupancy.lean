import LidarSieve.Proofs.Cells
import LidarSieve.Proofs.Interleaving
import LidarSieve.Proofs.Neighbours
/-!
# Occupancy of the visibility grid

A cell of the grid holds how many returns fall into it, as far as an octet can count them.
`Grid.FallsInto` says when a return falls into a cell, without the order in which counting tests it,
and `Grid.load` is the number of such returns, counted without a bound.

What carries a whole count is that one more return turns the octet for `n` into the octet for
`n + 1`, also where both are 255 (`saturatingIncrement_octetCount`).  So counts and report are those
of the loads, in whatever order the returns come (`Grid.evaluate?_by_loads`).
-/
set_option autoImplicit false

namespace LidarSieve

open LidarSieve.Binary

/-! ## Counts in an octet -/

/-- A count as an octet holds it: from 255 on it is 255. -/
def octetCount (n : Nat) : UInt8 := UInt8.ofNat (min 255 n)

theorem toNat_octetCount (n : Nat) : (octetCount n).toNat = min 255 n := by
  have small : min 255 n < 256 := by omega
  exact UInt8.toNat_ofNat_of_lt' small

namespace Grid

/-- One more in the octet is one more in the count. -/
theorem saturatingIncrement_octetCount (n : Nat) :
    saturatingIncrement (octetCount n) = octetCount (n + 1) := by
  have held := toNat_octetCount n
  have wanted := toNat_octetCount (n + 1)
  rw [UInt8.toNat_inj.symm, wanted]
  unfold saturatingIncrement
  split
  · rename_i full
    have last : (octetCount n).toNat = 255 := congrArg UInt8.toNat full
    omega
  · rename_i room
    have ne : (octetCount n).toNat ≠ 255 := fun full => room (UInt8.toNat_inj.mp full)
    rw [UInt8.toNat_add, held]
    change (min 255 n + 1) % 256 = _
    omega

/-- Below 255 a threshold does not see that counts end at 255; no count is above 255. -/
theorem lt_octetCount_iff (threshold : UInt8) (n : Nat) :
    threshold < octetCount n ↔ threshold.toNat < n ∧ threshold < 255 := by
  have bound : threshold.toNat < 256 := threshold.toNat_lt
  rw [UInt8.lt_iff_toNat_lt, UInt8.lt_iff_toNat_lt, toNat_octetCount]
  change threshold.toNat < min 255 n ↔ threshold.toNat < n ∧ threshold.toNat < 255
  omega

variable (grid : Grid)

/-! ## Returns that fall into a cell -/

/-- The return falls into the cell of a row and a column. -/
structure FallsInto (row column : Nat) (r : Return) : Prop where
  /-- The row is the one of the ring. -/
  ring_eq : r.ring = row
  row_lt : row < grid.rows.toNat
  /-- The direction is a number. -/
  finite : r.azimuth.isFinite = true
  /-- The direction, or zero if it is below zero, lies in the range of the region. -/
  start_le : grid.region.azimuthRange.1 ≤ direction r
  le_stop : direction r ≤ grid.region.azimuthRange.2
  accepted : grid.region.accepts r = true
  /-- The column is the sector of the direction; the last sector takes what lies behind it. -/
  sector_eq : min 35 (((direction r - grid.region.azimuthRange.1) /
    ((grid.region.azimuthRange.2 - grid.region.azimuthRange.1) / 36)).truncate sizeBound) = column

/-- A direction that is finite is no not-a-number where it is taken for zero either. -/
theorem isNaN_direction {r : Return} (finite : r.azimuth.isFinite = true) :
    (direction r).isNaN = false := by
  unfold direction Number.maximum
  rw [Number.isNaN_of_isFinite finite, if_neg Bool.false_ne_true]
  split
  · exact Number.isNaN_zero
  · exact Number.isNaN_of_isFinite finite

/-- A region that accepts a return has a range between values. -/
theorem isNaN_azimuthRange {region : Region} {r : Return} (accepted : region.accepts r = true) :
    region.azimuthRange.1.isNaN = false ∧ region.azimuthRange.2.isNaN = false := by
  have whole : (0 : Single).isNaN = false ∧ fullTurn.isNaN = false :=
    ⟨Number.isNaN_zero, Number.isNaN_of_isFinite isFinite_fullTurn⟩
  cases region with
  | everywhere => exact whole
  | box bounds => exact whole
  | sector low high range =>
    simp only [Region.accepts, Bool.and_eq_true] at accepted
    obtain ⟨⟨above, below⟩, -⟩ := accepted
    exact ⟨(Number.lt_iff.mp above).1, (Number.lt_iff.mp below).2.1⟩

/-- What counting tests. -/
theorem counts_iff (r : Return) : grid.counts r = true ↔
    r.ring < grid.rows.toNat ∧ r.azimuth.isFinite = true ∧
      ¬ direction r < grid.region.azimuthRange.1 ∧ ¬ grid.region.azimuthRange.2 < direction r ∧
      grid.region.accepts r = true := by
  simp only [counts, isBeyondRows, Bool.and_eq_true, Bool.not_eq_true', ← Bool.not_eq_true,
    decide_eq_true_eq, Nat.not_le, and_assoc]
  rfl

/-- What counting tests is that the return falls into some cell, and the cell is the one that it
is counted in. -/
theorem fallsInto_iff (row column : Nat) (r : Return) : grid.FallsInto row column r ↔
    grid.counts r = true ∧ r.ring = row ∧ grid.column r = column := by
  have sector : grid.column r = min 35 (((direction r - grid.region.azimuthRange.1) /
      ((grid.region.azimuthRange.2 - grid.region.azimuthRange.1) / 36)).truncate sizeBound) :=
    Nat.min_comm _ _
  rw [counts_iff]
  constructor
  · rintro ⟨rfl, inside, finite, start_le, le_stop, accepted, sector_eq⟩
    exact ⟨⟨inside, finite, Number.not_lt_of_le start_le, Number.not_lt_of_le le_stop, accepted⟩, rfl,
      sector.trans sector_eq⟩
  · rintro ⟨⟨inside, finite, not_before, not_behind, accepted⟩, rfl, column_eq⟩
    have number := isNaN_direction finite
    obtain ⟨start, stop⟩ := isNaN_azimuthRange accepted
    exact ⟨rfl, inside, finite, Number.le_of_not_lt number start not_before,
      Number.le_of_not_lt stop number not_behind, accepted, sector.symm.trans column_eq⟩

instance (row column : Nat) (r : Return) : Decidable (grid.FallsInto row column r) :=
  decidable_of_iff _ (grid.fallsInto_iff row column r).symm

/-- How many returns fall into a cell, counted without a bound. -/
def load (returns : Array Return) (row column : Nat) : Nat :=
  returns.countP fun r => grid.FallsInto row column r

/-! ## Counting -/

/-- The step and the run of it: an octet that holds a count holds, after more returns, the count
raised by those that belong to it. -/
theorem getElem?_tally (returns : List Return) {cells : Array UInt8} {place n : Nat}
    (held : cells[place]? = some (octetCount n)) :
    (grid.tally returns cells)[place]? =
      some (octetCount (n + returns.countP fun r => grid.counts r && grid.index r == place)) := by
  induction returns generalizing cells n with
  | nil => exact held
  | cons r rest ih =>
    rw [tally, List.countP_cons]
    by_cases counted : grid.counts r = true
    · have modified : (cells.modify (grid.index r) saturatingIncrement)[place]? =
          if grid.index r = place then some (octetCount (n + 1)) else some (octetCount n) := by
        rw [Array.getElem?_modify, held, Option.map_some, saturatingIncrement_octetCount]
      rw [if_pos counted, counted, Bool.true_and]
      by_cases here : grid.index r = place
      · rw [if_pos here] at modified
        rw [ih modified, if_pos (beq_iff_eq.mpr here), Nat.add_right_comm, Nat.add_assoc]
      · rw [if_neg here] at modified
        rw [ih modified, if_neg (by simpa using here), Nat.add_zero]
    · rw [if_neg counted, ih held, if_neg (by simp [counted]), Nat.add_zero]

/-- The returns that are counted at the index of a cell are those that fall into the cell. -/
theorem index_eq_iff {row column : Nat} (column_lt : column < sectors) (r : Return) :
    (grid.counts r && grid.index r == row * sectors + column) = true ↔
      grid.FallsInto row column r := by
  have inside := grid.column_lt r
  rw [fallsInto_iff, Bool.and_eq_true, beq_iff_eq, index]
  unfold sectors at *
  refine and_congr_right fun _ => ⟨fun same => ?_, fun ⟨ring, sector⟩ => by rw [ring, sector]⟩
  omega

/-- Every cell of the counts holds its load. -/
theorem getElem?_counts {returns : Array Return} {counts : Array UInt8}
    (made : grid.counts? returns = some counts) {row column : Nat} (row_lt : row < grid.rows.toNat)
    (column_lt : column < sectors) :
    counts[row * sectors + column]? = some (octetCount (grid.load returns row column)) := by
  obtain ⟨-, rfl⟩ := grid.counts?_eq_some_iff.mp made
  have inside : row * sectors + column < grid.size := by
    unfold size sectors at *
    omega
  have fresh : (Array.replicate grid.size (0 : UInt8))[row * sectors + column]? =
      some (octetCount 0) := by
    rw [Array.getElem?_replicate, if_pos inside]
    rfl
  rw [grid.getElem?_tally returns.toList fresh, Nat.zero_add, load, ← Array.countP_toList]
  refine congrArg (fun n => some (octetCount n)) (List.countP_congr fun r _ => ?_)
  rw [grid.index_eq_iff column_lt, decide_eq_true_iff]

/-! ## The report -/

/-- The load of a cell is above the threshold, and the threshold is one that a count can exceed. -/
def IsFilled (returns : Array Return) (row column : Nat) : Prop :=
  grid.threshold.toNat < grid.load returns row column ∧ grid.threshold < 255

instance (returns : Array Return) (row column : Nat) :
    Decidable (grid.IsFilled returns row column) :=
  inferInstanceAs (Decidable (_ ∧ _))

/-- The report in terms of the counts. -/
theorem eq_of_evaluate? {header : Header} {returns : Array Return} {visibility : Visibility}
    (made : grid.evaluate? header returns = some visibility) :
    ∃ counts, grid.counts? returns = some counts ∧ visibility.columns = sectors ∧
      visibility.cells =
        (counts.map fun count => if grid.threshold < count then filledCell else 0) ∧
      visibility.filled = visibility.cells.count filledCell := by
  unfold evaluate? at made
  obtain ⟨counts, found, made⟩ := Option.bind_eq_some_iff.mp made
  cases made
  exact ⟨counts, found, rfl, rfl, rfl⟩

/-- A cell of the report tells whether the load of the cell is above the threshold. -/
theorem cell?_of_evaluate? {header : Header} {returns : Array Return} {visibility : Visibility}
    (made : grid.evaluate? header returns = some visibility) {row column : Nat}
    (row_lt : row < grid.rows.toNat) (column_lt : column < sectors) :
    visibility.cell? row column =
      some (if grid.IsFilled returns row column then filledCell else 0) := by
  obtain ⟨counts, found, columns, cells, -⟩ := grid.eq_of_evaluate? made
  rw [Visibility.cell?, cells, columns, Array.getElem?_map,
    grid.getElem?_counts found row_lt column_lt, Option.map_some]
  exact congrArg some (if_congr (lt_octetCount_iff _ _) rfl rfl)

/-- The indices of a grid at which something holds are as many as the places at which it holds. -/
theorem card_places (rows : Nat) (P : Nat → Nat → Prop) [∀ row, DecidablePred (P row)] :
    (List.range (rows * sectors)).countP (fun i => P (i / sectors) (i % sectors)) =
      ((Finset.range rows ×ˢ Finset.range sectors).filter fun place => P place.1 place.2).card := by
  rw [List.countP_eq_length_filter]
  change ((Finset.range (rows * sectors)).filter fun i => P (i / sectors) (i % sectors)).card = _
  unfold sectors
  have place (row column : Nat) (column_lt : column < 36) :
      (row * 36 + column) / 36 = row ∧ (row * 36 + column) % 36 = column := by
    omega
  refine Finset.card_nbij' (fun i => (i / 36, i % 36)) (fun place => place.1 * 36 + place.2)
    ?_ ?_ ?_ ?_
  · intro i mem
    simp only [Finset.coe_filter, Finset.mem_product, Finset.mem_range, Set.mem_ofPred_eq] at mem ⊢
    exact ⟨by omega, mem.2⟩
  · rintro ⟨row, column⟩ mem
    simp only [Finset.coe_filter, Finset.mem_product, Finset.mem_range, Set.mem_ofPred_eq] at mem ⊢
    obtain ⟨⟨row_lt, column_lt⟩, holds⟩ := mem
    obtain ⟨quotient, remainder⟩ := place row column column_lt
    rw [quotient, remainder]
    exact ⟨by omega, holds⟩
  · intro i _
    exact Nat.div_add_mod' i 36
  · rintro ⟨row, column⟩ mem
    simp only [Finset.coe_filter, Finset.mem_product, Finset.mem_range, Set.mem_ofPred_eq] at mem
    obtain ⟨quotient, remainder⟩ := place row column mem.1.2
    exact Prod.ext quotient remainder

/-- The report counts the cells that are filled. -/
theorem filled_of_evaluate? {header : Header} {returns : Array Return} {visibility : Visibility}
    (made : grid.evaluate? header returns = some visibility) :
    visibility.filled = ((Finset.range grid.rows.toNat ×ˢ Finset.range sectors).filter
      fun place => grid.IsFilled returns place.1 place.2).card := by
  obtain ⟨-, -, columns, -, filled⟩ := grid.eq_of_evaluate? made
  obtain ⟨whole, -, -⟩ := grid.shape_of_evaluate? made
  have cells : visibility.cells.toList = (List.range (grid.rows.toNat * sectors)).map fun i =>
      if grid.IsFilled returns (i / sectors) (i % sectors) then filledCell else 0 := by
    apply List.ext_getElem?
    intro i
    rw [Array.getElem?_toList, List.getElem?_map]
    rcases Nat.lt_or_ge i (grid.rows.toNat * sectors) with inside | behind
    · have row_lt : i / sectors < grid.rows.toNat := by
        unfold sectors at *
        omega
      have column_lt : i % sectors < sectors := Nat.mod_lt i (by decide)
      have cell := grid.cell?_of_evaluate? made row_lt column_lt
      rw [Visibility.cell?, columns, Nat.div_add_mod'] at cell
      rw [cell, List.getElem?_range inside, Option.map_some]
    · rw [Array.getElem?_eq_none (by rw [whole]; exact behind),
        List.getElem?_eq_none (by simpa using behind), Option.map_none]
  rw [filled, ← card_places grid.rows.toNat (grid.IsFilled returns), ← Array.count_toList, cells,
    List.count_eq_countP, List.countP_map]
  refine List.countP_congr fun i _ => ?_
  by_cases above : grid.IsFilled returns (i / sectors) (i % sectors)
  · simp [above]
  · simp [above, filledCell]

/-- What counts and report say of the loads of all cells. -/
structure ReportsLoads (returns : Array Return) (counts : Array UInt8) (visibility : Visibility) :
    Prop where
  size_counts : counts.size = grid.rows.toNat * sectors
  size_cells : visibility.cells.size = grid.rows.toNat * sectors
  /-- A count is the load of its cell, or 255 if the load is greater. -/
  counts_eq : ∀ row < grid.rows.toNat, ∀ column < sectors,
    counts[row * sectors + column]? = some (octetCount (grid.load returns row column))
  /-- A cell is 255 if its load is above the threshold, and zero otherwise. -/
  cells_eq : ∀ row < grid.rows.toNat, ∀ column < sectors,
    visibility.cell? row column = some (if grid.IsFilled returns row column then 255 else 0)
  /-- Below 255 the verdict on a cell is the one that its load gets. -/
  verdict_iff : grid.threshold < 255 → ∀ row < grid.rows.toNat, ∀ column < sectors,
    visibility.cell? row column = some 255 ↔ grid.threshold.toNat < grid.load returns row column
  /-- The filled cells are counted, in the report and among all places of the grid. -/
  filled_eq_count : visibility.filled = visibility.cells.count 255
  filled_eq_card : visibility.filled = ((Finset.range grid.rows.toNat ×ˢ Finset.range sectors).filter
    fun place => grid.IsFilled returns place.1 place.2).card
  /-- No load is too great for the threshold 255. -/
  none_filled : grid.threshold = 255 → visibility.filled = 0

theorem reportsLoads {header : Header} {returns : Array Return} {counts : Array UInt8}
    {visibility : Visibility} (counted : grid.counts? returns = some counts)
    (made : grid.evaluate? header returns = some visibility) :
    grid.ReportsLoads returns counts visibility where
  size_counts := (grid.counts?_in_cells counted).1
  size_cells := (grid.shape_of_evaluate? made).1
  counts_eq _ row_lt _ column_lt := grid.getElem?_counts counted row_lt column_lt
  cells_eq _ row_lt _ column_lt := grid.cell?_of_evaluate? made row_lt column_lt
  verdict_iff below row row_lt column column_lt := by
    rw [grid.cell?_of_evaluate? made row_lt column_lt, Option.some.injEq]
    by_cases above : grid.threshold.toNat < grid.load returns row column
    · rw [if_pos ⟨above, below⟩]
      exact iff_of_true rfl above
    · rw [if_neg fun filled => above filled.1]
      exact iff_of_false (by decide) above
  filled_eq_count := by
    obtain ⟨-, -, -, -, filled⟩ := grid.eq_of_evaluate? made
    exact filled
  filled_eq_card := grid.filled_of_evaluate? made
  none_filled top := by
    rw [grid.filled_of_evaluate? made, Finset.card_eq_zero, Finset.filter_eq_empty_iff]
    rintro place - ⟨-, below⟩
    rw [top] at below
    exact absurd below (by decide)

/-- Whatever the records hold, and whatever region and threshold: if its cells fit in a buffer, a
grid has counts and a report, they are those of the loads, and the same returns in another order
have the same counts and the same report. -/
theorem evaluate?_by_loads (header : Header) (returns : Array Return)
    (fits : grid.rows.toNat * sectors ≤ maxBuffer) :
    ∃ counts visibility, grid.counts? returns = some counts ∧
      grid.evaluate? header returns = some visibility ∧
      grid.ReportsLoads returns counts visibility ∧
      ∀ other : Array Return, other.toList.Perm returns.toList →
        grid.counts? other = some counts ∧ grid.evaluate? header other = some visibility := by
  obtain ⟨counts, counted⟩ := (grid.exists_counts?_iff returns).mpr fits
  obtain ⟨visibility, made⟩ := (grid.exists_evaluate?_iff header returns).mpr fits
  refine ⟨counts, visibility, counted, made, grid.reportsLoads counted made, fun other perm => ?_⟩
  refine ⟨?_, (grid.evaluate?_perm header perm).trans made⟩
  rw [counts?_eq, grid.tally_perm perm]
  exact counted

/-- Three returns of the small scan fall into the first cell of row 1 and fill it; the one in the
tenth cell does not fill that. -/
theorem evaluate?_sampleScan_by_loads :
    sampleSnapshot.grid.load sampleScan.returns 1 0 = 3 ∧
      ∃ visibility, sampleSnapshot.grid.evaluate? sampleCloud.header sampleScan.returns =
          some visibility ∧
        visibility.cell? 1 0 = some 255 ∧ visibility.cell? 1 9 = some 0 ∧
        sampleSnapshot.grid.evaluate? sampleCloud.header sampleScan.returns.reverse =
          some visibility := by
  have fits : sampleSnapshot.grid.rows.toNat * sectors ≤ maxBuffer := by decide
  obtain ⟨counts, visibility, -, made, reports, reordered⟩ :=
    sampleSnapshot.grid.evaluate?_by_loads sampleCloud.header sampleScan.returns fits
  have three : sampleSnapshot.grid.load sampleScan.returns 1 0 = 3 := by decide +kernel
  have one : sampleSnapshot.grid.load sampleScan.returns 1 9 = 1 := by decide +kernel
  have filled := reports.cells_eq 1 (by decide) 0 (by decide)
  have free := reports.cells_eq 1 (by decide) 9 (by decide)
  rw [if_pos ⟨by rw [three]; decide, by decide⟩] at filled
  rw [if_neg fun above => absurd above.1 (by rw [one]; decide)] at free
  have reversed : sampleScan.returns.reverse.toList.Perm sampleScan.returns.toList := by
    rw [Array.toList_reverse]
    exact List.reverse_perm _
  exact ⟨three, visibility, made, filled, free, (reordered _ reversed).2⟩

/-- A grid whose number of cells is a size, but not the size of a buffer. -/
def wideGrid : Grid := ⟨300000000000000000, 2, .everywhere⟩

/-- It has no counts and no report, not even of a scan without records. -/
theorem wideGrid_without_counts :
    wideGrid.rows.toNat * sectors < sizeBound ∧
      ∀ (header : Header) (returns : Array Return),
        wideGrid.counts? returns = none ∧ wideGrid.evaluate? header returns = none := by
  have large : maxBuffer < wideGrid.size := by decide
  exact ⟨by decide, fun header returns =>
    ⟨if_pos large, (wideGrid.evaluate?_eq_none_iff header returns).mpr large⟩⟩

end Grid
end LidarSieve
