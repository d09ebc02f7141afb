import LidarSieve.Proofs.Outcome
/-!
# Cells of the visibility grid

Counting the returns of a scan changes one cell after the other.  `Grid.tally?` does the same but
looks each cell up first, and gives up at one that is not there; that it never does (`tally?_eq`)
says that counting stays inside the grid, whatever direction the words of a record stand for.

What remains is the size of the grid.  Valid parameters may have any number of rows above zero, and
`Grid.evaluate?_in_cells` says for which of them there is a grid at all.
-/
set_option autoImplicit false

namespace LidarSieve

namespace Grid

variable (grid : Grid)

/-- Whatever its direction, the column of a return is one of the grid. -/
theorem column_lt (r : Return) : grid.column r < sectors := by
  unfold column sectors
  omega

/-! ## Counting with look-ups -/

/-- Counts the returns one after the other, and gives up at the first cell that is not there. -/
def tally? : List Return → Array UInt8 → Option (Array UInt8)
  | [], cells => some cells
  | r :: rest, cells =>
    if grid.counts r then
      match cells[grid.index r]? with
      | none => none
      | some count => tally? rest (cells.setIfInBounds (grid.index r) (saturatingIncrement count))
    else tally? rest cells

theorem modify_eq_set (cells : Array UInt8) {place : Nat} {count : UInt8}
    (found : cells[place]? = some count) :
    cells.modify place saturatingIncrement =
      cells.setIfInBounds place (saturatingIncrement count) := by
  obtain ⟨inside, -⟩ := Array.getElem?_eq_some_iff.mp found
  refine Array.ext_getElem? fun i => ?_
  rw [Array.getElem?_modify, Array.getElem?_setIfInBounds]
  by_cases same : place = i
  · rw [if_pos same, if_pos same, ← same, found, if_pos inside]
    rfl
  · rw [if_neg same, if_neg same]

/-- One more return keeps the number of cells, so that every look-up finds its cell. -/
theorem tally?_eq (returns : List Return) {cells : Array UInt8} (whole : cells.size = grid.size) :
    grid.tally? returns cells = some (grid.tally returns cells) ∧
      (grid.tally returns cells).size = grid.size := by
  induction returns generalizing cells with
  | nil => exact ⟨rfl, whole⟩
  | cons r rest ih =>
    by_cases counted : grid.counts r = true
    · have inside : grid.index r < cells.size := whole ▸ grid.index_lt_size r counted
      have found : cells[grid.index r]? = some cells[grid.index r] :=
        Array.getElem?_eq_getElem inside
      have kept : (cells.modify (grid.index r) saturatingIncrement).size = grid.size := by
        rw [Array.size_modify, whole]
      rw [tally?, tally, if_pos counted, if_pos counted, found]
      dsimp only
      rw [← modify_eq_set cells found]
      exact ih kept
    · rw [tally?, tally, if_neg counted, if_neg counted]
      exact ih whole

/-! ## The whole grid -/

theorem counts?_eq (returns : Array Return) : grid.counts? returns =
    if maxBuffer < grid.size then none
    else some (grid.tally returns.toList (Array.replicate grid.size 0)) := rfl

/-- Counts are made of the whole grid if it fits in a buffer, and of nothing else. -/
theorem counts?_eq_some_iff {returns : Array Return} {counts : Array UInt8} :
    grid.counts? returns = some counts ↔
      grid.size ≤ maxBuffer ∧
        grid.tally returns.toList (Array.replicate grid.size 0) = counts := by
  rw [counts?_eq]
  split
  · rename_i large
    exact iff_of_false nofun fun made => Nat.not_le_of_lt large made.1
  · rename_i roomy
    rw [Option.some.injEq, and_iff_right (Nat.le_of_not_lt roomy)]

/-- There are counts exactly for a grid that fits in a buffer. -/
theorem exists_counts?_iff (returns : Array Return) :
    (∃ counts, grid.counts? returns = some counts) ↔ grid.size ≤ maxBuffer := by
  constructor
  · rintro ⟨counts, made⟩
    exact (grid.counts?_eq_some_iff.mp made).1
  · intro fits
    exact ⟨_, grid.counts?_eq_some_iff.mpr ⟨fits, rfl⟩⟩

/-- There is a report exactly where there are counts. -/
theorem exists_evaluate?_iff (header : Header) (returns : Array Return) :
    (∃ visibility, grid.evaluate? header returns = some visibility) ↔ grid.size ≤ maxBuffer := by
  rw [← Option.ne_none_iff_exists', ne_eq, grid.evaluate?_eq_none_iff header returns, Nat.not_lt]

/-- The counts are one for each cell, and each step of counting has found its cell. -/
theorem counts?_in_cells {returns : Array Return} {counts : Array UInt8}
    (made : grid.counts? returns = some counts) :
    counts.size = grid.size ∧ counts.size < sizeBound ∧
      grid.tally? returns.toList (Array.replicate grid.size 0) = some counts := by
  obtain ⟨fits, rfl⟩ := grid.counts?_eq_some_iff.mp made
  have fresh : (Array.replicate grid.size (0 : UInt8)).size = grid.size := Array.size_replicate
  obtain ⟨looked_up, kept⟩ := grid.tally?_eq returns.toList fresh
  have buffers : maxBuffer < sizeBound := by decide
  exact ⟨kept, by omega, looked_up⟩

/-- The report has the shape of the grid. -/
theorem shape_of_evaluate? {header : Header} {returns : Array Return} {visibility : Visibility}
    (made : grid.evaluate? header returns = some visibility) :
    visibility.cells.size = grid.size ∧ visibility.rows = grid.rows ∧
      visibility.columns = sectors := by
  unfold evaluate? at made
  obtain ⟨counts, found, made⟩ := Option.bind_eq_some_iff.mp made
  obtain ⟨whole, -, -⟩ := grid.counts?_in_cells found
  cases made
  exact ⟨Array.size_map.trans whole, rfl, rfl⟩

/-- Whatever the records hold, and whatever the region:

* the returns are counted, and the grid is evaluated, exactly if its cells fit in a buffer;
* a return that counts has one of the columns, and its cell is one of the grid;
* the counts are one for each cell, and counting has looked up no cell that is not there;
* the report has as many cells as there are counts. -/
theorem evaluate?_in_cells (header : Header) (returns : Array Return) :
    ((∃ counts, grid.counts? returns = some counts) ↔
      grid.rows.toNat * sectors ≤ maxBuffer) ∧
    ((∃ visibility, grid.evaluate? header returns = some visibility) ↔
      grid.rows.toNat * sectors ≤ maxBuffer) ∧
    (∀ r ∈ returns, grid.counts r = true →
      grid.column r ≤ 35 ∧
        r.ring * sectors + grid.column r < grid.rows.toNat * sectors) ∧
    (∀ counts, grid.counts? returns = some counts →
      counts.size = grid.rows.toNat * sectors ∧ counts.size < sizeBound ∧
        grid.tally? returns.toList (Array.replicate (grid.rows.toNat * sectors) 0) =
          some counts) ∧
    ∀ visibility, grid.evaluate? header returns = some visibility →
      visibility.cells.size = grid.rows.toNat * sectors ∧ visibility.rows = grid.rows ∧
        visibility.columns = sectors := by
  refine ⟨grid.exists_counts?_iff returns, grid.exists_evaluate?_iff header returns, ?_, ?_, ?_⟩
  · intro r _ counts
    exact ⟨Nat.le_of_lt_succ (grid.column_lt r), grid.index_lt_size r counts⟩
  · intro counts made
    exact grid.counts?_in_cells made
  · intro visibility made
    exact grid.shape_of_evaluate? made

theorem evaluate?_sampleScan :
    ∃ visibility, sampleSnapshot.grid.evaluate? sampleCloud.header sampleScan.returns =
        some visibility ∧
      visibility.cells.size = 4608 := by
  obtain ⟨-, evaluated, -, -, cells⟩ :=
    sampleSnapshot.grid.evaluate?_in_cells sampleCloud.header sampleScan.returns
  obtain ⟨visibility, made⟩ := evaluated.mpr (by decide)
  exact ⟨visibility, made, (cells visibility made).1⟩

/-- Parameters with so many rows that the number of cells is no size. -/
def tallParameters : Parameters :=
  { Parameters.standard with verticalBins := 9223372036854775808 }

/-- They are valid, and yet there is no scan that their grid can be made for. -/
theorem tallParameters_without_grid :
    tallParameters.validate = .ok () ∧
      sizeBound ≤ tallParameters.verticalBins.toNat * sectors ∧
      ∀ (version : Nat) (header : Header) (returns : Array Return),
        (Snapshot.ofParameters version tallParameters).grid.counts? returns = none ∧
          (Snapshot.ofParameters version tallParameters).grid.evaluate? header returns = none := by
  refine ⟨by decide +kernel, by decide, fun version header returns => ?_⟩
  have large : maxBuffer < (Snapshot.ofParameters version tallParameters).grid.size := by
    change maxBuffer < tallParameters.verticalBins.toNat * sectors
    decide
  exact ⟨if_pos large, (Grid.evaluate?_eq_none_iff _ header returns).mpr large⟩

end Grid
end LidarSieve
