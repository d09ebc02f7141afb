import LidarSieve.Proofs.Reading
import LidarSieve.Proofs.Sorting
/-!
# The outcome of a scan

What filtering yields, told from the selection: the two clouds hold the selected points, the
counts are those of the selection, and the visibility is the one of the grid.  The only work
that can be given up on a scan of fewer than `2 ^ 28` records is the grid, and it is given up
exactly when no buffer is large enough for its cells (`Snapshot.filterReturns_eq`).
-/
set_option autoImplicit false

namespace LidarSieve

variable {α : Type}

/-- The header of the written clouds: a transform moves them into its frame. -/
def Header.moved (header : Header) : Option Transform → Header
  | none => header
  | some t => { header with frame := t.frame }

/-- The cloud of the points with a verdict. -/
def Cloud.ofSelection (p : Parameters) (cloud : Cloud) (transform : Option Transform)
    (get : α → Return) (records : List α) (verdict : Verdict) : Cloud :=
  .ofSpots (cloud.header.moved transform) (.ofFlag cloud.bigEndian)
    (pointsOf transform get (p.selected get records verdict)) cloud.dense

/-- The outcome that the selection accounts for. -/
def Outcome.ofSelection (s : Snapshot) (cloud : Cloud) (transform : Option Transform)
    (get : α → Return) (records : List α) (visibility : Option Visibility) : Outcome where
  points := .ofSelection s.parameters cloud transform get records .cluster
  noise :=
    if s.parameters.publishNoisePoints then
      some (.ofSelection s.parameters cloud transform get records .noise)
    else none
  visibility := visibility
  statistics := .ofSelection s.parameters get records
  version := s.version

/-! ## Writing the clouds -/

theorem Parameters.length_selected_le (p : Parameters) (get : α → Return) {records : List α}
    (nodup : records.Nodup) (verdict : Verdict) :
    (p.selected get records verdict).length ≤ records.length :=
  (p.selected_sublist get records verdict).length_le.trans
    (p.length_evaluated_le get records nodup)

theorem Sink.toCloud?_ofSelection (p : Parameters) (cloud : Cloud) (transform : Option Transform)
    (get : α → Return) {records : List α} (nodup : records.Nodup)
    (few : records.length < 2 ^ 28) (verdict : Verdict) :
    (Sink.ofSelection p (.ofFlag cloud.bigEndian) transform get records verdict).toCloud?
        (cloud.header.moved transform) cloud.dense =
      some (.ofSelection p cloud transform get records verdict) := by
  have size : (Sink.ofSelection p (.ofFlag cloud.bigEndian) transform get records verdict).size =
      (p.selected get records verdict).length := by
    simp [Sink.ofSelection, Sink.empty, Sink.size, Sink.append, length_pointsOf]
  have le := p.length_selected_le get nodup verdict
  have step : spotStep.toNat = 16 := rfl
  rw [Sink.toCloud?_eq _ _ _ (by rw [size, step, UInt32.size]; omega)]
  simp [Cloud.ofSelection, Sink.ofSelection, Sink.empty, Sink.append]

theorem Sorter.finish?_ofSelection (p : Parameters) (cloud : Cloud)
    (transform : Option Transform) (get : α → Return) {records : List α}
    (nodup : records.Nodup) (few : records.length < 2 ^ 28) :
    (Sorter.ofSelection p (.ofFlag cloud.bigEndian) transform get records).finish?
        cloud.header cloud.dense =
      some (.ofSelection p cloud transform get records .cluster,
        if p.publishNoisePoints then some (.ofSelection p cloud transform get records .noise)
        else none) := by
  have header : (Sorter.ofSelection p (.ofFlag cloud.bigEndian) transform get records).header
      cloud.header = cloud.header.moved transform := by
    cases transform <;> rfl
  have written := Sink.toCloud?_ofSelection p cloud transform get nodup few
  rw [Sorter.finish?, header]
  simp only [Sorter.ofSelection, written]
  cases p.publishNoisePoints with
  | false => rfl
  | true =>
    simp only [if_true, written]
    rfl

/-! ## The grid -/

/-- The grid of a scan is given up only for want of a buffer. -/
theorem Grid.evaluate?_eq_none_iff (grid : Grid) (header : Header) (returns : Array Return) :
    grid.evaluate? header returns = none ↔ maxBuffer < grid.size := by
  unfold evaluate? counts?
  by_cases large : maxBuffer < grid.size
  · simp [large]
  · simp [large]

/-! ## The whole -/

theorem fits_of_few {points : Nat} (few : points < 2 ^ 28) :
    points * spotStep.toNat ≤ maxBuffer := by
  have step : spotStep.toNat = 16 := rfl
  rw [step, maxBuffer]
  omega

/-- A cloud that is accepted is filtered as the returns of its scan. -/
theorem Snapshot.filter_of_opened (s : Snapshot) {cloud : Cloud} {scan : Scan}
    (opened : Scan.ofCloud cloud = .ok scan) (transform : Option Transform) :
    s.filter cloud transform = s.filterReturns cloud transform scan.returns := by
  rw [Snapshot.filter, opened]

/-- Filtering yields the outcome of the selection, unless the grid needs more cells than a
buffer can have. -/
theorem Snapshot.filterReturns_eq (s : Snapshot) (cloud : Cloud) (transform : Option Transform)
    (returns : Array Return) (few : returns.size < 2 ^ 28) :
    (s.filterReturns cloud transform returns).1 =
      if s.parameters.publishNoisePoints then
        match s.grid.evaluate? cloud.header returns with
        | none => .error .overrun
        | some visibility => .ok (.ofSelection s cloud transform (returnAt returns)
            (recordsOf returns) (some visibility))
      else .ok (.ofSelection s cloud transform (returnAt returns) (recordsOf returns) none) := by
  have count : (recordsOf returns).length < 2 ^ 28 := by
    rw [List.length_finRange]
    exact few
  have written := Sorter.finish?_ofSelection s.parameters cloud transform (returnAt returns)
    (List.nodup_finRange returns.size) count
  rw [Snapshot.filterReturns, s.sort?_eq _ transform returns (fits_of_few few)]
  simp only [written]
  cases publish : s.parameters.publishNoisePoints with
  | false => simp [Outcome.ofSelection, publish]
  | true =>
    simp only [if_true]
    cases s.grid.evaluate? cloud.header returns with
    | none => rfl
    | some visibility => simp [Outcome.ofSelection, publish]

/-- A scan is given up only if its grid is. -/
theorem Snapshot.grid_of_filterReturns_error (s : Snapshot) (cloud : Cloud)
    (transform : Option Transform) (returns : Array Return) (few : returns.size < 2 ^ 28)
    {failure : Failure Fault}
    (failed : (s.filterReturns cloud transform returns).1 = .error failure) :
    s.parameters.publishNoisePoints = true ∧ s.grid.evaluate? cloud.header returns = none := by
  rw [s.filterReturns_eq cloud transform returns few] at failed
  cases publish : s.parameters.publishNoisePoints with
  | false =>
    rw [publish, if_neg (by decide)] at failed
    cases failed
  | true =>
    rw [publish, if_pos rfl] at failed
    cases estimated : s.grid.evaluate? cloud.header returns with
    | none => exact ⟨rfl, rfl⟩
    | some visibility =>
      rw [estimated] at failed
      cases failed

/-- A cloud of fewer than `2 ^ 28` records has an outcome, if its grid has a buffer or none is
asked for. -/
theorem Snapshot.exists_outcome (s : Snapshot) {cloud : Cloud} {scan : Scan}
    (opened : Scan.ofCloud cloud = .ok scan) (transform : Option Transform)
    (few : scan.length < 2 ^ 28)
    (buffer : s.parameters.publishNoisePoints = true → s.grid.size ≤ maxBuffer) :
    ∃ outcome, (s.filter cloud transform).1 = .ok outcome := by
  rw [s.filter_of_opened opened]
  cases filtered : (s.filterReturns cloud transform scan.returns).1 with
  | ok outcome => exact ⟨outcome, rfl⟩
  | error failure =>
    have few_returns : scan.returns.size < 2 ^ 28 := by
      rw [scan.size_returns]
      exact few
    obtain ⟨publish, missing⟩ :=
      s.grid_of_filterReturns_error cloud transform scan.returns few_returns filtered
    have large := (s.grid.evaluate?_eq_none_iff cloud.header scan.returns).mp missing
    exact absurd (buffer publish) (Nat.not_le_of_lt large)

/-- A cloud whose grid has no buffer is given up where noise is published. -/
theorem Snapshot.filter_overrun (s : Snapshot) {cloud : Cloud} {scan : Scan}
    (opened : Scan.ofCloud cloud = .ok scan) (transform : Option Transform)
    (few : scan.length < 2 ^ 28) (publish : s.parameters.publishNoisePoints = true)
    (large : maxBuffer < s.grid.size) : (s.filter cloud transform).1 = .error .overrun := by
  have missing := (s.grid.evaluate?_eq_none_iff cloud.header scan.returns).mpr large
  have few_returns : scan.returns.size < 2 ^ 28 := by
    rw [scan.size_returns]
    exact few
  rw [s.filter_of_opened opened, s.filterReturns_eq cloud transform scan.returns few_returns,
    if_pos publish, missing]

/-! ## What an outcome tells

The other way round the number of records does not matter: a scan that has an outcome at all has
the one of the selection. -/

/-- The visibility that an outcome reports: none if no noise is published, and otherwise the one
of the grid, if there is a buffer for it. -/
def Snapshot.visibility? (s : Snapshot) (header : Header) (returns : Array Return) :
    Option (Option Visibility) :=
  if s.parameters.publishNoisePoints then (s.grid.evaluate? header returns).map some
  else some none

theorem Snapshot.visibility?_of_publish {s : Snapshot}
    (publish : s.parameters.publishNoisePoints = true) (header : Header)
    (returns : Array Return) :
    s.visibility? header returns = (s.grid.evaluate? header returns).map some :=
  if_pos publish

theorem Cloud.eq_ofSelection (p : Parameters) (cloud : Cloud) (transform : Option Transform)
    (get : α → Return) (records : List α) (verdict : Verdict) {written : Cloud}
    (made : (Sink.ofSelection p (.ofFlag cloud.bigEndian) transform get records verdict).toCloud?
      (cloud.header.moved transform) cloud.dense = some written) :
    written = .ofSelection p cloud transform get records verdict := by
  rw [Sink.eq_ofSpots_of_toCloud? made]
  simp [Cloud.ofSelection, Sink.ofSelection, Sink.empty, Sink.append]

/-- The clouds that a sorter makes of the selection are those of the selection. -/
theorem Sorter.clouds_of_finish? (p : Parameters) (cloud : Cloud) (transform : Option Transform)
    (get : α → Return) (records : List α) {points : Cloud} {noise : Option Cloud}
    (finished : (Sorter.ofSelection p (.ofFlag cloud.bigEndian) transform get records).finish?
      cloud.header cloud.dense = some (points, noise)) :
    points = .ofSelection p cloud transform get records .cluster ∧
      noise = if p.publishNoisePoints then
        some (.ofSelection p cloud transform get records .noise) else none := by
  have header : (Sorter.ofSelection p (.ofFlag cloud.bigEndian) transform get records).header
      cloud.header = cloud.header.moved transform := by
    cases transform <;> rfl
  rw [Sorter.finish?, header] at finished
  simp only [Sorter.ofSelection, Option.bind_eq_bind, Option.bind_eq_some_iff] at finished
  obtain ⟨accepted, made_accepted, finished⟩ := finished
  have accepted_eq := Cloud.eq_ofSelection p cloud transform get records .cluster made_accepted
  cases publish : p.publishNoisePoints with
  | false =>
    rw [publish] at finished
    cases finished
    exact ⟨accepted_eq, rfl⟩
  | true =>
    rw [publish] at finished
    simp only [if_true, Option.bind_eq_some_iff] at finished
    obtain ⟨rejected, made_rejected, finished⟩ := finished
    have rejected_eq := Cloud.eq_ofSelection p cloud transform get records .noise made_rejected
    cases finished
    exact ⟨accepted_eq, by rw [if_pos rfl, rejected_eq]⟩

/-- A scan that has an outcome has the one of the selection. -/
theorem Snapshot.eq_ofSelection_of_filterReturns (s : Snapshot) (cloud : Cloud)
    (transform : Option Transform) (returns : Array Return) {outcome : Outcome}
    (filtered : (s.filterReturns cloud transform returns).1 = .ok outcome) :
    ∃ visibility, s.visibility? cloud.header returns = some visibility ∧
      outcome = .ofSelection s cloud transform (returnAt returns) (recordsOf returns)
        visibility := by
  have fits : returns.size * spotStep.toNat ≤ maxBuffer := by
    by_contra large
    have missing : Sorter.start? returns.size (.ofFlag cloud.bigEndian)
        s.parameters.publishNoisePoints transform = none := by
      rw [Sorter.start?, Sink.start?, if_pos (Nat.lt_of_not_le large)]
      rfl
    simp [Snapshot.filterReturns, Snapshot.sort?, missing] at filtered
  rw [Snapshot.filterReturns, s.sort?_eq _ transform returns fits] at filtered
  simp only at filtered
  split at filtered
  · cases filtered
  · rename_i points noise finished
    obtain ⟨rfl, rfl⟩ := Sorter.clouds_of_finish? s.parameters cloud transform (returnAt returns)
      (recordsOf returns) finished
    cases publish : s.parameters.publishNoisePoints with
    | false =>
      simp only [publish, Bool.false_eq_true, if_false] at filtered
      cases filtered
      refine ⟨none, by simp [Snapshot.visibility?, publish], ?_⟩
      simp [Outcome.ofSelection, publish]
    | true =>
      simp only [publish, if_true] at filtered
      split at filtered
      · cases filtered
      · rename_i visibility estimated
        cases filtered
        refine ⟨some visibility, by simp [Snapshot.visibility?, publish, estimated], ?_⟩
        simp [Outcome.ofSelection, publish]

/-- A cloud that has an outcome is accepted, and its outcome is the one of the selection. -/
theorem Snapshot.eq_ofSelection_of_filter (s : Snapshot) (cloud : Cloud)
    (transform : Option Transform) {outcome : Outcome}
    (filtered : (s.filter cloud transform).1 = .ok outcome) :
    ∃ scan visibility, Scan.ofCloud cloud = .ok scan ∧
      s.visibility? cloud.header scan.returns = some visibility ∧
      outcome = .ofSelection s cloud transform (returnAt scan.returns) (recordsOf scan.returns)
        visibility := by
  cases opened : Scan.ofCloud cloud with
  | error failure =>
    rw [Snapshot.filter, opened] at filtered
    cases filtered
  | ok scan =>
    rw [s.filter_of_opened opened] at filtered
    obtain ⟨visibility, reported, rfl⟩ :=
      s.eq_ofSelection_of_filterReturns cloud transform scan.returns filtered
    exact ⟨scan, visibility, rfl, reported, rfl⟩

/-! ## A small scan -/

/-- Three neighbours on ring 1 with a stray return behind them, two returns of rings 2 and 0
that stay alone, and one of a ring that few settings admit. -/
def sampleRecords : List SensorRecord :=
  [{ x := 3, y := 1, z := 0, intensity := 7, ring := 1, azimuth := 10, distance := 5 },
   { x := 9, y := 2, z := 1, intensity := 8, ring := 2, azimuth := 10, distance := 7 },
   { x := 4, y := 1, z := 0, intensity := 9, ring := 1, azimuth := 50, distance := 5 },
   { x := 1, y := 1, z := 1, intensity := 1, ring := 900, azimuth := 70, distance := 2 },
   { x := 5, y := 1, z := 0, intensity := 6, ring := 1, azimuth := 90, distance := 5 },
   { x := 2, y := 2, z := 2, intensity := 5, ring := 0, azimuth := 90, distance := 4 },
   { x := 6, y := 0, z := 0, intensity := 4, ring := 1, azimuth := 9000, distance := 1 }]

/-- The small scan as a sensor publishes it. -/
def sampleCloud : Cloud where
  header := ⟨"lidar", 0⟩
  height := 1
  width := 7
  fields := sensorFields
  bigEndian := false
  pointStep := sensorStep
  rowStep := 7 * sensorStep
  data := (sampleRecords.flatMap (SensorRecord.octets .little)).toArray
  dense := true

/-- The small scan, checked. -/
def sampleScan : Scan where
  layout := ⟨48, 0, 4, 8, 12, 16, 20, 28, .little⟩
  data := sampleCloud.data
  length := 7
  size_data := by decide +kernel

theorem ofCloud_sampleCloud : Scan.ofCloud sampleCloud = .ok sampleScan :=
  Scan.ofCloud_eq_ok sampleScan (by decide +kernel) rfl (by decide +kernel) (by decide +kernel)

/-- Settings under which the noise of the small scan is published. -/
def sampleSnapshot : Snapshot :=
  .ofParameters 0 { Parameters.standard with publishNoisePoints := true }

end LidarSieve
