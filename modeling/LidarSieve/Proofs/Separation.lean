import LidarSieve.Proofs.Outcome
/-!
# Filtering separates the runs of a scan

The two clouds of a filtered scan hold, in the order in which the rings are walked, the points
of the runs that were taken for objects and the points of the other runs, and nothing else; and
the counts are those of the two clouds.  This needs a grid whose cells fit in a buffer: the
visibility is estimated last, and a scan whose grid has no buffer yields nothing at all.
-/
set_option autoImplicit false

namespace LidarSieve

open LidarSieve.Binary

/-! ## The separation -/

/-- A scan of fewer than `2 ^ 28` records whose grid fits in a buffer is filtered to its end.
There is one way to cut the walked rings into longest runs.  Read back, the cloud of points
holds the records of the runs taken for objects, and the cloud of noise those of the others:
both in the order of the walked rings, no record of these missing, none twice, and none in both.
The counts say the same. -/
theorem Snapshot.filter_separates_runs (s : Snapshot) (cloud : Cloud)
    (transform : Option Transform) (scan : Scan) (opened : Scan.ofCloud cloud = .ok scan)
    (few : scan.length < 2 ^ 28) (publish : s.parameters.publishNoisePoints = true)
    (buffer : s.parameters.verticalBins.toNat * sectors ≤ maxBuffer) :
    let p := s.parameters
    let get := returnAt scan.returns
    let records := recordsOf scan.returns
    ∃ outcome noise runs,
      (s.filter cloud transform).1 = .ok outcome ∧ outcome.noise = some noise ∧
      (∀ cut, p.IsSegmentation get records cut ↔ cut = runs) ∧
      let accepted := (p.criterion.judged get runs .cluster).flatten
      let rejected := (p.criterion.judged get runs .noise).flatten
      outcome.points.spots = .ok (pointsOf transform get accepted) ∧
      noise.spots = .ok (pointsOf transform get rejected) ∧
      accepted.Sublist (p.evaluated get records) ∧ rejected.Sublist (p.evaluated get records) ∧
      (accepted ++ rejected).Perm (p.evaluated get records) ∧
      (p.evaluated get records).Nodup ∧
      outcome.statistics = {
        input := scan.length
        unplaced := {
          skipped := records.countP fun record => p.maxRings.toNat ≤ (get record).ring
          dropped := overflow get p.maxRings.toNat p.maxPointsPerRing.toNat records }
        evaluated := (p.evaluated get records).length
        walks := runs.length
        clusters := (p.criterion.judged get runs .cluster).length
        accepted := accepted.length
        rejected := rejected.length } := by
  intro p get records
  have count : records.length = scan.length :=
    List.length_finRange.trans scan.size_returns
  have nodup : records.Nodup := List.nodup_finRange _
  have grid : ∃ visibility, s.grid.evaluate? cloud.header scan.returns = some visibility := by
    rw [← Option.ne_none_iff_exists', ne_eq, Grid.evaluate?_eq_none_iff]
    exact Nat.not_lt_of_le buffer
  obtain ⟨visibility, estimated⟩ := grid
  have filtered := s.filterReturns_eq cloud transform scan.returns
    (by rw [scan.size_returns]; exact few)
  rw [if_pos publish, estimated] at filtered
  have read (verdict : Verdict) :
      (Cloud.ofSelection p cloud transform get records verdict).spots =
        .ok (pointsOf transform get (p.selected get records verdict)) := by
    refine Cloud.spots_ofSpots _ _ _ _ ?_
    have le := p.length_selected_le get nodup verdict
    rw [length_pointsOf, UInt32.size]
    omega
  refine ⟨.ofSelection s cloud transform get records (some visibility),
    .ofSelection p cloud transform get records .noise, p.segments get records, ?_, if_pos publish,
    p.isSegmentation_iff get records, read .cluster, read .noise,
    p.selected_sublist get records .cluster, p.selected_sublist get records .noise,
    p.selected_append_perm get records, p.evaluated_nodup get records nodup, ?_⟩
  · rw [s.filter_of_opened opened]
    exact filtered
  · rw [← count]
    rfl

theorem sampleCloud_separates_runs :
    Scan.ofCloud sampleCloud = .ok sampleScan ∧ sampleScan.length < 2 ^ 28 ∧
      sampleSnapshot.parameters.publishNoisePoints = true ∧
      sampleSnapshot.parameters.verticalBins.toNat * sectors ≤ maxBuffer ∧
      ∃ outcome noise, (sampleSnapshot.filter sampleCloud none).1 = .ok outcome ∧
        outcome.noise = some noise ∧ outcome.statistics.accepted = 3 ∧
        outcome.statistics.rejected = 1 := by
  refine ⟨ofCloud_sampleCloud, by decide, rfl, by decide, ?_⟩
  obtain ⟨outcome, noise, runs, filtered, rejected, cut, -, -, -, -, -, -, counts⟩ :=
    sampleSnapshot.filter_separates_runs sampleCloud none sampleScan ofCloud_sampleCloud
      (by decide) rfl (by decide)
  refine ⟨outcome, noise, filtered, rejected, ?_⟩
  have found := (cut _).mp ((Parameters.isSegmentation_iff _ _ _ _).mpr rfl)
  rw [counts, ← found]
  decide +kernel

/-! ## Where there is no buffer for the grid -/

/-- Valid settings whose grid has a number of cells that is a size, but not one of a buffer. -/
def wideSnapshot : Snapshot :=
  .ofParameters 0
    { Parameters.standard with
      publishNoisePoints := true
      verticalBins := 300000000000000000 }

/-- That the number of cells is a size does not suffice. -/
theorem sampleCloud_without_outcome :
    wideSnapshot.parameters.validate = .ok () ∧
      wideSnapshot.parameters.publishNoisePoints = true ∧
      Scan.ofCloud sampleCloud = .ok sampleScan ∧ sampleScan.length < 2 ^ 28 ∧
      wideSnapshot.parameters.verticalBins.toNat * sectors < sizeBound ∧
      ¬ ∃ outcome, (wideSnapshot.filter sampleCloud none).1 = .ok outcome := by
  refine ⟨by decide +kernel, rfl, ofCloud_sampleCloud, by decide, by decide, ?_⟩
  rintro ⟨outcome, filtered⟩
  have publish : wideSnapshot.parameters.publishNoisePoints = true := rfl
  have large : maxBuffer < wideSnapshot.grid.size := by decide
  have given_up := (Grid.evaluate?_eq_none_iff wideSnapshot.grid sampleCloud.header
    sampleScan.returns).mpr large
  rw [wideSnapshot.filter_of_opened ofCloud_sampleCloud,
    Snapshot.filterReturns_eq _ _ _ _ (by rw [Scan.size_returns]; decide), if_pos publish,
    given_up] at filtered
  cases filtered

end LidarSieve
