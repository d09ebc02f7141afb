import LidarSieve.Proofs.Differences
import LidarSieve.Proofs.History
import LidarSieve.Proofs.Outcome
import LidarSieve.Proofs.Unplaced
/-!
# Reports agree with results

Filtering and changing parameters report events beside their results.  For a scan these come from
three places: the rings warn of records without a place, the grid tells of records without a row,
and the filter itself tells of the whole.  `Filter.reports_agree` says that the events of every call
that returns are told by what it returns.

What a refused scan or a refused change reports is nothing.  A scan that is given up
(`Failure.overrun`) has no result that its events could be compared with.
-/
set_option autoImplicit false

namespace LidarSieve

/-! ## Records without a place -/

section Warnings

variable {returns : Array Return} {concerned : Nat → Prop} {event : Nat → Nat → Event} {total : Nat}
  {events : List Event}

/-- A warning is of one kind. -/
theorem Warns.severity_eq (warns : Warns returns concerned event total events) {severity : Severity}
    (kind : ∀ total ring, (event total ring).severity = severity) :
    ∀ e ∈ events, e.severity = severity := by
  cases warns with
  | silent => exact fun e mem => nomatch mem
  | once total index r some_concerned least found =>
    intro e mem
    rw [List.mem_singleton.mp mem]
    exact kind total r.ring

end Warnings

/-! ## Scans -/

/-- How many returns have a ring number beyond the rows of the grid. -/
def Parameters.beyondRows (p : Parameters) (returns : Array Return) : Nat :=
  returns.countP fun r => decide (p.verticalBins.toNat ≤ r.ring)

/-- The last event of a scan tells what its outcome tells. -/
def Outcome.summary (outcome : Outcome) (header : Header) : Event :=
  .scanFiltered header.frame outcome.version outcome.statistics.input outcome.statistics.accepted
    outcome.statistics.rejected outcome.statistics.walks (outcome.visibility.map (·.score))

/-- The events of a scan, told by its outcome: one warning if records were skipped and one if
records were dropped, with the counts of the outcome; their number, if noise is published and some
records are beyond the rows of the grid; and the summary. -/
structure Outcome.Reports (p : Parameters) (header : Header) (returns : Array Return)
    (outcome : Outcome) (skipped dropped beyond : List Event) (last : Event) : Prop where
  skipped_warns : Warns returns (IsSkipped returns p.maxRings.toNat)
    (fun total ring => .ringsSkipped total ring p.maxRings.toNat)
    outcome.statistics.unplaced.skipped skipped
  dropped_warns : Warns returns (IsDropped returns p.maxRings.toNat p.maxPointsPerRing.toNat)
    (fun total ring => .ringsFull total ring p.maxPointsPerRing.toNat)
    outcome.statistics.unplaced.dropped dropped
  beyond_eq : beyond =
    if p.publishNoisePoints = true ∧ 0 < p.beyondRows returns then
      [.rowsExceeded (p.beyondRows returns) p.verticalBins.toNat]
    else []
  last_eq : last = outcome.summary header
  /-- There is a score exactly if noise is published. -/
  isSome_visibility : outcome.visibility.isSome = p.publishNoisePoints
  warnings : ∀ event ∈ skipped ++ dropped, event.severity = .warning
  debugs : ∀ event ∈ beyond ++ [last], event.severity = .debug

namespace Snapshot

variable {s : Snapshot} {cloud : Cloud} {transform : Option Transform} {returns : Array Return}

/-- Returns that were read are given up, or have an outcome, which their events tell of. -/
theorem told_of_filterReturns {result : Except (Failure Fault) Outcome} {events : List Event}
    (told : s.filterReturns cloud transform returns = (result, events)) :
    result = .error .overrun ∨ ∃ outcome, result = .ok outcome ∧
      outcome.visibility.isSome = s.parameters.publishNoisePoints ∧
      events =
        (Rings.build s.parameters.maxRings.toNat s.parameters.maxPointsPerRing.toNat returns).events
          s.parameters.maxRings.toNat s.parameters.maxPointsPerRing.toNat ++
        (if s.parameters.publishNoisePoints then s.grid.events returns else []) ++
        [outcome.summary cloud.header] := by
  unfold filterReturns sort? at told
  dsimp only at told
  split at told
  · cases told
    exact .inl rfl
  · split at told
    · cases told
      exact .inl rfl
    · cases publish : s.parameters.publishNoisePoints with
      | false =>
        rw [publish, if_neg Bool.false_ne_true] at told
        cases told
        refine .inr ⟨_, rfl, rfl, ?_⟩
        rw [if_neg Bool.false_ne_true, List.append_nil]
        rfl
      | true =>
        rw [publish, if_pos rfl] at told
        split at told
        · cases told
          exact .inl rfl
        · cases told
          exact .inr ⟨_, rfl, rfl, rfl⟩

end Snapshot

/-- What the grid reports, if it is asked. -/
theorem Snapshot.events_grid (s : Snapshot) (returns : Array Return) :
    (if s.parameters.publishNoisePoints then s.grid.events returns else []) =
      if s.parameters.publishNoisePoints = true ∧ 0 < s.parameters.beyondRows returns then
        [.rowsExceeded (s.parameters.beyondRows returns) s.parameters.verticalBins.toNat]
      else [] := by
  have points : returns.countP s.grid.isBeyondRows = s.parameters.beyondRows returns := rfl
  unfold Grid.events
  rw [points]
  cases s.parameters.publishNoisePoints with
  | false => rfl
  | true =>
    rcases Nat.eq_zero_or_pos (s.parameters.beyondRows returns) with all_inside | some_beyond
    · simp [all_inside]
    · simp [some_beyond, Nat.ne_of_gt some_beyond, Snapshot.grid]

/-- The events of a scan that has an outcome are told by the outcome. -/
theorem Snapshot.reports_of_filter {s : Snapshot} {cloud : Cloud} {transform : Option Transform}
    {outcome : Outcome} (filtered : (s.filter cloud transform).1 = .ok outcome) :
    ∃ scan skipped dropped beyond last, Scan.ofCloud cloud = .ok scan ∧
      (s.filter cloud transform).2 = skipped ++ dropped ++ beyond ++ [last] ∧
      outcome.Reports s.parameters cloud.header scan.returns skipped dropped beyond last := by
  obtain ⟨scan, visibility, opened, -, account⟩ :=
    s.eq_ofSelection_of_filter cloud transform filtered
  rw [s.filter_of_opened opened] at filtered ⊢
  generalize told : s.filterReturns cloud transform scan.returns = pair at filtered ⊢
  obtain ⟨result, events⟩ := pair
  obtain rfl : result = .ok outcome := filtered
  rcases told_of_filterReturns told with failed | ⟨other, same, estimated, rfl⟩
  · cases failed
  · obtain rfl : outcome = other := Except.ok.inj same
    have counts : outcome.statistics.unplaced =
        (Rings.build s.parameters.maxRings.toNat s.parameters.maxPointsPerRing.toNat
          scan.returns).unplaced := by
      rw [Rings.unplaced_build, account]
      rfl
    obtain ⟨skipped, dropped, placed, skips, drops⟩ := Rings.warns_build
      s.parameters.maxRings.toNat s.parameters.maxPointsPerRing.toNat scan.returns
    rw [← counts] at skips drops
    rw [placed]
    refine ⟨scan, skipped, dropped, _, _, opened, rfl,
      ⟨skips, drops, s.events_grid scan.returns, rfl, estimated, ?_, ?_⟩⟩
    · intro event mem
      rcases List.mem_append.mp mem with mem | mem
      · exact skips.severity_eq (fun _ _ => rfl) event mem
      · exact drops.severity_eq (fun _ _ => rfl) event mem
    · rw [s.events_grid]
      intro event mem
      rcases List.mem_append.mp mem with mem | mem
      · split_ifs at mem
        · rw [List.mem_singleton.mp mem]
          rfl
        · cases mem
      · rw [List.mem_singleton.mp mem]
        rfl

/-- A refused scan reports nothing: what is read and then given up is not refused. -/
theorem Snapshot.reports_of_refused {s : Snapshot} {cloud : Cloud} {transform : Option Transform}
    {fault : Fault} (refused : (s.filter cloud transform).1 = .error (.refused fault)) :
    (s.filter cloud transform).2 = [] := by
  cases opened : Scan.ofCloud cloud with
  | error failure =>
    unfold filter
    rw [opened]
  | ok scan =>
    rw [s.filter_of_opened opened] at refused
    rcases told_of_filterReturns (Prod.eta _).symm with failed | ⟨outcome, same, -⟩
    · cases refused.symm.trans failed
    · cases refused.symm.trans same

/-! ## Changes -/

/-- A change makes the next version, if the parameters are valid then. -/
theorem Filter.update_eq_ok_iff {filter next : Filter} {change : Parameters → Parameters} :
    (filter.update change).1 = .ok next ↔
      (change filter.current.parameters).validate = .ok () ∧
        next = ⟨.ofParameters (filter.current.version + 1) (change filter.current.parameters)⟩ := by
  unfold update
  dsimp only
  cases (change filter.current.parameters).validate with
  | error fault => simp
  | ok valid => simp [eq_comm]

/-! ## All calls -/

/-- What calls of a filter report agrees with what they return.

* A scan that is refused reports nothing.  A scan that has an outcome reports what
  `Outcome.Reports` says, and the outcome has the version of the filter.
* A change that is refused reports nothing.  A change that makes a next version reports each of the
  changes between the two, in their order, all under the new version. -/
theorem Filter.reports_agree (filter : Filter) :
    (∀ cloud transform fault, (filter.filter cloud transform).1 = .error (.refused fault) →
      (filter.filter cloud transform).2 = []) ∧
    (∀ cloud transform outcome, (filter.filter cloud transform).1 = .ok outcome →
      outcome.version = filter.current.version ∧
      ∃ scan skipped dropped beyond last, Scan.ofCloud cloud = .ok scan ∧
        (filter.filter cloud transform).2 = skipped ++ dropped ++ beyond ++ [last] ∧
        outcome.Reports filter.current.parameters cloud.header scan.returns
          skipped dropped beyond last) ∧
    (∀ change fault, (filter.update change).1 = .error fault → (filter.update change).2 = []) ∧
    ∀ change next, (filter.update change).1 = .ok next →
      next.current.version = filter.current.version + 1 ∧
      next.current.parameters = change filter.current.parameters ∧
      (filter.update change).2 =
        (next.current.parameters.changesFrom filter.current.parameters).map
          (Change.event next.current.version) ∧
      ∀ event ∈ (filter.update change).2, event.severity = .debug := by
  refine ⟨fun cloud transform fault refused => Snapshot.reports_of_refused refused, ?_, ?_, ?_⟩
  · intro cloud transform outcome filtered
    exact ⟨filter.current.version_of_filter cloud transform filtered,
      Snapshot.reports_of_filter filtered⟩
  · intro change fault refused
    rw [filter.reports_update change, if_neg]
    intro valid
    have made := Filter.update_eq_ok_iff.mpr ⟨valid, rfl⟩
    cases refused.symm.trans made
  · intro change next made
    obtain ⟨valid, rfl⟩ := Filter.update_eq_ok_iff.mp made
    have events := filter.reports_update change
    rw [if_pos valid] at events
    refine ⟨rfl, rfl, events, fun event mem => ?_⟩
    rw [events] at mem
    obtain ⟨one, -, rfl⟩ := List.mem_map.mp mem
    rfl

/-- The small scan without octets in its records. -/
def stridelessCloud : Cloud := { sampleCloud with pointStep := 0 }

theorem Filter.reports_sampleCloud :
    (Filter.filter ⟨sampleSnapshot⟩ stridelessCloud none).2 = [] ∧
      (∃ outcome, (Filter.filter ⟨sampleSnapshot⟩ sampleCloud none).1 = .ok outcome ∧
        outcome.version = 0 ∧ (Filter.filter ⟨sampleSnapshot⟩ sampleCloud none).2.getLast? =
          some (outcome.summary sampleCloud.header)) ∧
      (Filter.update ⟨sampleSnapshot⟩ fun p => { p with maxRings := 0 }).2 = [] ∧
      (Filter.update ⟨sampleSnapshot⟩ fun p => { p with maxRings := 64 }).2 =
        [.parameterSet 1 "max_rings" "128" "64"] := by
  obtain ⟨refuses, tells, rejects, changes⟩ := Filter.reports_agree ⟨sampleSnapshot⟩
  refine ⟨?_, ?_, ?_, ?_⟩
  · exact refuses stridelessCloud none .zeroStride (by decide)
  · obtain ⟨outcome, filtered⟩ := sampleSnapshot.exists_outcome ofCloud_sampleCloud none
      (by decide) fun _ => by decide
    obtain ⟨version, scan, skipped, dropped, beyond, last, -, events, reports⟩ :=
      tells sampleCloud none outcome filtered
    refine ⟨outcome, filtered, version, ?_⟩
    rw [events, reports.last_eq, List.getLast?_concat]
  · exact rejects (fun p => { p with maxRings := 0 }) (.invalidParameter "max_rings must be > 0")
      (by decide)
  · let next : Parameters := { sampleSnapshot.parameters with maxRings := 64 }
    have valid : next.validate = .ok () := by decide
    have made : (Filter.update ⟨sampleSnapshot⟩ fun p => { p with maxRings := 64 }).1 =
        .ok ⟨.ofParameters 1 next⟩ := Filter.update_eq_ok_iff.mpr ⟨valid, rfl⟩
    obtain ⟨-, -, events, -⟩ := changes _ _ made
    rw [events]
    decide

end LidarSieve
