import LidarSieve.Proofs.Order
import LidarSieve.Proofs.Outcome
import LidarSieve.Proofs.Validity
/-!
# Looser thresholds accept more

A walk is taken for an object if it has many returns or is long enough, and the two thresholds for
this are read by nothing else.  So parameters whose thresholds are lowered cut a scan into the same
walks, and take every walk for an object that was taken for one before (`Snapshot.filter_loosened`):
what is accepted grows, what is rejected shrinks, and both keep their order.

Lengths are compared as squares that have been rounded.  A square that is rounded to nothing or to
the infinity is still in order with the others (`Number.mul_le_mul`), and a length that is no number
is not long under any threshold.
-/
set_option autoImplicit false

namespace LidarSieve

open LidarSieve.Binary

variable {α : Type}

/-! ## Criteria -/

/-- The thresholds of a criterion do not exceed those of another one, which are finite. -/
structure Criterion.LooserThan (loose strict : Criterion) : Prop where
  points_le : loose.points ≤ strict.points
  zero_le : 0 ≤ loose.length
  length_le : loose.length ≤ strict.length
  finite : strict.length.isFinite = true

namespace Criterion.LooserThan

variable {loose strict : Criterion} (looser : loose.LooserThan strict)

include looser

theorem isLong {first last : Return} (long : strict.isLong first last = true) :
    loose.isLong first last = true := by
  have squares : loose.length * loose.length ≤ strict.length * strict.length :=
    Number.mul_le_mul looser.zero_le looser.length_le looser.finite looser.zero_le looser.length_le
      looser.finite
  exact Number.le_trans squares long

theorem judge {size : Nat} {first last : Return}
    (accepted : strict.judge size first last = .cluster) :
    loose.judge size first last = .cluster := by
  unfold Criterion.judge at accepted ⊢
  apply if_pos
  split at accepted
  · rename_i reason
    rw [Bool.or_eq_true, decide_eq_true_eq] at reason ⊢
    rcases reason with many | long
    · exact .inl (looser.points_le.trans many)
    · exact .inr (looser.isLong long)
  · cases accepted

/-- Any walk that is taken for an object is so under the looser criterion. -/
theorem judge? {returns : Array Return} {ring : Array Nat} {walk : Walk}
    (accepted : strict.judge? returns ring walk = some .cluster) :
    loose.judge? returns ring walk = some .cluster := by
  unfold Criterion.judge? at accepted ⊢
  simp only [Option.bind_eq_bind, Option.bind_eq_some_iff] at accepted ⊢
  obtain ⟨size, counted, accepted⟩ := accepted
  refine ⟨size, counted, ?_⟩
  by_cases many : loose.points ≤ size
  · rw [if_pos many]
    rfl
  · have few : ¬ strict.points ≤ size := fun enough => many (looser.points_le.trans enough)
    rw [if_neg many]
    rw [if_neg few] at accepted
    simp only [Option.bind_eq_some_iff] at accepted ⊢
    obtain ⟨start, at_start, first, at_first, stop, at_stop, last, at_last, judged⟩ := accepted
    refine ⟨start, at_start, first, at_first, stop, at_stop, last, at_last, ?_⟩
    exact congrArg some (looser.judge (Option.some.inj judged))

theorem verdict (get : α → Return) {run : List α}
    (accepted : strict.verdict get run = .cluster) : loose.verdict get run = .cluster := by
  unfold Criterion.verdict at accepted ⊢
  split at accepted
  · exact looser.judge accepted
  · cases accepted

/-- The runs that are taken for objects are still among them. -/
theorem judged_cluster (get : α → Return) (runs : List (List α)) :
    (strict.judged get runs .cluster).Sublist (loose.judged get runs .cluster) := by
  apply List.monotone_filter_right
  intro run accepted
  rw [beq_iff_eq] at accepted ⊢
  exact looser.verdict get accepted

/-- And the runs that are not were not before. -/
theorem judged_noise (get : α → Return) (runs : List (List α)) :
    (loose.judged get runs .noise).Sublist (strict.judged get runs .noise) := by
  apply List.monotone_filter_right
  intro run rejected
  rw [beq_iff_eq] at rejected ⊢
  cases decided : strict.verdict get run with
  | noise => rfl
  | cluster =>
    rw [looser.verdict get decided] at rejected
    cases rejected

end Criterion.LooserThan

/-! ## Parameters -/

/-- Parameters that differ from others in the two thresholds alone, and do not raise them. -/
structure Parameters.LoosenedFrom (loose strict : Parameters) : Prop where
  rest : loose = { strict with
    numPointsThreshold := loose.numPointsThreshold
    objectLengthThreshold := loose.objectLengthThreshold }
  points_le : loose.numPointsThreshold ≤ strict.numPointsThreshold
  length_le : loose.objectLengthThreshold ≤ strict.objectLengthThreshold

namespace Parameters.LoosenedFrom

variable {loose strict : Parameters} (loosened : loose.LoosenedFrom strict)

include loosened

theorem looserThan (valid : loose.validate = .ok ()) (valid' : strict.validate = .ok ()) :
    loose.criterion.LooserThan strict.criterion where
  points_le := UInt64.le_iff_toNat_le.mp loosened.points_le
  zero_le := (length_of_valid valid).2
  length_le := loosened.length_le
  finite := (length_of_valid valid').1

/-- Nothing that rings and walks are made by is changed. -/
theorem segments_eq (get : α → Return) (records : List α) :
    loose.segments get records = strict.segments get records := by
  have ratio : loose.distanceRatio = strict.distanceRatio := by rw [loosened.rest]
  have rings : loose.maxRings = strict.maxRings := by rw [loosened.rest]
  have capacity : loose.maxPointsPerRing = strict.maxPointsPerRing := by rw [loosened.rest]
  exact segments_eq_of_same ratio rings capacity get records

end Parameters.LoosenedFrom

/-! ## Outcomes -/

/-- Read back, the points of a cloud are some of the points of another one, in the same order. -/
def Cloud.PartOf (part whole : Cloud) : Prop :=
  ∃ points all, part.spots = .ok points ∧ whole.spots = .ok all ∧ points.Sublist all

/-- An outcome counts the runs of a scan as its walks.  Read back, its points are those of the runs
that a criterion takes for objects, and its noise, if it has any, those of the other runs. -/
structure Outcome.Separates (outcome : Outcome) (transform : Option Transform) (get : α → Return)
    (c : Criterion) (runs : List (List α)) : Prop where
  walks_eq : outcome.statistics.walks = runs.length
  points_eq : outcome.points.spots =
    .ok (pointsOf transform get (c.judged get runs .cluster).flatten)
  noise_eq : ∀ noise ∈ outcome.noise,
    noise.spots = .ok (pointsOf transform get (c.judged get runs .noise).flatten)

/-- The outcome of the selection separates the runs of the selection. -/
theorem Outcome.separates_ofSelection (s : Snapshot) (cloud : Cloud) (transform : Option Transform)
    (get : α → Return) {records : List α} (nodup : records.Nodup)
    (few : records.length < UInt32.size) (visibility : Option Visibility) :
    (ofSelection s cloud transform get records visibility).Separates transform get
      s.parameters.criterion (s.parameters.segments get records) := by
  have read (verdict : Verdict) :
      (Cloud.ofSelection s.parameters cloud transform get records verdict).spots =
        .ok (pointsOf transform get (s.parameters.selected get records verdict)) := by
    apply Cloud.spots_ofSpots
    rw [length_pointsOf]
    exact Nat.lt_of_le_of_lt (s.parameters.length_selected_le get nodup verdict) few
  refine ⟨rfl, read .cluster, ?_⟩
  intro noise held
  simp only [ofSelection] at held
  split at held
  · cases held
    exact read .noise
  · cases held

theorem pointsOf_sublist (transform : Option Transform) (get : α → Return)
    {few many : List (List α)} (part : few.Sublist many) :
    (pointsOf transform get few.flatten).Sublist (pointsOf transform get many.flatten) :=
  part.flatten.map _

/-- Let a scan of fewer than `2 ^ 28` records have an outcome under valid parameters that publish
noise, and under valid parameters that are loosened from these.  Both cut the scan into the same
runs, and both outcomes separate them.  Any walk and any run that is taken for an object is so under
the looser parameters: the points of the first outcome are among those of the second, and the noise
of the second is part of that of the first. -/
theorem Snapshot.filter_loosened {strict loose : Parameters} (loosened : loose.LoosenedFrom strict)
    (valid : strict.validate = .ok ()) (valid' : loose.validate = .ok ())
    (publish : strict.publishNoisePoints = true) (first second : Nat) (cloud : Cloud)
    (transform : Option Transform) (scan : Scan) (opened : Scan.ofCloud cloud = .ok scan)
    (few : scan.length < 2 ^ 28) {before after : Outcome}
    (filtered : ((ofParameters first strict).filter cloud transform).1 = .ok before)
    (filtered' : ((ofParameters second loose).filter cloud transform).1 = .ok after) :
    let get := returnAt scan.returns
    let records := recordsOf scan.returns
    ∃ runs, (∀ cut, strict.IsSegmentation get records cut ↔ cut = runs) ∧
      (∀ cut, loose.IsSegmentation get records cut ↔ cut = runs) ∧
      before.Separates transform get strict.criterion runs ∧
      after.Separates transform get loose.criterion runs ∧
      (∀ run ∈ runs, strict.criterion.verdict get run = .cluster →
        loose.criterion.verdict get run = .cluster) ∧
      (∀ ring walk, strict.criterion.judge? scan.returns ring walk = some .cluster →
        loose.criterion.judge? scan.returns ring walk = some .cluster) ∧
      before.points.PartOf after.points ∧
      ∃ noise ∈ before.noise, ∃ rest ∈ after.noise, rest.PartOf noise := by
  intro get records
  have looser := loosened.looserThan valid' valid
  have published : loose.publishNoisePoints = true := by
    rw [loosened.rest]
    exact publish
  obtain ⟨scan', visibility, reopened, -, rfl⟩ :=
    (ofParameters first strict).eq_ofSelection_of_filter cloud transform filtered
  obtain rfl : scan = scan' := Except.ok.inj (opened.symm.trans reopened)
  obtain ⟨scan', visibility', reopened, -, rfl⟩ :=
    (ofParameters second loose).eq_ofSelection_of_filter cloud transform filtered'
  obtain rfl : scan = scan' := Except.ok.inj (opened.symm.trans reopened)
  have countable : (recordsOf scan.returns).length < UInt32.size := by
    have word : UInt32.size = 4294967296 := rfl
    rw [recordsOf, List.length_finRange, scan.size_returns]
    omega
  have separated := Outcome.separates_ofSelection (ofParameters first strict) cloud transform get
    (List.nodup_finRange _) countable visibility
  have separated' := Outcome.separates_ofSelection (ofParameters second loose) cloud transform get
    (List.nodup_finRange _) countable visibility'
  simp only [ofParameters, loosened.segments_eq] at separated separated'
  have cut := loose.isSegmentation_iff get records
  rw [loosened.segments_eq] at cut
  refine ⟨strict.segments get records, strict.isSegmentation_iff get records, cut, separated,
    separated', fun run _ => looser.verdict get, fun ring walk => looser.judge?, ?_, ?_⟩
  · exact ⟨_, _, separated.points_eq, separated'.points_eq,
      pointsOf_sublist transform get (looser.judged_cluster get _)⟩
  · refine ⟨_, if_pos publish, _, if_pos published, ?_⟩
    exact ⟨_, _, separated'.noise_eq _ (if_pos published), separated.noise_eq _ (if_pos publish),
      pointsOf_sublist transform get (looser.judged_noise get _)⟩

/-- Settings under which the small scan has no object: neighbours that are short of a threshold by
one return and by half of the length. -/
def strictParameters : Parameters :=
  { sampleSnapshot.parameters with objectLengthThreshold := 4 }

/-- The same settings with a length that the neighbours have. -/
def looseParameters : Parameters :=
  { strictParameters with objectLengthThreshold := 2 }

theorem filter_looseParameters :
    looseParameters.LoosenedFrom strictParameters ∧ strictParameters.validate = .ok () ∧
      looseParameters.validate = .ok () ∧ strictParameters.publishNoisePoints = true ∧
      Scan.ofCloud sampleCloud = .ok sampleScan ∧ sampleScan.length < 2 ^ 28 ∧
      ∃ before after,
        ((Snapshot.ofParameters 0 strictParameters).filter sampleCloud none).1 = .ok before ∧
        ((Snapshot.ofParameters 1 looseParameters).filter sampleCloud none).1 = .ok after ∧
        before.statistics.walks = 2 ∧ after.statistics.walks = 2 ∧
        before.points.spots = .ok [] ∧ after.points.spots ≠ .ok [] ∧
        ∃ noise ∈ before.noise, ∃ rest ∈ after.noise, rest.PartOf noise := by
  have loosened : looseParameters.LoosenedFrom strictParameters :=
    ⟨rfl, by decide, by decide +kernel⟩
  have valid : strictParameters.validate = .ok () := by decide +kernel
  have valid' : looseParameters.validate = .ok () := by decide +kernel
  refine ⟨loosened, valid, valid', rfl, ofCloud_sampleCloud, by decide, ?_⟩
  obtain ⟨before, filtered⟩ := (Snapshot.ofParameters 0 strictParameters).exists_outcome
    ofCloud_sampleCloud none (by decide) (fun _ => by decide)
  obtain ⟨after, filtered'⟩ := (Snapshot.ofParameters 1 looseParameters).exists_outcome
    ofCloud_sampleCloud none (by decide) (fun _ => by decide)
  obtain ⟨runs, cut, -, separated, separated', -, -, -, part⟩ :=
    Snapshot.filter_loosened loosened valid valid' rfl 0 1 sampleCloud none sampleScan
      ofCloud_sampleCloud (by decide) filtered filtered'
  obtain rfl := (cut _).mp ((Parameters.isSegmentation_iff _ _ _ _).mpr rfl)
  refine ⟨before, after, filtered, filtered', ?_, ?_, ?_, ?_, part⟩
  · rw [separated.walks_eq]
    decide +kernel
  · rw [separated'.walks_eq]
    decide +kernel
  · rw [separated.points_eq]
    decide +kernel
  · rw [separated'.points_eq]
    decide +kernel

end LidarSieve
