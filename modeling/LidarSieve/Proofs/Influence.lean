import LidarSieve.Proofs.Differences
import LidarSieve.Proofs.Outcome
/-!
# What each parameter influences

Every stage reads a few of the parameters, and it gives the same result under any two sets of
parameters that agree on these.  Accepted and rejected points and all counts only depend on the
keys of `Key.segmentation`, the visibility only on those of `Parameters.gridKeys`
(`Snapshot.filter_noninterference`).  Publishing noise adds the cloud of rejected points and the
visibility, and changes nothing else.  One key, `maxAzimuthDiff`, is read by nothing: it is only
named where its own changes are reported.
-/
set_option autoImplicit false

namespace LidarSieve

open LidarSieve.Binary

variable {α : Type}

/-! ## Agreement -/

/-- Two sets of parameters have the same values under the given keys. -/
def Parameters.AgreeOn (p : Parameters) (keys : List Key) (q : Parameters) : Prop :=
  ∀ key ∈ keys, p.get key = q.get key

instance (p : Parameters) (keys : List Key) (q : Parameters) : Decidable (p.AgreeOn keys q) :=
  inferInstanceAs (Decidable (∀ key ∈ keys, p.get key = q.get key))

/-- What rings, walks and verdicts are made by. -/
def Key.segmentation : List Key :=
  [distanceRatio, objectLengthThreshold, numPointsThreshold, maxRings, maxPointsPerRing]

/-- The bounds that a region mode uses. -/
def RegionMode.keys : RegionMode → List Key
  | everywhere => []
  | box => [.xMin, .xMax, .yMin, .yMax, .zMin, .zMax]
  | sector => [.minAzimuthDeg, .maxAzimuthDeg, .maxDistance]

/-- What the visibility grid is made by. -/
def Parameters.gridKeys (p : Parameters) : List Key :=
  [.verticalBins, .noiseThreshold, .regionMode] ++ p.regionMode.keys

/-- All keys that anything is made by. -/
def Key.effective : List Key := all.filter fun key => key ≠ maxAzimuthDiff

theorem Key.mem_effective {key : Key} (other : key ≠ maxAzimuthDiff) : key ∈ effective := by
  have listed : key ∈ all := by cases key <;> decide
  simpa [effective] using ⟨listed, other⟩

section Agreement

variable {p q : Parameters}

theorem Parameters.agreeOn_segmentation_iff :
    p.AgreeOn Key.segmentation q ↔
      p.distanceRatio = q.distanceRatio ∧ p.objectLengthThreshold = q.objectLengthThreshold ∧
        p.numPointsThreshold = q.numPointsThreshold ∧ p.maxRings = q.maxRings ∧
        p.maxPointsPerRing = q.maxPointsPerRing := by
  simp [AgreeOn, Key.segmentation, get, UInt64.toNat_inj, UInt16.toNat_inj]

/-- Sets of parameters that agree on all effective keys differ under the other key alone. -/
theorem Parameters.eq_of_agreeOn_effective (agree : p.AgreeOn Key.effective q) :
    q = { p with maxAzimuthDiff := q.maxAzimuthDiff } := by
  simp only [AgreeOn, Key.effective, Key.all, get] at agree
  obtain ⟨⟩ := p
  obtain ⟨⟩ := q
  simpa [UInt64.toNat_inj, UInt16.toNat_inj, UInt8.toNat_inj, eq_comm] using agree

/-- The regions are the same if the modes and the bounds that the mode uses are. -/
theorem Region.ofParameters_congr (agree : p.AgreeOn (.regionMode :: p.regionMode.keys) q) :
    ofParameters p = ofParameters q := by
  have mode : p.regionMode = q.regionMode := by
    simpa [Parameters.get] using agree .regionMode List.mem_cons_self
  have bounds : p.AgreeOn p.regionMode.keys q := fun key held =>
    agree key (List.mem_cons_of_mem _ held)
  unfold ofParameters
  rw [← mode]
  cases used : p.regionMode with
  | everywhere => rfl
  | box =>
    have corners : p.xMin = q.xMin ∧ p.xMax = q.xMax ∧ p.yMin = q.yMin ∧ p.yMax = q.yMax ∧
        p.zMin = q.zMin ∧ p.zMax = q.zMax := by
      simpa [used, RegionMode.keys, Parameters.AgreeOn, Parameters.get] using bounds
    simp only [corners]
  | sector =>
    have limits : p.minAzimuthDeg = q.minAzimuthDeg ∧ p.maxAzimuthDeg = q.maxAzimuthDeg ∧
        p.maxDistance = q.maxDistance := by
      simpa [used, RegionMode.keys, Parameters.AgreeOn, Parameters.get] using bounds
    simp only [limits]

/-- The grids are the same under parameters that agree on what a grid is made by. -/
theorem Snapshot.grid_congr (agree : p.AgreeOn p.gridKeys q) (first second : Nat) :
    (ofParameters first p).grid = (ofParameters second q).grid := by
  have region : Region.ofParameters p = Region.ofParameters q :=
    Region.ofParameters_congr fun key held =>
      agree key (List.mem_cons_of_mem _ (List.mem_cons_of_mem _ held))
  have rows : p.verticalBins = q.verticalBins := by
    have read := agree .verticalBins (by simp [Parameters.gridKeys])
    simpa [Parameters.get, UInt64.toNat_inj] using read
  have threshold : p.noiseThreshold = q.noiseThreshold := by
    have read := agree .noiseThreshold (by simp [Parameters.gridKeys])
    simpa [Parameters.get, UInt8.toNat_inj] using read
  simp only [grid, ofParameters, rows, threshold, region]

end Agreement

/-! ## The selection -/

section Selection

variable {p q : Parameters} (agree : p.AgreeOn Key.segmentation q) (get : α → Return)
  (records : List α)

include agree

theorem Parameters.segments_eq_of_agree : p.segments get records = q.segments get records := by
  obtain ⟨ratio, -, -, rings, capacity⟩ := agreeOn_segmentation_iff.mp agree
  exact segments_eq_of_same ratio rings capacity get records

theorem Parameters.criterion_eq_of_agree : p.criterion = q.criterion := by
  obtain ⟨-, length, points, -, -⟩ := agreeOn_segmentation_iff.mp agree
  rw [criterion, criterion, length, points]

theorem Parameters.selected_eq_of_agree (verdict : Verdict) :
    p.selected get records verdict = q.selected get records verdict := by
  rw [selected, selected, criterion_eq_of_agree agree, segments_eq_of_agree agree]

theorem Statistics.ofSelection_eq_of_agree :
    ofSelection p get records = ofSelection q get records := by
  obtain ⟨-, -, -, rings, capacity⟩ := Parameters.agreeOn_segmentation_iff.mp agree
  unfold ofSelection
  rw [← p.flatten_segments, ← q.flatten_segments, Parameters.segments_eq_of_agree agree,
    Parameters.criterion_eq_of_agree agree, Parameters.selected_eq_of_agree agree,
    Parameters.selected_eq_of_agree agree, rings, capacity]

theorem Cloud.ofSelection_eq_of_agree (cloud : Cloud) (transform : Option Transform)
    (verdict : Verdict) :
    ofSelection p cloud transform get records verdict =
      ofSelection q cloud transform get records verdict := by
  rw [ofSelection, ofSelection, Parameters.selected_eq_of_agree agree]

end Selection

/-! ## The key that nothing reads -/

/-- A ring is walked in the same way under parameters that agree on segmentation. -/
theorem Progress.ring_congr {p q : Parameters} (agree : p.AgreeOn Key.segmentation q) :
    Progress.ring p = Progress.ring q := by
  obtain ⟨ratio, length, points, -, -⟩ := Parameters.agreeOn_segmentation_iff.mp agree
  funext returns bucket progress
  unfold Progress.ring
  rw [ratio, length, points]

theorem Progress.rings_congr {p q : Parameters} (agree : p.AgreeOn Key.segmentation q)
    (returns : Array Return) (buckets : List (Array Nat)) (progress : Progress) :
    rings p returns buckets progress = rings q returns buckets progress := by
  induction buckets generalizing progress with
  | nil => rfl
  | cons bucket rest ih =>
    rw [rings, rings, Progress.ring_congr agree]
    simp only [ih]

section Effective

variable {p q : Parameters} (agree : p.AgreeOn Key.effective q)

include agree

theorem Parameters.AgreeOn.segmentation : p.AgreeOn Key.segmentation q := by
  intro key held
  refine agree key (Key.mem_effective ?_)
  rintro rfl
  simp [Key.segmentation] at held

/-- Rules do not read the key, and no complaint names its value. -/
theorem Parameters.validate_congr : p.validate = q.validate := by
  refine validate_eq_of_rules ?_
  rw [eq_of_agreeOn_effective agree]
  simp [rules, boundsRule]

/-- Filtering does not read it: results and reports are the same, also where a scan is refused or
given up. -/
theorem Snapshot.filter_congr (version : Nat) (cloud : Cloud) (transform : Option Transform) :
    (ofParameters version p).filter cloud transform =
      (ofParameters version q).filter cloud transform := by
  have rings := Progress.rings_congr agree.segmentation
  rw [Parameters.eq_of_agreeOn_effective agree] at rings ⊢
  unfold filter
  split
  · rfl
  · unfold filterReturns sort?
    simp only [ofParameters] at rings ⊢
    simp only [rings]
    rfl

/-- The same changes of other keys are listed. -/
theorem Parameters.changesFrom_congr {before other : Parameters}
    (earlier : before.AgreeOn Key.effective other) :
    (p.changesFrom before).filter (fun change => change.key ≠ .maxAzimuthDiff) =
      (q.changesFrom other).filter fun change => change.key ≠ .maxAzimuthDiff := by
  have values {key : Key} (read : key ≠ .maxAzimuthDiff) :
      before.get key = other.get key ∧ p.get key = q.get key :=
    ⟨earlier key (Key.mem_effective read), agree key (Key.mem_effective read)⟩
  unfold changesFrom
  rw [List.filter_map, List.filter_map, List.filter_filter, List.filter_filter]
  have listed : (Key.all.filter fun key => decide (key ≠ .maxAzimuthDiff) &&
        (before.get key).differs (p.get key)) =
      Key.all.filter fun key => decide (key ≠ .maxAzimuthDiff) &&
        (other.get key).differs (q.get key) := by
    apply List.filter_congr
    intro key _
    by_cases read : key = .maxAzimuthDiff
    · simp [read]
    · rw [(values read).1, (values read).2]
  refine (congrArg _ listed).trans (List.map_congr_left fun key held => ?_)
  have kept := (List.mem_filter.mp held).2
  rw [Bool.and_eq_true, decide_eq_true_eq] at kept
  simp only [(values kept.1).1, (values kept.1).2]

end Effective

/-- The event reports a change of the parameter. -/
def Event.reports (key : Key) : Event → Bool
  | .parameterSet _ parameter _ _ => parameter == key.name
  | _ => false

theorem Change.reports_event (version : Nat) (change : Change) :
    (change.event version).reports .maxAzimuthDiff = decide (change.key = .maxAzimuthDiff) := by
  obtain ⟨key, old, new⟩ := change
  cases key <;> rfl

/-- Two sets of parameters have the same effect, but for reports of changes of one key: they pass
or fail the rules alike, choose the same region, filter every scan alike, and where they replace
parameters that agree on all effective keys, they are reported alike. -/
structure Parameters.SameEffect (p : Parameters) (key : Key) (q : Parameters) : Prop where
  validate_eq : p.validate = q.validate
  region_eq : Region.ofParameters p = Region.ofParameters q
  filter_eq : ∀ version cloud transform,
    (Snapshot.ofParameters version p).filter cloud transform =
      (Snapshot.ofParameters version q).filter cloud transform
  reports_eq : ∀ (version : Nat) (before other : Parameters),
    before.AgreeOn Key.effective other →
      (Filter.replace ⟨.ofParameters version before⟩ p).2.filter (fun event => !event.reports key) =
        (Filter.replace ⟨.ofParameters version other⟩ q).2.filter fun event => !event.reports key

/-- What replacing parameters reports. -/
theorem Filter.reports_replace (version : Nat) (before p : Parameters) :
    (Filter.replace ⟨.ofParameters version before⟩ p).2 =
      if p.validate = .ok () then (p.changesFrom before).map (Change.event (version + 1))
      else [] :=
  Filter.reports_update ⟨.ofParameters version before⟩ fun _ => p

/-- The key that nothing is made by has no effect but reports of its own changes. -/
theorem Parameters.sameEffect_of_agree {p q : Parameters} (agree : p.AgreeOn Key.effective q) :
    p.SameEffect .maxAzimuthDiff q where
  validate_eq := validate_congr agree
  region_eq := by
    rw [eq_of_agreeOn_effective agree]
    rfl
  filter_eq := Snapshot.filter_congr agree
  reports_eq version before other earlier := by
    rw [Filter.reports_replace, Filter.reports_replace, validate_congr agree]
    split
    · have listed := changesFrom_congr agree earlier
      rw [List.filter_map, List.filter_map]
      simp only [Function.comp_def, Change.reports_event, ← decide_not]
      exact congrArg _ listed
    · rfl

/-! ## Two outcomes of one scan -/

/-- Two sets of parameters that differ in `maxAzimuthDiff` alone have the same effect altogether,
but for reports of changes of that key.  Let a scan have an outcome under any two sets.

* If they agree on segmentation, the accepted points and all counts are the same, and where both
  publish noise, so are the rejected points.
* If both publish noise and agree on what a grid is made by, the visibility is the same. -/
theorem Snapshot.filter_noninterference (p q : Parameters) :
    (p.AgreeOn Key.effective q → p.SameEffect .maxAzimuthDiff q) ∧
    ∀ (first second : Nat) (cloud : Cloud) (transform : Option Transform) (left right : Outcome),
      ((ofParameters first p).filter cloud transform).1 = .ok left →
      ((ofParameters second q).filter cloud transform).1 = .ok right →
      (p.AgreeOn Key.segmentation q →
        left.points = right.points ∧ left.statistics = right.statistics ∧
          (p.publishNoisePoints = true → q.publishNoisePoints = true →
            ∃ noise, left.noise = some noise ∧ right.noise = some noise)) ∧
      (p.publishNoisePoints = true → q.publishNoisePoints = true → p.AgreeOn p.gridKeys q →
        ∃ report, left.visibility = some report ∧ right.visibility = some report) := by
  refine ⟨Parameters.sameEffect_of_agree, ?_⟩
  intro first second cloud transform left right filtered_left filtered_right
  obtain ⟨scan, visibility, opened, reported, rfl⟩ :=
    (ofParameters first p).eq_ofSelection_of_filter cloud transform filtered_left
  obtain ⟨again, also, reopened, rereported, rfl⟩ :=
    (ofParameters second q).eq_ofSelection_of_filter cloud transform filtered_right
  obtain rfl : scan = again := Except.ok.inj (opened.symm.trans reopened)
  constructor
  · intro agree
    have clouds := Cloud.ofSelection_eq_of_agree agree (returnAt scan.returns)
      (recordsOf scan.returns) cloud transform
    refine ⟨clouds .cluster, Statistics.ofSelection_eq_of_agree agree _ _,
      fun publish_left publish_right => ⟨_, if_pos publish_left, ?_⟩⟩
    exact (if_pos publish_right).trans (congrArg some (clouds .noise).symm)
  · intro publish_left publish_right agree
    rw [visibility?_of_publish publish_left] at reported
    rw [visibility?_of_publish publish_right, ← grid_congr agree first second, reported]
      at rereported
    obtain ⟨report, estimated, rfl⟩ := Option.map_eq_some_iff.mp reported
    exact ⟨report, rfl, (Option.some.inj rereported).symm⟩

/-- Settings that differ from those of the small scan in bounds that the region mode does not use,
and in the key that nothing reads. -/
def otherParameters : Parameters :=
  { sampleSnapshot.parameters with xMin := -1, maxDistance := 3, maxAzimuthDiff := 7 }

theorem sampleCloud_under_otherParameters :
    sampleSnapshot.parameters ≠ otherParameters ∧
      sampleSnapshot.parameters.SameEffect .maxAzimuthDiff
        { sampleSnapshot.parameters with maxAzimuthDiff := 7 } ∧
      ∃ left right, ((Snapshot.ofParameters 0 sampleSnapshot.parameters).filter
          sampleCloud none).1 = .ok left ∧
        ((Snapshot.ofParameters 5 otherParameters).filter sampleCloud none).1 = .ok right ∧
        left.points = right.points ∧ left.statistics = right.statistics ∧
        (∃ noise, left.noise = some noise ∧ right.noise = some noise) ∧
        ∃ report, left.visibility = some report ∧ right.visibility = some report := by
  obtain ⟨same_effect, -⟩ := Snapshot.filter_noninterference sampleSnapshot.parameters
    { sampleSnapshot.parameters with maxAzimuthDiff := 7 }
  refine ⟨by decide +kernel, same_effect (by decide +kernel), ?_⟩
  obtain ⟨left, filtered_left⟩ := (Snapshot.ofParameters 0
    sampleSnapshot.parameters).exists_outcome ofCloud_sampleCloud none (by decide)
    (fun _ => by decide)
  obtain ⟨right, filtered_right⟩ := (Snapshot.ofParameters 5 otherParameters).exists_outcome
    ofCloud_sampleCloud none (by decide) (fun _ => by decide)
  obtain ⟨-, outcomes⟩ := Snapshot.filter_noninterference sampleSnapshot.parameters otherParameters
  obtain ⟨selection, visibility⟩ :=
    outcomes 0 5 sampleCloud none left right filtered_left filtered_right
  obtain ⟨points, statistics, noise⟩ := selection (by decide +kernel)
  exact ⟨left, right, filtered_left, filtered_right, points, statistics, noise rfl rfl,
    visibility rfl rfl (by decide +kernel)⟩

end LidarSieve
