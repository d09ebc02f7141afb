import LidarSieve.Proofs.Dumps
import LidarSieve.Proofs.Influence
import LidarSieve.Proofs.Precedence
import LidarSieve.Command.Plan
/-!
# The course of a run

A run that filters a scan goes through loading, checking, reading and filtering before it writes
anything.  A course says that all of this has gone well, and what came of it (`Plan.Course`).
With a course a run writes what filtering has yielded, and without one it does nothing.  There is
one exactly if there are valid settings and a whole scan, and a buffer for the grid where noise
is published (`Plan.nonempty_course_iff`).
-/
set_option autoImplicit false

namespace LidarSieve

variable {options : Options} {environment : Environment} {files : Files}

/-! ## The stages in front of writing -/

theorem Filter.create_eq_ok_iff {p : Parameters} {filter : Filter} :
    Filter.create p = .ok filter ↔ p.validate = .ok () ∧ filter = ⟨.ofParameters 0 p⟩ := by
  unfold create
  cases p.validate with
  | error fault => simp
  | ok valid => simp [eq_comm]

/-- The path of the settings: the one that is given, or the standard one. -/
def Options.configPath (options : Options) (environment : Environment) : String :=
  options.config.getD (Settings.standardPath environment)

/-- Settings that are loaded are valid. -/
theorem Settings.validate_of_loaded {path : String} {settings : Settings}
    (loaded : (loadOrStandard files environment path).1 = .ok settings) :
    settings.parameters.validate = .ok () := by
  rw [loadOrStandard_eq] at loaded
  split at loaded
  · cases loaded
  · rw [finish_eq] at loaded
    split at loaded
    · cases loaded
    · rename_i valid
      cases loaded
      exact valid

namespace Plan

/-- The way of a run through all stages in front of writing: settings are loaded and pass the
rules, also with what the options ask for, the scan is read, and filtering it has an outcome. -/
structure Course (options : Options) (environment : Environment) (files : Files) where
  settings : Settings
  filter : Filter
  input : String
  dump : Octets
  cloud : Cloud
  outcome : Outcome
  asked : options.input = some input
  loaded : (Settings.loadOrStandard files environment (options.configPath environment)).1 =
    .ok settings
  created : Filter.create (effective options settings) = .ok filter
  stored : files input = .ok dump
  framed : Cloud.ofDump ⟨options.frameId, 0⟩ options.bigEndian dump = .ok cloud
  filtered : (filter.filter cloud (settings.mount.map Mount.transform)).1 = .ok outcome

/-- The option can only add the request for noise to the settings. -/
theorem effective_eq (options : Options) (settings : Settings) :
    effective options settings = { settings.parameters with
      publishNoisePoints := settings.parameters.publishNoisePoints || options.publishNoise } := by
  unfold effective
  cases options.publishNoise with
  | false => rw [Bool.or_false, if_neg (by decide)]
  | true => rw [Bool.or_true, if_pos rfl]

theorem publish_effective (options : Options) (settings : Settings) :
    (effective options settings).publishNoisePoints =
      (settings.parameters.publishNoisePoints || options.publishNoise) := by
  rw [effective_eq]

theorem validate_effective (options : Options) (settings : Settings) :
    (effective options settings).validate = settings.parameters.validate := by
  rw [effective_eq, Parameters.validate_publish]

theorem size_grid_effective (options : Options) (settings : Settings) :
    (Snapshot.ofParameters 0 (effective options settings)).grid.size =
      settings.parameters.verticalBins.toNat * sectors := by
  rw [effective_eq]
  rfl

theorem agreeOn_effective (first second : Options) (settings : Settings) :
    (effective first settings).AgreeOn Key.segmentation (effective second settings) := by
  rw [effective_eq, effective_eq]
  exact Parameters.agreeOn_segmentation_iff.mpr ⟨rfl, rfl, rfl, rfl, rfl⟩

theorem scan_eq_ok {input : String} {cloud : Cloud} :
    scan options files input = .ok cloud ↔ ∃ dump, files input = .ok dump ∧
      Cloud.ofDump ⟨options.frameId, 0⟩ options.bigEndian dump = .ok cloud := by
  unfold scan
  cases files input with
  | error obstacle => simp
  | ok dump =>
    cases framed : Cloud.ofDump ⟨options.frameId, 0⟩ options.bigEndian dump with
    | error failure => cases failure <;> simp [framed]
    | ok cloud => simp [framed]

/-- A run that gets through writes what filtering has yielded. -/
theorem ofOptions_of_course (filters : options.writeDefaultConfig = false)
    (course : Course options environment files) :
    ofOptions options environment files = publish options course.outcome := by
  have read : scan options files course.input = .ok course.cloud :=
    scan_eq_ok.mpr ⟨course.dump, course.stored, course.framed⟩
  have loaded := course.loaded
  rw [Options.configPath] at loaded
  unfold ofOptions
  rw [filters]
  simp only [Bool.false_eq_true, if_false, course.asked, filterScan, loaded, course.created, read,
    course.filtered]

/-- A run that does not get through does nothing. -/
theorem ofOptions_of_isEmpty (filters : options.writeDefaultConfig = false)
    (stuck : IsEmpty (Course options environment files)) :
    (ofOptions options environment files).steps = [] ∧
      (ofOptions options environment files).ending ≠ .success := by
  -- every stage that fails ends the plan before its first step; the last case is a course
  have refused (complaint : String) :
      (refuse complaint).steps = [] ∧ (refuse complaint).ending ≠ .success :=
    ⟨rfl, nofun⟩
  unfold ofOptions
  rw [filters]
  simp only [Bool.false_eq_true, if_false]
  cases asked : options.input with
  | none => exact refused _
  | some input =>
    dsimp only
    unfold filterScan
    cases loaded : (Settings.loadOrStandard files environment
        (options.config.getD (Settings.standardPath environment))).1 with
    | error fault => exact refused _
    | ok settings =>
      dsimp only
      cases created : Filter.create (effective options settings) with
      | error fault => exact refused _
      | ok filter =>
        dsimp only
        cases read : scan options files input with
        | error failure =>
          cases failure with
          | refused complaint => exact refused _
          | overrun => exact ⟨rfl, nofun⟩
        | ok cloud =>
          dsimp only
          cases filtered : (filter.filter cloud (settings.mount.map Mount.transform)).1 with
          | error failure =>
            cases failure with
            | refused fault => exact refused _
            | overrun => exact ⟨rfl, nofun⟩
          | ok outcome =>
            obtain ⟨dump, stored, framed⟩ := scan_eq_ok.mp read
            exact (stuck.false ⟨settings, filter, input, dump, cloud, outcome, asked, loaded,
              created, stored, framed, filtered⟩).elim

namespace Course

/-- Noise is published: the settings or the option ask for it. -/
def noisy (course : Course options environment files) : Bool :=
  course.settings.parameters.publishNoisePoints || options.publishNoise

/-- The version of the parameters that the scan is filtered with. -/
def snapshot (course : Course options environment files) : Snapshot :=
  .ofParameters 0 (effective options course.settings)

variable (course : Course options environment files)

theorem filtered_snapshot :
    (course.snapshot.filter course.cloud (course.settings.mount.map Mount.transform)).1 =
      .ok course.outcome := by
  obtain ⟨-, made⟩ := Filter.create_eq_ok_iff.mp course.created
  have filtered := course.filtered
  rw [made] at filtered
  exact filtered

/-- The outcome is the one of the selection. -/
theorem outcome_eq :
    ∃ scan visibility, Scan.ofCloud course.cloud = .ok scan ∧
      course.snapshot.visibility? course.cloud.header scan.returns = some visibility ∧
      course.outcome = .ofSelection course.snapshot course.cloud
        (course.settings.mount.map Mount.transform) (returnAt scan.returns)
        (recordsOf scan.returns) visibility :=
  course.snapshot.eq_ofSelection_of_filter _ _ course.filtered_snapshot

/-- Noise is published in the outcome: there are rejected points and a grid. -/
theorem exists_noise (noisy : course.noisy = true) :
    ∃ noise report, course.outcome.noise = some noise ∧
      course.outcome.visibility = some report := by
  obtain ⟨scan, visibility, -, reported, outcome⟩ := course.outcome_eq
  have publish : course.snapshot.parameters.publishNoisePoints = true :=
    (publish_effective options course.settings).trans noisy
  rw [Snapshot.visibility?_of_publish publish] at reported
  obtain ⟨report, -, rfl⟩ := Option.map_eq_some_iff.mp reported
  rw [outcome]
  exact ⟨_, report, if_pos publish, rfl⟩

theorem no_noise (quiet : course.noisy = false) :
    course.outcome.noise = none ∧ course.outcome.visibility = none := by
  obtain ⟨scan, visibility, -, reported, outcome⟩ := course.outcome_eq
  have unpublished : ¬ course.snapshot.parameters.publishNoisePoints = true := by
    rw [snapshot, Snapshot.ofParameters, publish_effective]
    exact Bool.eq_false_iff.mp quiet
  rw [Snapshot.visibility?, if_neg unpublished] at reported
  rw [outcome, ← Option.some.inj reported]
  exact ⟨if_neg unpublished, rfl⟩

/-- There was a buffer for the grid. -/
theorem size_le_of_noisy (noisy : course.noisy = true) :
    course.settings.parameters.verticalBins.toNat * sectors ≤ maxBuffer := by
  obtain ⟨scan, visibility, -, reported, -⟩ := course.outcome_eq
  have publish : course.snapshot.parameters.publishNoisePoints = true :=
    (publish_effective options course.settings).trans noisy
  rw [Snapshot.visibility?_of_publish publish] at reported
  refine Nat.le_of_not_lt fun large => ?_
  rw [← size_grid_effective options] at large
  have missing := (course.snapshot.grid.evaluate?_eq_none_iff course.cloud.header
    scan.returns).mpr large
  rw [missing] at reported
  cases reported

/-- The stages leave no choice: what they read tells the settings and the cloud. -/
theorem parts_eq {settings : Settings} {input : String} {dump : Octets} {cloud : Cloud}
    (loaded : (Settings.loadOrStandard files environment (options.configPath environment)).1 =
      .ok settings)
    (asked : options.input = some input) (stored : files input = .ok dump)
    (framed : Cloud.ofDump ⟨options.frameId, 0⟩ options.bigEndian dump = .ok cloud) :
    course.settings = settings ∧ course.cloud = cloud := by
  obtain rfl : course.input = input := Option.some.inj (course.asked.symm.trans asked)
  obtain rfl : course.dump = dump := Except.ok.inj (course.stored.symm.trans stored)
  exact ⟨Except.ok.inj (course.loaded.symm.trans loaded),
    Except.ok.inj (course.framed.symm.trans framed)⟩

/-- The option does not change which points are accepted. -/
theorem points_eq {flag : Bool}
    (other : Course { options with publishNoise := flag } environment files) :
    other.outcome.points = course.outcome.points := by
  obtain ⟨settings, cloud⟩ :=
    course.parts_eq other.loaded other.asked other.stored other.framed
  obtain ⟨scan, visibility, opened, -, outcome⟩ := course.outcome_eq
  obtain ⟨again, report, reopened, -, reached⟩ := other.outcome_eq
  rw [cloud] at opened outcome
  obtain rfl : scan = again := Except.ok.inj (opened.symm.trans reopened)
  rw [outcome, reached, snapshot, snapshot, settings]
  exact Cloud.ofSelection_eq_of_agree (agreeOn_effective _ _ _) _ _ _ _ .cluster

end Course

/-- A run gets through exactly if there are valid settings and a whole scan, and a buffer for the
grid where noise is published: nothing else can keep a scan from being filtered. -/
theorem nonempty_course_iff :
    Nonempty (Course options environment files) ↔
      ∃ settings input dump cloud,
        (Settings.loadOrStandard files environment (options.configPath environment)).1 =
          .ok settings ∧
        options.input = some input ∧ files input = .ok dump ∧
        Cloud.ofDump ⟨options.frameId, 0⟩ options.bigEndian dump = .ok cloud ∧
        ((settings.parameters.publishNoisePoints || options.publishNoise) = true →
          settings.parameters.verticalBins.toNat * sectors ≤ maxBuffer) := by
  constructor
  · rintro ⟨course⟩
    refine ⟨course.settings, course.input, course.dump, course.cloud, course.loaded, course.asked,
      course.stored, course.framed, course.size_le_of_noisy⟩
  · rintro ⟨settings, input, dump, cloud, loaded, asked, stored, framed, fits⟩
    have valid : (effective options settings).validate = .ok () := by
      rw [validate_effective, Settings.validate_of_loaded loaded]
    obtain ⟨scan, opened, few⟩ := Scan.exists_of_ofDump framed
    have buffer (publish : (effective options settings).publishNoisePoints = true) :
        (Snapshot.ofParameters 0 (effective options settings)).grid.size ≤ maxBuffer := by
      rw [publish_effective] at publish
      rw [size_grid_effective]
      exact fits publish
    obtain ⟨outcome, filtered⟩ := (Snapshot.ofParameters 0
      (effective options settings)).exists_outcome opened
      (settings.mount.map Mount.transform) few buffer
    exact ⟨settings, _, input, dump, cloud, outcome, asked, loaded,
      Filter.create_eq_ok_iff.mpr ⟨valid, rfl⟩, stored, framed, filtered⟩

/-- A run that gets through also does so with the option set otherwise, if there is a buffer for
the grid that is asked for then. -/
theorem Course.nonempty_withFlag (course : Course options environment files) {flag : Bool}
    (fits : (course.settings.parameters.publishNoisePoints || flag) = true →
      course.settings.parameters.verticalBins.toNat * sectors ≤ maxBuffer) :
    Nonempty (Course { options with publishNoise := flag } environment files) :=
  nonempty_course_iff.mpr ⟨course.settings, course.input, course.dump, course.cloud,
    course.loaded, course.asked, course.stored, course.framed, fits⟩

end Plan

end LidarSieve
