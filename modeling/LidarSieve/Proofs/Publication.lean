import LidarSieve.Proofs.Course
import LidarSieve.Proofs.Trees
/-!
# What a run leaves behind

A run without a course leaves all files as they were.  With a course each file that was asked for
holds its part of what filtering has yielded, those of the rejected points and of the grid
exactly where noise is published, and all else is as it was.  Asking for noise does not change
the accepted points, as long as there is a buffer for the grid (`FileTree.run_publishes`).
-/
set_option autoImplicit false

namespace LidarSieve

variable {options : Options} {environment : Environment} {files : Files}

/-! ## The files of an outcome -/

/-- The paths of the files that a run writes, depending on whether noise is published. -/
def Options.targets (options : Options) (noisy : Bool) : List String :=
  options.output.toList ++
    if noisy then options.noiseOutput.toList ++ options.gridOutput.toList else []

theorem Options.targets_sublist (options : Options) (noisy : Bool) :
    (options.targets noisy).Sublist (options.targets true) := by
  cases noisy with
  | false => simp [targets]
  | true => exact List.Sublist.refl _

namespace Plan

/-- What is written where a path is given and there is something to write. -/
theorem mem_files_writeIf {artefact : Artefact} {given : Option String} {found : Option Octets}
    {path : String} {contents : Octets} :
    (path, contents) ∈ Step.files (writeIf artefact given found) ↔
      given = some path ∧ found = some contents := by
  cases given with
  | none => simp [writeIf, Step.files]
  | some target =>
    cases found with
    | none => simp [writeIf, Step.files]
    | some octets => simp [writeIf, Step.files, Step.file?, eq_comm]

theorem exists_of_mem_writeIf {artefact : Artefact} {given : Option String}
    {found : Option Octets} {step : Step} (held : step ∈ writeIf artefact given found) :
    ∃ artefact path contents, step = .write artefact path contents := by
  unfold writeIf at held
  split at held
  · exact ⟨_, _, _, List.mem_singleton.mp held⟩
  · cases held

theorem targets_writeIf (artefact : Artefact) (given : Option String) (found : Option Octets) :
    (Step.files (writeIf artefact given found)).map Prod.fst =
      if found.isSome then given.toList else [] := by
  cases given <;> cases found <;> rfl

/-- The steps behind the summary. -/
def writes (options : Options) (outcome : Outcome) : List Step :=
  writeIf .cloud options.output (some outcome.points.data) ++
    writeIf .cloud options.noiseOutput (outcome.noise.map (·.data)) ++
    writeIf .grid options.gridOutput (outcome.visibility.map (·.image))

theorem publish_eq (options : Options) (outcome : Outcome) :
    publish options outcome = ⟨.print (summary outcome) :: writes options outcome, .success⟩ := rfl

theorem exists_of_mem_writes {outcome : Outcome} {step : Step}
    (held : step ∈ writes options outcome) :
    ∃ artefact path contents, step = .write artefact path contents := by
  rcases List.mem_append.mp held with held | held
  · rcases List.mem_append.mp held with held | held
    · exact exists_of_mem_writeIf held
    · exact exists_of_mem_writeIf held
  · exact exists_of_mem_writeIf held

theorem files_writes (options : Options) (outcome : Outcome) :
    Step.files (writes options outcome) =
      Step.files (writeIf .cloud options.output (some outcome.points.data)) ++
        Step.files (writeIf .cloud options.noiseOutput (outcome.noise.map (·.data))) ++
        Step.files (writeIf .grid options.gridOutput (outcome.visibility.map (·.image))) := by
  simp only [Step.files, writes, List.filterMap_append]

theorem mem_files_writes {outcome : Outcome} {path : String} {contents : Octets} :
    (path, contents) ∈ Step.files (writes options outcome) ↔
      (options.output = some path ∧ outcome.points.data = contents) ∨
      (options.noiseOutput = some path ∧ outcome.noise.map (·.data) = some contents) ∨
      (options.gridOutput = some path ∧ outcome.visibility.map (·.image) = some contents) := by
  rw [files_writes, List.mem_append, List.mem_append, mem_files_writeIf, mem_files_writeIf,
    mem_files_writeIf, Option.some.injEq, or_assoc]

/-- The files are written at the paths that are given for them. -/
theorem Course.targets_eq (course : Course options environment files) :
    (Step.files (writes options course.outcome)).map Prod.fst = options.targets course.noisy := by
  rw [files_writes, List.map_append, List.map_append, targets_writeIf, targets_writeIf,
    targets_writeIf, List.append_assoc, Options.targets]
  cases noisy : course.noisy with
  | false =>
    obtain ⟨noise, visibility⟩ := course.no_noise noisy
    rw [noise, visibility]
    rfl
  | true =>
    obtain ⟨cloud, report, noise, visibility⟩ := course.exists_noise noisy
    rw [noise, visibility]
    rfl

end Plan

/-! ## Runs -/

namespace FileTree

variable {tree : FileTree}

/-- What a run that gets through leaves: all that it was asked for is written, rejected points and
the grid where noise is published, and everything else is as it was. -/
structure Published (tree : FileTree) (options : Options)
    (course : Plan.Course options environment tree.read) (ending : Ending) (session : Session) :
    Prop where
  success : ending = .success
  printed : session.printed = Plan.summary course.outcome
  points : ∀ path, options.output = some path →
    session.tree.read path = .ok course.outcome.points.data
  noise : course.noisy = true → ∀ path, options.noiseOutput = some path →
    ∃ cloud, course.outcome.noise = some cloud ∧ session.tree.read path = .ok cloud.data
  grid : course.noisy = true → ∀ path, options.gridOutput = some path →
    ∃ report, course.outcome.visibility = some report ∧
      session.tree.read path = .ok report.image
  others : ∀ place, (∀ path ∈ options.targets course.noisy, tree.resolve path ≠ .ok place) →
    session.tree.occupant? place = tree.occupant? place

/-- A run that does not get through leaves nothing. -/
theorem run_of_isEmpty (filters : options.writeDefaultConfig = false)
    (stuck : IsEmpty (Plan.Course options environment tree.read)) :
    (tree.run environment options).1 ≠ .success ∧
      (tree.run environment options).2 = ⟨tree, ""⟩ := by
  obtain ⟨steps, ending⟩ := Plan.ofOptions_of_isEmpty filters stuck
  rw [run, Plan.carryOut, steps]
  exact ⟨ending, rfl⟩

/-- A run that gets through prints the summary, and is left with the files to write. -/
theorem run_eq_of_course (filters : options.writeDefaultConfig = false)
    (course : Plan.Course options environment tree.read) :
    tree.run environment options =
      (host.performAll .success (Plan.writes options course.outcome)).run
        ⟨tree, Plan.summary course.outcome⟩ := by
  have printed := perform_print tree (Plan.summary course.outcome) ""
  rw [String.empty_append] at printed
  rw [run, Plan.ofOptions_of_course filters course, Plan.publish_eq, Plan.carryOut,
    performAll_cons printed]

theorem run_of_course (filters : options.writeDefaultConfig = false)
    (course : Plan.Course options environment tree.read)
    (takes : tree.TakesAll (options.targets course.noisy)) :
    tree.Published options course (tree.run environment options).1
      (tree.run environment options).2 := by
  rw [← course.targets_eq] at takes
  obtain ⟨after, performed, written⟩ :=
    performAll_writes .success (Plan.summary course.outcome)
      (fun _ held => Plan.exists_of_mem_writes held) takes
  rw [run_eq_of_course filters course, performed]
  constructor
  case success => rfl
  case printed => rfl
  case points =>
    intro path asked
    exact written.reads (path, _) (Plan.mem_files_writes.mpr (.inl ⟨asked, rfl⟩))
  case noise =>
    intro noisy path asked
    obtain ⟨cloud, -, found, -⟩ := course.exists_noise noisy
    refine ⟨cloud, found, written.reads (path, _) (Plan.mem_files_writes.mpr ?_)⟩
    exact .inr (.inl ⟨asked, by rw [found]; rfl⟩)
  case grid =>
    intro noisy path asked
    obtain ⟨-, report, -, found⟩ := course.exists_noise noisy
    refine ⟨report, found, written.reads (path, _) (Plan.mem_files_writes.mpr ?_)⟩
    exact .inr (.inr ⟨asked, by rw [found]; rfl⟩)
  case others =>
    intro place untouched
    rw [← course.targets_eq] at untouched
    exact written.others place fun file held =>
      untouched file.1 (List.mem_map_of_mem held)

/-- Reading the accepted points gives the same with the option and without it, if there is a
buffer for a grid that only the option asks for. -/
theorem read_output_eq (filters : options.writeDefaultConfig = false)
    (fits : ∀ settings, (Settings.loadOrStandard tree.read environment
        (options.configPath environment)).1 = .ok settings →
      settings.parameters.publishNoisePoints = true ∨
        settings.parameters.verticalBins.toNat * sectors ≤ maxBuffer)
    (takes : tree.TakesAll (options.targets true)) {path : String}
    (asked : options.output = some path) :
    (tree.run environment { options with publishNoise := true }).2.tree.read path =
      (tree.run environment { options with publishNoise := false }).2.tree.read path := by
  have fewer (noisy : Bool) : tree.TakesAll (options.targets noisy) :=
    takes.sublist (options.targets_sublist noisy)
  have filters_loud : ({ options with publishNoise := true } : Options).writeDefaultConfig = false :=
    filters
  have filters_quiet :
      ({ options with publishNoise := false } : Options).writeDefaultConfig = false := filters
  by_cases loud : Nonempty (Plan.Course { options with publishNoise := true } environment tree.read)
  · obtain ⟨course⟩ := loud
    obtain ⟨other⟩ : Nonempty
        (Plan.Course { options with publishNoise := false } environment tree.read) :=
      course.nonempty_withFlag fun _ => course.size_le_of_noisy (Bool.or_true _)
    have first := (run_of_course filters_loud course (fewer course.noisy)).points path asked
    have second := (run_of_course filters_quiet other (fewer other.noisy)).points path asked
    rw [first, second, course.points_eq other]
  · have quiet : IsEmpty
        (Plan.Course { options with publishNoise := false } environment tree.read) := by
      refine ⟨fun course => loud (course.nonempty_withFlag fun _ => ?_)⟩
      refine (fits course.settings course.loaded).elim (fun settled => ?_) id
      exact course.size_le_of_noisy (by rw [Plan.Course.noisy, settled, Bool.true_or])
    rw [(run_of_isEmpty filters_loud (not_nonempty_iff.mp loud)).2,
      (run_of_isEmpty filters_quiet quiet).2]

/-- A run that filters a scan either does not get through, and then it leaves all files as they
were, or it gets through, and then each file that it was asked for holds its part of what
filtering has yielded.  The file of the accepted points is the same with the option that asks for
noise and without it, if there is a buffer for a grid that only the option asks for. -/
theorem run_publishes (tree : FileTree) (environment : Environment) (options : Options)
    (filters : options.writeDefaultConfig = false) :
    (IsEmpty (Plan.Course options environment tree.read) →
      (tree.run environment options).1 ≠ .success ∧
        (tree.run environment options).2 = ⟨tree, ""⟩) ∧
    (∀ course : Plan.Course options environment tree.read,
      tree.TakesAll (options.targets course.noisy) →
        tree.Published options course (tree.run environment options).1
          (tree.run environment options).2) ∧
    ((∀ settings, (Settings.loadOrStandard tree.read environment
          (options.configPath environment)).1 = .ok settings →
        settings.parameters.publishNoisePoints = true ∨
          settings.parameters.verticalBins.toNat * sectors ≤ maxBuffer) →
      tree.TakesAll (options.targets true) →
      ∀ path, options.output = some path →
        (tree.run environment { options with publishNoise := true }).2.tree.read path =
          (tree.run environment { options with publishNoise := false }).2.tree.read path) :=
  ⟨run_of_isEmpty filters, run_of_course filters,
    fun fits takes _ asked => read_output_eq filters fits takes asked⟩

/-! ## A small tree -/

/-- Two records on one ring, all of whose octets are zero. -/
def blankCloud : Cloud where
  header := ⟨"lidar", 0⟩
  height := 1
  width := 2
  fields := sensorFields
  bigEndian := false
  pointStep := sensorStep
  rowStep := 2 * sensorStep
  data := Array.replicate 96 0
  dense := true

/-- More rows than any buffer has room for. -/
def manyRows : Settings :=
  { parameters := { Parameters.standard with verticalBins := 300000000000000000 } }

/-- A working folder with two scans and with settings of many rows. -/
def smallTree : FileTree where
  occupants :=
    [(["w"], .folder), (["w", "s"], .file sampleCloud.data), (["w", "t"], .file blankCloud.data),
     (["w", "c"], .file (Octets.ofText "[filter]\nvertical_bins = 300000000000000000\n"))]
  working := ["w"]

/-- An environment without variables. -/
def bare : Environment := fun _ => none

/-- Filters the first scan with the standard settings, and asks for all files. -/
def askingAll : Options where
  config := some "d"
  writeDefaultConfig := false
  input := some "s"
  frameId := "lidar"
  bigEndian := false
  output := some "p"
  noiseOutput := some "n"
  gridOutput := some "g"
  publishNoise := true

theorem resolve_smallTree :
    ∀ path ∈ ["s", "t", "c", "d", "p", "n", "g"], smallTree.resolve path = .ok ["w", path] := by
  simp only [resolve_eq]
  decide +kernel

theorem stored_sampleCloud : smallTree.read "s" = .ok sampleCloud.data :=
  read_eq_ok (resolve_smallTree "s" (by decide)) rfl

theorem stored_blankCloud : smallTree.read "t" = .ok blankCloud.data :=
  read_eq_ok (resolve_smallTree "t" (by decide)) rfl

theorem framed_sampleCloud :
    Cloud.ofDump ⟨"lidar", 0⟩ false sampleCloud.data = .ok sampleCloud := by
  have size : sampleCloud.data.size = 336 := by decide +kernel
  unfold Cloud.ofDump
  rw [size]
  rfl

theorem framed_blankCloud : Cloud.ofDump ⟨"lidar", 0⟩ false blankCloud.data = .ok blankCloud := rfl

theorem absent_of_free {path : String} {place : Place} (resolved : tree.resolve path = .ok place)
    (free : tree.occupant? place = none) : tree.read path = .error .absent := by
  unfold FileTree.read
  rw [resolved]
  simp only [bind, Except.bind]
  rw [free]

theorem loaded_standard :
    (Settings.loadOrStandard smallTree.read bare "d").1 = .ok Settings.standard := by
  have absent := absent_of_free (resolve_smallTree "d" (by decide)) rfl
  unfold Settings.loadOrStandard Settings.load Settings.read
  rw [absent]
  decide

theorem loaded_manyRows : (Settings.loadOrStandard smallTree.read bare "c").1 = .ok manyRows := by
  have stored := read_eq_ok (resolve_smallTree "c" (by decide)) rfl
  unfold Settings.loadOrStandard Settings.load Settings.read
  rw [stored]
  decide

theorem takes_smallTree {path : String} (held : path ∈ ["p", "n", "g"]) :
    smallTree.Takes path ["w", path] where
  plain := by
    revert path
    decide +kernel
  resolved := by
    refine resolve_smallTree path ?_
    revert path
    decide
  admits := by
    have free : smallTree.occupant? ["w", path] = none := by
      revert path
      decide
    intro occupant found
    rw [free] at found
    cases found

theorem takesAll_smallTree : smallTree.TakesAll ["p", "n", "g"] := by
  refine ⟨fun path held => ⟨_, takes_smallTree held⟩, ?_⟩
  have differ : ["p", "n", "g"].Pairwise (· ≠ ·) := by decide
  refine differ.imp_of_mem fun held_left held_right ne same => ne ?_
  rw [(takes_smallTree held_left).resolved, (takes_smallTree held_right).resolved] at same
  simpa using same

/-- All files are written, the accepted points are also written without asking for noise, and
nothing is written where there is no scan. -/
theorem run_smallTree :
    askingAll.writeDefaultConfig = false ∧
      (∃ course : Plan.Course askingAll bare smallTree.read,
        smallTree.Published askingAll course (smallTree.run bare askingAll).1
          (smallTree.run bare askingAll).2) ∧
      (smallTree.run bare askingAll).2.tree.read "p" =
        (smallTree.run bare { askingAll with publishNoise := false }).2.tree.read "p" ∧
      (smallTree.run bare { askingAll with input := some "d" }).2 = ⟨smallTree, ""⟩ := by
  obtain ⟨-, published, same⟩ := run_publishes smallTree bare askingAll rfl
  obtain ⟨course⟩ : Nonempty (Plan.Course askingAll bare smallTree.read) :=
    Plan.nonempty_course_iff.mpr ⟨_, _, _, _, loaded_standard, rfl, stored_sampleCloud,
      framed_sampleCloud, fun _ => by decide⟩
  have noisy : course.noisy = true := Bool.or_true _
  have takes : smallTree.TakesAll (askingAll.targets course.noisy) := by
    rw [noisy]
    exact takesAll_smallTree
  have missing : IsEmpty (Plan.Course { askingAll with input := some "d" } bare smallTree.read) := by
    refine ⟨fun course => ?_⟩
    have input : course.input = "d" := (Option.some.inj course.asked).symm
    have stored := course.stored
    rw [input, absent_of_free (resolve_smallTree "d" (by decide)) rfl] at stored
    cases stored
  refine ⟨rfl, ⟨course, published course takes⟩, ?_, ?_⟩
  · refine same (fun settings loaded => .inr ?_) takesAll_smallTree "p" rfl
    rw [← Except.ok.inj (loaded_standard.symm.trans loaded)]
    decide
  · exact ((run_publishes smallTree bare { askingAll with input := some "d" } rfl).1 missing).2

/-- Filters the second scan, and asks for accepted and for rejected points at two paths of one
file. -/
def askingTwice : Options :=
  { askingAll with input := some "t", noiseOutput := some "./p", gridOutput := none }

/-- All points of the second scan are rejected. -/
theorem sizes_of_course (course : Plan.Course askingTwice bare smallTree.read) :
    course.outcome.points.data.size = 0 ∧
      course.outcome.noise.map (·.data.size) = some 32 := by
  obtain ⟨settings, cloud⟩ :=
    course.parts_eq loaded_standard rfl stored_blankCloud framed_blankCloud
  have filtered := course.filtered_snapshot
  rw [Plan.Course.snapshot, settings, cloud] at filtered
  have sizes : ((Snapshot.ofParameters 0 (Plan.effective askingTwice .standard)).filter blankCloud
      (Settings.standard.mount.map Mount.transform)).1.map
        (fun outcome => (outcome.points.data.size, outcome.noise.map (·.data.size))) =
      .ok (0, some 32) := by
    decide +kernel
  rw [filtered] at sizes
  exact Prod.mk.inj (Except.ok.inj sizes)

/-- What is written last at the two paths stays: the accepted points are lost. -/
theorem run_askingTwice :
    ∃ course : Plan.Course askingTwice bare smallTree.read,
      (smallTree.run bare askingTwice).1 = .success ∧
        (smallTree.run bare askingTwice).2.tree.read "p" ≠ .ok course.outcome.points.data := by
  obtain ⟨course⟩ : Nonempty (Plan.Course askingTwice bare smallTree.read) :=
    Plan.nonempty_course_iff.mpr ⟨_, _, _, _, loaded_standard, rfl, stored_blankCloud,
      framed_blankCloud, fun _ => by decide⟩
  obtain ⟨empty, full⟩ := sizes_of_course course
  obtain ⟨noise, -, found, -⟩ := course.exists_noise (Bool.or_true _)
  have steps : Plan.writes askingTwice course.outcome =
      [.write .cloud "p" course.outcome.points.data, .write .cloud "./p" noise.data] := by
    unfold Plan.writes
    rw [found]
    rfl
  have first : smallTree.Takes "p" ["w", "p"] := takes_smallTree (by decide)
  have second : smallTree.Takes "./p" ["w", "p"] :=
    ⟨by decide +kernel, by rw [resolve_eq]; decide +kernel, first.admits⟩
  -- both paths lead to one place, where the accepted points stand when the rest is written
  have third := second.put first.admits course.outcome.points.data
  have ran : smallTree.run bare askingTwice = (.success, ⟨(smallTree.put ["w", "p"]
      (.file course.outcome.points.data)).put ["w", "p"] (.file noise.data),
      Plan.summary course.outcome⟩) := by
    rw [run_eq_of_course rfl course, steps, performAll_cons (perform_write first _ _ _),
      performAll_cons (perform_write third _ _ _)]
    rfl
  refine ⟨course, by rw [ran], ?_⟩
  have kept := (first.admits.keepsFolders course.outcome.points.data).trans
    (third.admits.keepsFolders noise.data)
  rw [ran, read_eq_ok (kept.resolve first.resolved) (occupant?_put_self first.admits.ne_nil _ _)]
  intro same
  rw [found, Option.map_some, Except.ok.inj same, empty] at full
  cases full

/-- With a grid that has no buffer nothing is written, while the same run without the option
writes the accepted points. -/
theorem run_manyRows :
    (smallTree.run bare { askingAll with config := some "c" }).2.tree.read "p" ≠
      (smallTree.run bare { askingAll with config := some "c", publishNoise := false }).2.tree.read
        "p" := by
  have loud : IsEmpty (Plan.Course { askingAll with config := some "c" } bare smallTree.read) := by
    refine ⟨fun course => ?_⟩
    obtain ⟨settings, -⟩ :=
      course.parts_eq loaded_manyRows rfl stored_sampleCloud framed_sampleCloud
    have fits := course.size_le_of_noisy (Bool.or_true _)
    rw [settings] at fits
    exact absurd fits (by decide)
  obtain ⟨course⟩ : Nonempty (Plan.Course
      { askingAll with config := some "c", publishNoise := false } bare smallTree.read) :=
    Plan.nonempty_course_iff.mpr ⟨_, _, _, _, loaded_manyRows, rfl, stored_sampleCloud,
      framed_sampleCloud, fun noisy => absurd noisy (by decide)⟩
  have takes : smallTree.TakesAll
      (({ askingAll with config := some "c", publishNoise := false } : Options).targets
        course.noisy) := takesAll_smallTree.sublist (Options.targets_sublist _ _)
  have free := absent_of_free (resolve_smallTree "p" (by decide)) rfl
  rw [(run_of_isEmpty rfl loud).2, free, (run_of_course rfl course takes).points "p" rfl]
  exact nofun

/-- Accepted points are lost in two ways: two different paths may be those of one file, and the
option may ask for a grid that has no buffer. -/
theorem runs_lose_points :
    ("p" ≠ "./p" ∧ askingTwice.output = some "p" ∧ askingTwice.noiseOutput = some "./p" ∧
      ∃ course : Plan.Course askingTwice bare smallTree.read,
        (smallTree.run bare askingTwice).1 = .success ∧
          (smallTree.run bare askingTwice).2.tree.read "p" ≠ .ok course.outcome.points.data) ∧
    (askingAll.publishNoise = true ∧ askingAll.output = some "p" ∧
      (smallTree.run bare { askingAll with config := some "c" }).2.tree.read "p" ≠
        (smallTree.run bare { askingAll with
          config := some "c", publishNoise := false }).2.tree.read "p") :=
  ⟨⟨by decide, rfl, rfl, run_askingTwice⟩, rfl, rfl, run_manyRows⟩

end FileTree

end LidarSieve
