import LidarSieve.Proofs.Precedence
/-!
# Overriding parameters

What overriding is meant to do is `Parameters.OverriddenBy`: a variable whose text reads as a value
sets its own parameter to this value, and nothing else happens.  It does so for every parameter but
the region mode.  Its variable is read as modes in documents are, where an unknown name stands for
the first mode, and so a name that reads as no mode does not leave the mode alone.
`Settings.overriddenBy_iff` says when the two come to the same.
-/
set_option autoImplicit false

namespace LidarSieve

/-- The variable for region modes. -/
def modeVariable : String := "RINGSIEVE_ROI_MODE"

/-- The same environment with the variable for region modes not set. -/
def Environment.withoutMode (environment : Environment) : Environment := fun name =>
  if name = modeVariable then none else environment name

/-! ## Names of modes -/

theorem RegionMode.parseOrDefault_of_ok {name : String} {mode : RegionMode}
    (known : parse name = .ok mode) : (parseOrDefault name).1 = mode := by
  unfold parseOrDefault
  rw [known]

theorem RegionMode.parseOrDefault_of_error {name : String} {fault : Fault}
    (unknown : parse name = .error fault) : (parseOrDefault name).1 = everywhere := by
  unfold parseOrDefault
  rw [unknown]

/-! ## What overriding is meant to do -/

namespace Parameters

variable {environment : Environment} {p : Parameters}

/-- The parameters are the old ones with what the variables of an environment say. -/
structure OverriddenBy (environment : Environment) (before after : Parameters) : Prop where
  /-- A parameter has the value that the text of its variable reads as; if the variable is not set
  or its text does not read as a value, it has the old one. -/
  named : ∀ entry ∈ overrides, after.get entry.2 =
    ((environment entry.1).bind (Setting.ofText? entry.2.domain)).getD (before.get entry.2)
  /-- A parameter without a variable has the old value. -/
  others : ∀ key, (∀ entry ∈ overrides, entry.2 ≠ key) → after.get key = before.get key

/-- Told key by key. -/
theorem overriddenBy_iff_get {before after : Parameters} : OverriddenBy environment before after ↔
    ∀ key, after.get key = (override? environment key).getD (before.get key) := by
  have own {entry : String × Key} (listed : entry ∈ overrides) :
      override? environment entry.2 =
        (environment entry.1).bind (Setting.ofText? entry.2.domain) := by
    simp only [overrides, List.mem_cons, List.not_mem_nil, or_false] at listed
    rcases listed with rfl | rfl | rfl | rfl | rfl | rfl <;> rfl
  have foreign {key : Key} (unlisted : ∀ entry ∈ overrides, entry.2 ≠ key) :
      override? environment key = none := by
    unfold override? overrideAmong?
    rw [List.find?_eq_none.mpr fun entry listed => by simpa using unlisted entry listed]
    rfl
  constructor
  · intro overridden key
    by_cases named : ∃ entry ∈ overrides, entry.2 = key
    · obtain ⟨entry, listed, rfl⟩ := named
      rw [overridden.named entry listed, own listed]
    · have unlisted : ∀ entry ∈ overrides, entry.2 ≠ key :=
        fun entry listed same => named ⟨entry, listed, same⟩
      rw [overridden.others key unlisted, foreign unlisted]
      rfl
  · intro values
    refine ⟨fun entry listed => ?_, fun key unlisted => ?_⟩
    · rw [values, own listed]
    · rw [values, foreign unlisted]
      rfl

/-! ## The variable for region modes -/

theorem namesMode_withoutMode (environment : Environment) : NamesMode environment.withoutMode :=
  fun _ found => nomatch found

/-- The variable for region modes is the last one that is looked up. -/
theorem overridden_eq_overrideOne (environment : Environment) (p : Parameters) :
    (p.overridden environment).1 =
      (overrideOne environment (p.overridden environment.withoutMode).1 modeVariable
        .regionMode).1 := rfl

/-- It is the variable of no other parameter. -/
theorem override?_withoutMode {key : Key} (other : key ≠ .regionMode) :
    override? environment.withoutMode key = override? environment key := by
  cases key <;> first | rfl | exact absurd rfl other

theorem get_overridden_of_ne {key : Key} (other : key ≠ .regionMode) :
    (p.overridden environment).1.get key = (override? environment key).getD (p.get key) := by
  have kept : (p.overridden environment).1.get key =
      (p.overridden environment.withoutMode).1.get key := by
    rw [overridden_eq_overrideOne]
    unfold overrideOne
    cases environment modeVariable with
    | none => rfl
    | some text => exact get_set_of_ne other
  rw [kept, get_overridden (namesMode_withoutMode environment), override?_withoutMode other]

/-- The region mode is the one that its variable stands for, by its name or for want of it. -/
theorem regionMode_overridden (environment : Environment) (p : Parameters) :
    (p.overridden environment).1.regionMode =
      match environment modeVariable with
      | none => p.regionMode
      | some text => (RegionMode.parseOrDefault text).1 := by
  rw [overridden_eq_overrideOne]
  unfold overrideOne
  cases environment modeVariable with
  | none =>
    have kept := get_overridden (namesMode_withoutMode environment) p .regionMode
    have unset : override? environment.withoutMode .regionMode = none := rfl
    rw [unset] at kept
    exact Setting.mode.inj kept
  | some text => rfl

theorem override?_regionMode : override? environment .regionMode =
    (environment modeVariable).bind (Setting.ofText? .mode) := rfl

/-- A name that is none of a mode stands for the first mode. -/
theorem regionMode_overridden_of_error {text : String} {fault : Fault}
    (found : environment modeVariable = some text)
    (unknown : RegionMode.parse text = .error fault) :
    (p.overridden environment).1.regionMode = .everywhere := by
  rw [regionMode_overridden, found]
  exact RegionMode.parseOrDefault_of_error unknown

/-- A name that is none of a mode does no harm if the mode is the first one anyhow. -/
theorem get_overridden_regionMode
    (harmless : ∀ text fault, environment modeVariable = some text →
      RegionMode.parse text = .error fault → p.regionMode = .everywhere) :
    (p.overridden environment).1.get .regionMode =
      (override? environment .regionMode).getD (p.get .regionMode) := by
  have mode := congrArg Setting.mode (regionMode_overridden environment p)
  refine mode.trans ?_
  rw [override?_regionMode]
  cases found : environment modeVariable with
  | none => rfl
  | some text =>
    rw [Option.bind_some, Setting.ofText?]
    dsimp only
    cases parsed : RegionMode.parse text with
    | ok named =>
      rw [RegionMode.parseOrDefault_of_ok parsed]
      rfl
    | error fault =>
      rw [RegionMode.parseOrDefault_of_error parsed]
      exact congrArg Setting.mode (harmless text fault found parsed).symm

/-- Overriding does what it is meant to, unless a name that is none of a mode replaces a mode. -/
theorem overriddenBy_overridden_iff :
    OverriddenBy environment p (p.overridden environment).1 ↔
      ∀ text fault, environment modeVariable = some text →
        RegionMode.parse text = .error fault → p.regionMode = .everywhere := by
  constructor
  · intro overridden text fault found unknown
    have meant := overriddenBy_iff_get.mp overridden .regionMode
    rw [override?_regionMode, found, Option.bind_some, Setting.ofText?, unknown] at meant
    exact (Setting.mode.inj meant).symm.trans (regionMode_overridden_of_error found unknown)
  · intro harmless
    refine overriddenBy_iff_get.mpr ?_
    intro key
    by_cases isMode : key = .regionMode
    · subst isMode
      exact get_overridden_regionMode harmless
    · exact get_overridden_of_ne isMode

end Parameters

namespace Settings

open Parameters

/-- Whatever the variables are set to and whatever the settings are:

* overriding does what it is meant to, exactly if the variable for region modes is not set to a name
  that is none of a mode, or the mode is the first one anyhow;
* the values of all parameters but the region mode are those that they are meant to have;
* after a name that is none of a mode, the mode is the first one;
* settings that are finished have the overridden parameters and their old mount. -/
theorem overriddenBy_iff (environment : Environment) (settings : Settings) :
    let before := settings.parameters
    let after := (before.overridden environment).1
    (OverriddenBy environment before after ↔
      ∀ text fault, environment modeVariable = some text →
        RegionMode.parse text = .error fault → before.regionMode = .everywhere) ∧
    (∀ key, key ≠ .regionMode →
      after.get key = (override? environment key).getD (before.get key)) ∧
    (∀ text fault, environment modeVariable = some text →
      RegionMode.parse text = .error fault → after.regionMode = .everywhere) ∧
    ∀ finished, (settings.finish environment).1 = .ok finished →
      finished = { settings with parameters := after } := by
  intro before after
  refine ⟨overriddenBy_overridden_iff, ?_, ?_, ?_⟩
  · intro key other
    exact get_overridden_of_ne other
  · intro text fault found unknown
    exact regionMode_overridden_of_error found unknown
  · intro finished done
    rw [finish_eq] at done
    split at done
    · cases done
    · exact (Except.ok.inj done).symm

/-- Settings with a mode that is not the first one. -/
def boxSettings : Settings := { parameters := { Parameters.standard with regionMode := .box } }

/-- Variables that read as values, one that does not, and three that are not set. -/
def someVariables : Environment := fun name =>
  if name = "RINGSIEVE_DISTANCE_RATIO" then some "1.5"
  else if name = "RINGSIEVE_NUM_POINTS_THRESHOLD" then some "many"
  else if name = modeVariable then some "Fixed_azimuth_ROI"
  else none

theorem overriddenBy_someVariables :
    OverriddenBy someVariables boxSettings.parameters
        (boxSettings.parameters.overridden someVariables).1 ∧
      (boxSettings.parameters.overridden someVariables).1.regionMode = .sector := by
  have known : RegionMode.parse "Fixed_azimuth_ROI" = .ok .sector := by decide
  have set : someVariables modeVariable = some "Fixed_azimuth_ROI" := rfl
  refine ⟨(overriddenBy_iff someVariables boxSettings).1.mpr fun text fault found unknown => ?_, ?_⟩
  · cases set.symm.trans found
    rw [known] at unknown
    cases unknown
  · rw [regionMode_overridden, set]
    exact RegionMode.parseOrDefault_of_ok known

/-- A variable with a name that is none of a mode. -/
def misspelledMode : Environment := fun name =>
  if name = modeVariable then some "Box" else none

/-- The misspelled name is not left out: the mode of the settings gets lost. -/
theorem boxSettings_with_misspelledMode :
    RegionMode.parse "Box" = .error (.unknownRegionMode "Box") ∧
      (boxSettings.parameters.overridden misspelledMode).1.regionMode = .everywhere ∧
      ¬ OverriddenBy misspelledMode boxSettings.parameters
        (boxSettings.parameters.overridden misspelledMode).1 := by
  have unknown : RegionMode.parse "Box" = .error (.unknownRegionMode "Box") := by decide
  refine ⟨unknown, rfl, fun overridden => ?_⟩
  have kept := overridden.named (modeVariable, .regionMode) (by decide)
  cases kept

end Settings

end LidarSieve
