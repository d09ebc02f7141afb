import LidarSieve.Settings.Basic
import LidarSieve.Storage
/-!
# Overrides

Some parameters can be overridden by environment variables.  A value that does not read as
one of the parameter's domain is ignored with a warning; a region mode of an unknown name,
however, stands for the standard mode.
-/
set_option autoImplicit false

namespace LidarSieve

open LidarSieve.Binary

/-- The setting that a text stands for, with what reading it reports. -/
def Setting.parse? (domain : Domain) (text : String) : Option (Setting × List Event) :=
  match domain with
  | .real => (Number.parse? text).map fun x => (.real x, [])
  | .count bound => (Text.readCount? bound text).map fun n => (.count n, [])
  | .flag =>
    if text = "true" then some (.flag true, [])
    else if text = "false" then some (.flag false, [])
    else none
  | .mode =>
    let (region, events) := RegionMode.parseOrDefault text
    some (.mode region, events)

namespace Parameters

/-- The variables, in the order in which they are looked up, and the parameters that they
override. -/
def overrides : List (String × Key) :=
  [("RINGSIEVE_DISTANCE_RATIO", .distanceRatio),
   ("RINGSIEVE_OBJECT_LENGTH_THRESHOLD", .objectLengthThreshold),
   ("RINGSIEVE_NUM_POINTS_THRESHOLD", .numPointsThreshold),
   ("RINGSIEVE_PUBLISH_NOISE_POINTS", .publishNoisePoints),
   ("RINGSIEVE_NOISE_THRESHOLD", .noiseThreshold),
   ("RINGSIEVE_ROI_MODE", .regionMode)]

/-- The parameters with one override, if its variable is set. -/
def overrideOne (environment : Environment) (p : Parameters) (name : String) (key : Key) :
    Parameters × List Event :=
  match environment name with
  | none => (p, [])
  | some text =>
    match Setting.parse? key.domain text with
    | none => (p, [.overrideIgnored name text])
    | some (setting, events) => (p.set key setting, events)

/-- The parameters with overrides one after the other. -/
def overrideAll (environment : Environment) :
    List (String × Key) → Parameters → Parameters × List Event
  | [], p => (p, [])
  | (name, key) :: rest, p =>
    let (p, events) := overrideOne environment p name key
    let (p, later) := overrideAll environment rest p
    (p, events ++ later)

/-- The parameters with all overrides of an environment. -/
def overridden (environment : Environment) (p : Parameters) : Parameters × List Event :=
  overrideAll environment overrides p

end Parameters

end LidarSieve
