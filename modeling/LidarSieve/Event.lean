import LidarSieve.Binary.Number
/-!
# Events

What the library reports about its own work, beside its results.  Functions that report
return their events in the order in which they happened.
-/
set_option autoImplicit false

namespace LidarSieve

open LidarSieve.Binary

/-- How much attention an event asks for. -/
inductive Severity where
  | debug
  | warning
  deriving DecidableEq, Repr

namespace Severity

/-- The name of the severity in a log. -/
def name : Severity → String
  | debug => "DEBUG"
  | warning => "WARN"

end Severity

/-- A detail of an event. -/
inductive Detail where
  | count (n : Nat)
  | text (s : String)
  | real (x : Single)
  deriving DecidableEq

/-- Something worth a line in a log. -/
inductive Event where
  /-- A region mode of an unknown name was replaced by the default one. -/
  | regionModeReplaced (complaint fallback : String)
  /-- An override was left out because its text does not read as a value. -/
  | overrideIgnored (name value : String)
  /-- Some points carry a ring number that is not below the limit. -/
  | ringsSkipped (points firstRing limit : Nat)
  /-- Some points found their ring full. -/
  | ringsFull (points firstRing capacity : Nat)
  /-- Some points carry a ring number beyond the rows of the visibility grid. -/
  | rowsExceeded (points rows : Nat)
  /-- A parameter has got a new value. -/
  | parameterSet (version : Nat) (parameter old new : String)
  /-- A scan was filtered. -/
  | scanFiltered (frame : String) (version input accepted rejected walks : Nat)
      (visibility : Option Single)
  deriving DecidableEq

namespace Event

/-- The attention that the event asks for. -/
def severity : Event → Severity
  | regionModeReplaced _ _ | overrideIgnored _ _ | ringsSkipped _ _ _ | ringsFull _ _ _ =>
    .warning
  | rowsExceeded _ _ | parameterSet _ _ _ _ | scanFiltered _ _ _ _ _ _ _ => .debug

/-- The event in words, without its details. -/
def message : Event → String
  | regionModeReplaced _ _ => "falling back to default ROI mode"
  | overrideIgnored _ _ => "ignoring unparseable override"
  | ringsSkipped _ _ _ => "skipping points with out-of-range ring id"
  | ringsFull _ _ _ => "ring capacity exceeded; dropping excess points"
  | rowsExceeded _ _ => "ring ids beyond the visibility grid were not counted"
  | parameterSet _ _ _ _ => "setting new parameter value"
  | scanFiltered _ _ _ _ _ _ _ => "scan filtered"

/-- The details of the event, each under its name. -/
def details : Event → List (String × Detail)
  | regionModeReplaced complaint fallback =>
    [("error", .text complaint), ("fallback", .text fallback)]
  | overrideIgnored name value =>
    [("variable", .text name), ("value", .text value)]
  | ringsSkipped points firstRing limit =>
    [("skipped", .count points), ("first_ring", .count firstRing), ("max_rings", .count limit)]
  | ringsFull points firstRing capacity =>
    [("dropped", .count points), ("first_ring", .count firstRing),
     ("max_points_per_ring", .count capacity)]
  | rowsExceeded points rows => [("points", .count points), ("vertical_bins", .count rows)]
  | parameterSet version parameter old new =>
    [("version", .count version), ("parameter", .text parameter), ("old", .text old),
     ("new", .text new)]
  | scanFiltered frame version input accepted rejected walks visibility =>
    [("frame", .text frame), ("config_version", .count version), ("input", .count input),
     ("accepted", .count accepted), ("rejected", .count rejected), ("walks", .count walks)] ++
      (visibility.map fun score => ("visibility", Detail.real score)).toList

end Event

end LidarSieve
