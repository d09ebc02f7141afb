import LidarSieve.Settings.Basic
import LidarSieve.Toml.Document
import LidarSieve.Binary.Arithmetic
/-!
# Reading settings

Settings are a TOML document with a table of parameters and a table for the mount.  Keys
that mean nothing are ignored, and parameters that are not there keep the values of their
fields.  A whole number may stand for any number, but nothing else is converted.

A table may also be given as a list of its values in the order of the keys; a list longer
than needed is cut.
-/
set_option autoImplicit false

namespace LidarSieve

open LidarSieve.Binary LidarSieve.Toml

/-! ## Values -/

/-- The number of a value, rounded to four octets. -/
def realOfValue? : Value → Option Single
  | .integer i => some (.ofInt i)
  | .real x => some x.convert
  | _ => none

/-- The setting of a value for a parameter of the given domain, with what reading it
reports. -/
def Setting.ofValue? (domain : Domain) (value : Value) : Option (Setting × List Event) :=
  match domain, value with
  | .real, value => (realOfValue? value).map fun x => (.real x, [])
  | .count bound, .integer (.ofNat n) => if n < bound then some (.count n, []) else none
  | .flag, .flag b => some (.flag b, [])
  | .mode, .text name =>
    let (region, events) := RegionMode.parseOrDefault name
    some (.mode region, events)
  | _, _ => none

/-! ## Parameters -/

namespace Parameters

/-- The parameters with values set one after the other, and the reports up to the first
value that does not fit. -/
def setAll? : List (Key × Value) → Parameters → Option Parameters × List Event
  | [], p => (some p, [])
  | (key, value) :: rest, p =>
    match Setting.ofValue? key.domain value with
    | none => (none, [])
    | some (setting, events) =>
      let (result, later) := setAll? rest (p.set key setting)
      (result, events ++ later)

/-- The entries of a table that name parameters. -/
def keyed (entries : Table) : List (Key × Value) :=
  entries.filterMap fun (name, value) => (Key.ofName? name).map (·, value)

/-- The parameters of a value; those that it does not name keep the values of their fields. -/
def ofValue? : Value → Option Parameters × List Event
  | .table _ entries => setAll? (keyed entries) unnamed
  | .list items => setAll? (Key.all.zip items) unnamed
  | .tables elements => setAll? (Key.all.zip (elements.map (.table .header))) unnamed
  | .moment _ => (some unnamed, [])
  | _ => (none, [])

end Parameters

/-! ## The mount -/

namespace Mount

/-- The first numbers of a list, each of which has to fit. -/
def numbers? (count : Nat) : Value → Option (List Single)
  | .list items =>
    if items.length < count then none else (items.take count).mapM realOfValue?
  | _ => none

/-- A shift from a list of three numbers. -/
def shift? (value : Value) : Option (Triple Single) :=
  match numbers? 3 value with
  | some [x, y, z] => some ⟨x, y, z⟩
  | _ => none

/-- A rotation from a list of four numbers. -/
def rotation? (value : Value) : Option (Quaternion Single) :=
  match numbers? 4 value with
  | some [w, x, y, z] => some ⟨w, x, y, z⟩
  | _ => none

/-- The mount of its parts; the frame has to be there. -/
def ofParts? (frame shift rotation : Option Value) : Option Mount :=
  match frame with
  | some (.text frame) => do
    let shift ← (shift.map shift?).getD (some ⟨0, 0, 0⟩)
    let rotation ← (rotation.map rotation?).getD (some .identity)
    return ⟨frame, shift, rotation⟩
  | _ => none

/-- The mount of a value. -/
def ofValue? : Value → Option Mount
  | .table _ entries =>
    ofParts? (entries.lookup "target_frame") (entries.lookup "translation")
      (entries.lookup "rotation")
  | .list items => ofParts? items[0]? items[1]? items[2]?
  | _ => none

end Mount

/-! ## Settings -/

namespace Settings

/-- The settings with the tables of a document, taken one after the other, and the reports
up to the first one that does not fit. -/
def setAll? : Table → Settings → Option Settings × List Event
  | [], settings => (some settings, [])
  | (name, value) :: rest, settings =>
    if name = "filter" then
      match Parameters.ofValue? value with
      | (none, events) => (none, events)
      | (some parameters, events) =>
        let (result, later) := setAll? rest { settings with parameters }
        (result, events ++ later)
    else if name = "transform" then
      match Mount.ofValue? value with
      | none => (none, [])
      | some mount => setAll? rest { settings with mount := some mount }
    else setAll? rest settings

/-- The settings of a document, starting from the standard ones. -/
def ofTable? (document : Table) : Option Settings × List Event := setAll? document standard

end Settings

end LidarSieve
