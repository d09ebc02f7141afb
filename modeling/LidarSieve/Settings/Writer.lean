import LidarSieve.Settings.Basic
import LidarSieve.Toml.Writer
import LidarSieve.Binary.Arithmetic
/-!
# Writing settings

The document of settings: a table of all parameters and, if there is a mount, a table for
it.  Settings are refused if a count is greater than the integers of a document, and the name
of the mount's frame can be a text that cannot be written.
-/
set_option autoImplicit false

namespace LidarSieve

open LidarSieve.Binary LidarSieve.Toml

/-- Why settings are refused. -/
inductive WriteFault where
  /-- A document cannot hold a count. -/
  | countTooLarge
  deriving DecidableEq, Repr

/-- The fault in words. -/
def WriteFault.message : WriteFault → String
  | countTooLarge => "Failed to serialize config: a count is too large"

/-- A number with the digits of the eight-octet word of the same value. -/
def writeSingle (x : Single) : List Char := writeReal x.convert

/-- The text of a setting, if a document can hold it. -/
def Setting.write? : Setting → Option (List Char)
  | real x => some (writeSingle x)
  | count n => writeCount? n
  | flag b => some (writeFlag b)
  | mode m => writeText? m.name

namespace Settings

/-- The line of a parameter. -/
def writeKey? (p : Parameters) (key : Key) : Option (List Char) :=
  (p.get key).write?.map (writeEntry key.name)

/-- The table of parameters. -/
def writeParameters? (p : Parameters) : Option (List Char) :=
  (Key.all.mapM (writeKey? p)).map fun lines => writeHeader "filter" ++ lines.flatten

/-- The table of the mount. -/
def writeMount? (mount : Mount) : Option (List Char) := do
  let ⟨x, y, z⟩ := mount.shift
  let ⟨w, i, j, k⟩ := mount.rotation
  let frame ← writeText? mount.frame
  return writeHeader "transform" ++ writeEntry "target_frame" frame ++
    writeEntry "translation" (writeList ([x, y, z].map writeSingle)) ++
    writeEntry "rotation" (writeList ([w, i, j, k].map writeSingle))

/-- The document of the settings. -/
def write (settings : Settings) : Except (Failure WriteFault) String :=
  match writeParameters? settings.parameters, settings.mount with
  | none, _ => .error (.refused .countTooLarge)
  | some parameters, none => .ok (String.ofList parameters)
  | some parameters, some mount =>
    match writeMount? mount with
    | none => .error .overrun
    | some table => .ok (String.ofList (parameters ++ '\n' :: table))

end Settings

end LidarSieve
