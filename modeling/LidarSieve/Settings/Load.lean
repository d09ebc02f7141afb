import LidarSieve.Settings.Reader
import LidarSieve.Settings.Overrides
import LidarSieve.Parameters.Rules
/-!
# Loading settings

Settings are read from a file, overridden by the environment, and then checked.
-/
set_option autoImplicit false

namespace LidarSieve

/-- Why settings cannot be had. -/
inductive SettingsFault where
  /-- The file is there and cannot be read. -/
  | unreadable (path : String) (obstacle : Obstacle)
  /-- The file is no text. -/
  | notText (path : String)
  /-- The text is no TOML document. -/
  | malformed
  /-- A value in the document does not fit its key. -/
  | mistyped
  /-- The parameters are not valid. -/
  | invalid (fault : Fault)
  deriving DecidableEq, Repr

/-- The fault in words. -/
def SettingsFault.message : SettingsFault → String
  | unreadable path obstacle => "Failed to read config at " ++ path ++ ": " ++ obstacle.message
  | notText path =>
    "Failed to read config at " ++ path ++ ": stream did not contain valid UTF-8"
  | malformed => "Failed to parse config: this is not a TOML document"
  | mistyped => "Failed to parse config: a value does not fit its key"
  | invalid fault => fault.message

namespace Settings

/-- The folder of settings in the home folder of a user. -/
def folder : String := ".ringsieve"

/-- The path of the settings of a user. -/
def pathInHome (home : String) : String :=
  let separator := if home.isEmpty || home.endsWith "/" then "" else "/"
  home ++ separator ++ folder ++ "/config.toml"

/-- The path of the settings in an environment: of the two names for the home folder the
first one counts, and the working folder stands in for both. -/
def standardPath (environment : Environment) : String :=
  pathInHome (((environment "HOME").or (environment "USERPROFILE")).getD ".")

/-- The settings of a text. -/
def ofText (text : String) : Except SettingsFault Settings × List Event :=
  match Toml.parse? text with
  | none => (.error .malformed, [])
  | some document =>
    match ofTable? document with
    | (none, events) => (.error .mistyped, events)
    | (some settings, events) => (.ok settings, events)

/-- The settings as they stand in a file; nothing if there is no file. -/
def read (files : Files) (path : String) :
    Except SettingsFault (Option Settings) × List Event :=
  match files path with
  | .error obstacle =>
    if obstacle.isAbsence then (.ok none, []) else (.error (.unreadable path obstacle), [])
  | .ok octets =>
    match octets.text? with
    | none => (.error (.notText path), [])
    | some text =>
      let (result, events) := ofText text
      (result.map some, events)

/-- The settings with the overrides of an environment, if they are valid then. -/
def finish (environment : Environment) (settings : Settings) :
    Except SettingsFault Settings × List Event :=
  let (parameters, events) := settings.parameters.overridden environment
  match parameters.validate with
  | .error fault => (.error (.invalid fault), events)
  | .ok () => (.ok { settings with parameters }, events)

/-- The settings of a file, overridden and checked; nothing if there is no file. -/
def load (files : Files) (environment : Environment) (path : String) :
    Except SettingsFault (Option Settings) × List Event :=
  match read files path with
  | (.error fault, events) => (.error fault, events)
  | (.ok none, events) => (.ok none, events)
  | (.ok (some settings), events) =>
    let (result, later) := settings.finish environment
    (result.map some, events ++ later)

/-- The settings of a file or, if there is none, the standard ones, overridden and
checked. -/
def loadOrStandard (files : Files) (environment : Environment) (path : String) :
    Except SettingsFault Settings × List Event :=
  match load files environment path with
  | (.error fault, events) => (.error fault, events)
  | (.ok (some settings), events) => (.ok settings, events)
  | (.ok none, events) =>
    let (result, later) := standard.finish environment
    (result, events ++ later)

end Settings

end LidarSieve
