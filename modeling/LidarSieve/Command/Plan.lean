import LidarSieve.Command.Options
import LidarSieve.Dump
import LidarSieve.Filter
import LidarSieve.Settings.Load
import LidarSieve.Settings.Writer
/-!
# Plans

What a run does to the outside is planned before anything is done: a plan is a list of
steps (texts to print, folders to make, files to write) and an ending.  All reading comes
first, so a plan depends on stored files only through what they hold when the run starts.

Steps are carried out in order; the first one that is refused ends the run.
-/
set_option autoImplicit false

namespace LidarSieve

open LidarSieve.Binary

/-! ## Steps and plans -/

/-- What a written file holds. -/
inductive Artefact where
  | config
  | cloud
  | grid
  deriving DecidableEq, Repr

/-- The artefact in words. -/
def Artefact.name : Artefact → String
  | config => "config"
  | cloud => "cloud"
  | grid => "grid"

/-- One thing that a run does to the outside. -/
inductive Step where
  | print (text : String)
  /-- Makes the folder that a file is to stand in. -/
  | makeFolderOf (path : String)
  | write (artefact : Artefact) (path : String) (contents : Octets)
  deriving DecidableEq, Repr

/-- The complaint about a step that is refused. -/
def Step.complaint (step : Step) (obstacle : Obstacle) : String :=
  match step with
  | print _ => obstacle.message
  | makeFolderOf _ => "Failed to create config directory: " ++ obstacle.message
  | write artefact path _ =>
    "Failed to write " ++ artefact.name ++ " at " ++ path ++ ": " ++ obstacle.message

/-- How a run ends. -/
inductive Ending where
  | success
  /-- It was refused, for the reason given. -/
  | refused (complaint : String)
  /-- It could not go on. -/
  | broken
  deriving DecidableEq, Repr

/-- What a run will do. -/
structure Plan where
  steps : List Step
  ending : Ending
  deriving DecidableEq, Repr

namespace Plan

/-- A run that does nothing. -/
def refuse (complaint : String) : Plan := ⟨[], .refused complaint⟩

/-! ## The run that writes settings -/

/-- Writes settings.  The folder is made in any case. -/
def save (settings : Settings) (path : String) : Plan :=
  match settings.write with
  | .error (.refused fault) => ⟨[.makeFolderOf path], .refused fault.message⟩
  | .error .overrun => ⟨[.makeFolderOf path], .broken⟩
  | .ok document => ⟨[.makeFolderOf path, .write .config path (.ofText document)], .success⟩

/-- Writes the standard settings and says so. -/
def writeSettings (path : String) : Plan :=
  match save Settings.standard path with
  | ⟨steps, .success⟩ =>
    ⟨steps ++ [.print ("  ✓ Default config written to " ++ path ++ "\n")], .success⟩
  | plan => plan

/-! ## The run that filters a scan -/

/-- What is printed about a filtered scan. -/
def summary (outcome : Outcome) : String :=
  let s := outcome.statistics
  let skipped :=
    if s.unplaced.skipped + s.unplaced.dropped = 0 then ""
    else "  Skipped  " ++ toString s.unplaced.skipped ++ " (bad ring), " ++
      toString s.unplaced.dropped ++ " (ring full)\n"
  let visibility := match outcome.visibility with
    | none => ""
    | some v => "  Visibility  " ++ v.score.fixed 3 ++ " (" ++ toString v.filled ++ " of " ++
        toString v.cells.size ++ " cells filled)\n"
  "\n  Frame  " ++ outcome.points.header.frame ++ "\n  Input points  " ++ toString s.input ++
    "\n  Accepted  " ++ toString s.accepted ++ " in " ++ toString s.clusters ++ " of " ++
    toString s.walks ++ " walks\n  Rejected  " ++ toString s.rejected ++ "\n" ++ skipped ++
    visibility ++ "\n"

/-- Writes a file, if there is a path for it and something to write. -/
def writeIf (artefact : Artefact) (path : Option String) (contents : Option Octets) :
    List Step :=
  match path, contents with
  | some path, some contents => [.write artefact path contents]
  | _, _ => []

/-- Prints and writes what filtering has yielded. -/
def publish (options : Options) (outcome : Outcome) : Plan where
  steps :=
    .print (summary outcome) ::
      (writeIf .cloud options.output (some outcome.points.data) ++
        writeIf .cloud options.noiseOutput (outcome.noise.map (·.data)) ++
        writeIf .grid options.gridOutput (outcome.visibility.map (·.image)))
  ending := .success

/-- The settings that a run uses: an option can ask for rejected points as well. -/
def effective (options : Options) (settings : Settings) : Parameters :=
  if options.publishNoise then { settings.parameters with publishNoisePoints := true }
  else settings.parameters

/-- The scan that a run reads.  Dumps do not tell when they were taken. -/
def scan (options : Options) (files : Files) (input : String) :
    Except (Failure String) Cloud :=
  match files input with
  | .error obstacle =>
    .error (.refused ("Failed to read scan at " ++ input ++ ": " ++ obstacle.message))
  | .ok dump =>
    match Cloud.ofDump ⟨options.frameId, 0⟩ options.bigEndian dump with
    | .error (.refused fault) => .error (.refused fault.message)
    | .error .overrun => .error .overrun
    | .ok cloud => .ok cloud

/-- Filters the scan of a file and writes what is asked for. -/
def filterScan (options : Options) (environment : Environment) (files : Files) (path input : String) :
    Plan :=
  match (Settings.loadOrStandard files environment path).1 with
  | .error fault => refuse fault.message
  | .ok settings =>
    match Filter.create (effective options settings) with
    | .error fault => refuse fault.message
    | .ok filter =>
      match scan options files input with
      | .error (.refused complaint) => refuse complaint
      | .error .overrun => ⟨[], .broken⟩
      | .ok cloud =>
        match (filter.filter cloud (settings.mount.map Mount.transform)).1 with
        | .error (.refused fault) => refuse fault.message
        | .error .overrun => ⟨[], .broken⟩
        | .ok outcome => publish options outcome

/-- The plan of a run. -/
def ofOptions (options : Options) (environment : Environment) (files : Files) : Plan :=
  let path := options.config.getD (Settings.standardPath environment)
  if options.writeDefaultConfig then writeSettings path
  else
    match options.input with
    | none => refuse "--input is required"
    | some input => filterScan options environment files path input

/-! ## Carrying out -/

/-- A place where steps can be carried out. -/
structure Host (m : Type → Type) where
  print : String → m Unit
  makeFolderOf : String → m (Except Obstacle Unit)
  write : String → Octets → m (Except Obstacle Unit)

variable {m : Type → Type} [Monad m]

/-- Carries out one step. -/
def Host.perform (host : Host m) : Step → m (Except Obstacle Unit)
  | .print text => do
    host.print text
    return .ok ()
  | .makeFolderOf path => host.makeFolderOf path
  | .write _ path contents => host.write path contents

/-- Carries out steps up to the first one that is refused. -/
def Host.performAll (host : Host m) (ending : Ending) : List Step → m Ending
  | [] => return ending
  | step :: rest => do
    match ← host.perform step with
    | .error obstacle => return .refused (step.complaint obstacle)
    | .ok () => performAll host ending rest

/-- Carries out a plan, and answers how the run has ended. -/
def carryOut (host : Host m) (plan : Plan) : m Ending := host.performAll plan.ending plan.steps

end Plan

/-! ## Endings as a caller sees them -/

namespace Ending

/-- The exit code of the ending. -/
def code : Ending → UInt32
  | success => 0
  | refused _ => 1
  | broken => 101

/-- What is told about the ending. -/
def report : Ending → String
  | success => ""
  | refused complaint => "error: " ++ complaint ++ "\n"
  | broken => "error: the scan could not be processed\n"

end Ending

/-- The exit code for a command line that breaks the rules. -/
def misuseCode : UInt32 := 2

/-- What is told about a command line that breaks the rules. -/
def misuseReport : String := "error: the command line is not understood; try --help\n"

/-- The answer to a question. -/
def Enquiry.answer : Enquiry → String
  | help =>
    "Remove rain, dust and spray returns from spinning-LIDAR scans\n\n" ++
    "Usage: ringsieve [OPTIONS] --input <INPUT>\n\n" ++
    "  -c, --config <CONFIG>              Configuration file\n" ++
    "      --write-default-config         Write the default configuration and exit\n" ++
    "  -i, --input <INPUT>                Raw scan (48-byte records)\n" ++
    "      --frame-id <FRAME_ID>          Frame id of the input scan [default: lidar]\n" ++
    "      --big-endian                   The input scan is big-endian\n" ++
    "  -o, --output <OUTPUT>              Where to write accepted points\n" ++
    "      --noise-output <NOISE_OUTPUT>  Where to write rejected points\n" ++
    "      --grid-output <GRID_OUTPUT>    Where to write the visibility grid (PGM)\n" ++
    "      --publish-noise                Enable noise output and visibility\n" ++
    "  -h, --help                         Print help\n" ++
    "  -V, --version                      Print version\n"
  | version => "ringsieve 0.1.0\n"

end LidarSieve
