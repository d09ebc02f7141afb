import LidarSieve.Command.Plan
/-!
# The program

Asks the system for the command line, the environment and the files that the plan of a run
depends on, and carries out the plan.
-/
set_option autoImplicit false

namespace LidarSieve.Program

/-- What an error of the system says about a file operation. -/
def obstacleOf : IO.Error → Obstacle
  | .noFileOrDirectory _ _ _ => .absent
  | .alreadyExists _ _ _ => .occupied
  | .inappropriateType _ code details =>
    if code = 21 then .folder
    else if code = 20 then .notFolder
    else .other details
  | .invalidArgument _ code details => if code = 36 then .tooLong else .other details
  | .resourceExhausted _ code details => if code = 28 then .noSpace else .other details
  | e => .other (toString e)

/-- The contents of a file. -/
def readFile (path : String) : IO (Except Obstacle Octets) :=
  try
    return .ok (← IO.FS.readBinFile path).data
  catch e => return .error (obstacleOf e)

/-- Tries an operation on files. -/
def attempt (action : IO Unit) : IO (Except Obstacle Unit) :=
  try
    action
    return .ok ()
  catch e => return .error (obstacleOf e)

/-- The folder that a file at the path is to stand in. -/
def folderOf (path : String) : String :=
  String.intercalate "/" (path.splitOn "/").dropLast

/-- Plans carried out by the system. -/
def host : Plan.Host IO where
  print text := IO.print text
  makeFolderOf path :=
    attempt (if (folderOf path).isEmpty then pure () else IO.FS.createDirAll (folderOf path))
  write path contents := attempt (IO.FS.writeBinFile path ⟨contents⟩)

/-- The environment variables that settings depend on. -/
def readEnvironment : IO Environment := do
  let names := ["HOME", "USERPROFILE"] ++ Parameters.overrides.map Prod.fst
  let values ← names.filterMapM fun name => do
    return (← IO.getEnv name).map (name, ·)
  return fun name => values.lookup name

/-- The files that a run reads, by their paths. -/
def readFiles (paths : List String) : IO Files := do
  let contents ← paths.mapM fun path => do return (path, ← readFile path)
  return fun path => (contents.lookup path).getD (.error .absent)

/-- Carries out the run that options describe. -/
def run (options : Options) : IO UInt32 := do
  let environment ← readEnvironment
  let settings := options.config.getD (Settings.standardPath environment)
  let files ← readFiles (settings :: options.input.toList)
  let ending ← (Plan.ofOptions options environment files).carryOut host
  IO.eprint ending.report
  return ending.code

end LidarSieve.Program

/-- Answers a question or carries out a run. -/
def main (words : List String) : IO UInt32 := do
  match LidarSieve.Request.parse? words with
  | none => do
    IO.eprint LidarSieve.misuseReport
    return LidarSieve.misuseCode
  | some (.answer question) => do
    IO.print question.answer
    return 0
  | some (.run options) => LidarSieve.Program.run options
