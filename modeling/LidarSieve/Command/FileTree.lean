import LidarSieve.Command.Plan
/-!
# File trees

Files, folders and devices held in memory, as a place where plans can be carried out.  A path
is walked step by step from the root or from the working folder; each step needs a folder to
start from.  Paths and names have a greatest length, which is counted in octets.
-/
set_option autoImplicit false

namespace LidarSieve

/-- The names on the way to a file or folder, from the root. -/
abbrev Place : Type := List String

/-- What stands at a place. -/
inductive Occupant where
  | folder
  | file (contents : Octets)
  /-- Holds nothing.  What is written to it is let go or, if it has no room, refused. -/
  | device (room : Bool)
  deriving DecidableEq, Repr

/-- Files, folders and devices.  The root is a folder that is not listed. -/
structure FileTree where
  occupants : List (Place × Occupant)
  working : Place
  deriving DecidableEq, Repr

namespace FileTree

/-! ## Places -/

/-- What stands at a place, if anything does. -/
def occupant? (tree : FileTree) : Place → Option Occupant
  | [] => some .folder
  | place => tree.occupants.lookup place

/-- The greatest length of a name. -/
def maxName : Nat := 255

/-- The greatest length of a path. -/
def maxPath : Nat := 4095

/-- One step from a place, which has to be a folder. -/
def step (tree : FileTree) (place : Place) (name : String) : Except Obstacle Place :=
  match tree.occupant? place with
  | none => .error .absent
  | some (.file _) => .error .notFolder
  | some (.device _) => .error .notFolder
  | some .folder =>
    if name = "" ∨ name = "." then .ok place
    else if name = ".." then .ok place.dropLast
    else if maxName < name.utf8ByteSize then .error .tooLong
    else .ok (place ++ [name])

/-- The place where the walk of a path starts. -/
def origin (tree : FileTree) (path : String) : Place :=
  if path.startsWith "/" then [] else tree.working

/-- The place that a way from another place leads to. -/
def walk (tree : FileTree) (origin : Place) (way : List String) : Except Obstacle Place :=
  way.foldlM tree.step origin

/-- The place that a path leads to. -/
def resolve (tree : FileTree) (path : String) : Except Obstacle Place :=
  if path = "" then .error .absent
  else if maxPath < path.utf8ByteSize then .error .tooLong
  else tree.walk (tree.origin path) (path.splitOn "/")

/-- The tree with something at a place. -/
def put (tree : FileTree) (place : Place) (occupant : Occupant) : FileTree :=
  { tree with occupants := (place, occupant) :: tree.occupants.filter (·.1 != place) }

/-! ## Files -/

/-- The contents of the file at a path. -/
def read (tree : FileTree) : Files := fun path => do
  match tree.occupant? (← tree.resolve path) with
  | none => .error .absent
  | some .folder => .error .folder
  | some (.file contents) => .ok contents
  | some (.device _) => .ok #[]

/-- The tree after contents are written at a place. -/
def writeAt (tree : FileTree) (place : Place) (contents : Octets) : Except Obstacle FileTree :=
  match tree.occupant? place with
  | some .folder => .error .folder
  | some (.device room) => if room || contents.isEmpty then .ok tree else .error .noSpace
  | _ => .ok (tree.put place (.file contents))

/-- The tree after contents are written at a path.  A path with a slash at its end cannot be
written, even if the folder that it names does not exist. -/
def write (tree : FileTree) (path : String) (contents : Octets) : Except Obstacle FileTree :=
  if path.endsWith "/" && path.utf8ByteSize ≤ maxPath then do
    let way := ((path.splitOn "/").reverse.dropWhile (· == "")).tail.reverse
    let _ ← tree.step (← tree.walk (tree.origin path) way) "."
    .error .folder
  else do tree.writeAt (← tree.resolve path) contents

/-! ## Folders -/

/-- A step by the name leads nowhere. -/
def isIdle (name : String) : Bool := name == "" || name == "."

/-- The names of a path that lead further. -/
def names (path : String) : List String := (path.splitOn "/").filter (!isIdle ·)

/-- The path of the folder that a file at the path is to stand in: what stands in front of
the last name that leads further, up to the name before it that does. -/
def folderPath (path : String) : String :=
  String.intercalate "/"
    (((path.splitOn "/").reverse.dropWhile isIdle).tail.dropWhile isIdle).reverse

/-- The tree with folders at each step of a way; the flag tells that some of them have been
made already.  As long as none has, the way is only walked, and something in its middle that
is no folder stops the walk.  From the first folder that is made on, every further step is
made as well, and where something else stands the name is taken. -/
def makeFolders (tree : FileTree) (place : Place) (making : Bool) :
    List String → Except Obstacle FileTree
  | [] => .ok tree
  | ".." :: rest => makeFolders tree place.dropLast making rest
  | name :: rest =>
    if maxName < name.utf8ByteSize then .error .tooLong
    else
      let place := place ++ [name]
      match tree.occupant? place with
      | none => makeFolders (tree.put place .folder) place true rest
      | some .folder => makeFolders tree place making rest
      | some _ => .error (if making || rest.isEmpty then .occupied else .notFolder)

/-- The tree with the folder that a file at the path is to stand in. -/
def makeFolderOf (tree : FileTree) (path : String) : Except Obstacle FileTree :=
  if maxPath < (folderPath path).utf8ByteSize then .error .tooLong
  else tree.makeFolders (tree.origin path) false (names path).dropLast

/-- The folders and devices that are there before anything is put into a tree. -/
def furniture : List (Place × Occupant) :=
  (["bin", "boot", "dev", "etc", "home", "lib", "media", "mnt", "opt", "proc", "root", "run",
    "sbin", "srv", "sys", "tmp", "usr", "var"].map fun name => ([name], .folder)) ++
  [(["dev", "null"], .device true), (["dev", "full"], .device false)]

/-- A tree with a working folder of the given files. -/
def ofFiles (working : Place) (files : List (String × Octets)) : Except Obstacle FileTree := do
  let tree ← (⟨furniture, working⟩ : FileTree).makeFolders [] false working
  files.foldlM (fun tree (path, contents) => do (← tree.makeFolderOf path).write path contents)
    tree

/-- The files below the working folder, by their paths from there. -/
def files (tree : FileTree) : List (String × Octets) :=
  tree.occupants.filterMap fun (place, occupant) =>
    match occupant with
    | .folder | .device _ => none
    | .file contents =>
      if tree.working.isPrefixOf place then
        some (String.intercalate "/" (place.drop tree.working.length), contents)
      else none

/-! ## Runs -/

/-- A file tree, and the texts that were printed so far. -/
structure Session where
  tree : FileTree
  printed : String
  deriving DecidableEq, Repr

/-- A change to the tree as an operation of a session. -/
def attempt (change : FileTree → Except Obstacle FileTree) :
    StateM Session (Except Obstacle Unit) := do
  match change (← get).tree with
  | .error obstacle => return .error obstacle
  | .ok tree => do
    modify fun session => { session with tree }
    return .ok ()

/-- Plans carried out in a session. -/
def host : Plan.Host (StateM Session) where
  print text := modify fun session => { session with printed := session.printed ++ text }
  makeFolderOf path := attempt (·.makeFolderOf path)
  write path contents := attempt (·.write path contents)

/-- Runs the program on the files of a tree. -/
def run (tree : FileTree) (environment : Environment) (options : Options) : Ending × Session :=
  (Plan.ofOptions options environment tree.read).carryOut host |>.run ⟨tree, ""⟩

end FileTree

end LidarSieve
