import LidarSieve.Octets
/-!
# Stored files

What stands in the way of reading or writing a file, and stored files as seen by a reader.
-/
set_option autoImplicit false

namespace LidarSieve

/-- Why a file operation is refused. -/
inductive Obstacle where
  /-- There is no such file, or no such folder on the way to it. -/
  | absent
  /-- There is something of this name already. -/
  | occupied
  /-- A file stands where a folder is needed. -/
  | notFolder
  /-- A folder stands where a file is needed. -/
  | folder
  /-- The path or one of its names is too long. -/
  | tooLong
  /-- There is no room for the contents. -/
  | noSpace
  /-- Another reason, in words. -/
  | other (reason : String)
  deriving DecidableEq, Repr

namespace Obstacle

/-- The reason in words, with its number. -/
def message : Obstacle → String
  | absent => "No such file or directory (os error 2)"
  | occupied => "File exists (os error 17)"
  | notFolder => "Not a directory (os error 20)"
  | folder => "Is a directory (os error 21)"
  | tooLong => "File name too long (os error 36)"
  | noSpace => "No space left on device (os error 28)"
  | other reason => reason

/-- There is nothing at the path, nor can there be. -/
def isAbsence : Obstacle → Bool
  | absent => true
  | notFolder => true
  | tooLong => true
  | _ => false

end Obstacle

/-- Stored files: the contents at each path, or why there are none. -/
abbrev Files : Type := String → Except Obstacle Octets

/-- The values of environment variables that are set. -/
abbrev Environment : Type := String → Option String

/-- The text of octets, if they are one. -/
def Octets.text? (octets : Octets) : Option String := String.fromUTF8? ⟨octets⟩

/-- The octets of a text. -/
def Octets.ofText (text : String) : Octets := text.toUTF8.data

end LidarSieve
