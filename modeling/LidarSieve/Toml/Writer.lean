import LidarSieve.Toml.Text
import LidarSieve.Binary.Notation
/-!
# Writing TOML

The texts of values, chosen so that they read well: strings are written without escapes
where that is possible, and the items of lists stand on lines of their own.
-/
set_option autoImplicit false

namespace LidarSieve.Toml

open LidarSieve.Text LidarSieve.Binary

/-! ## Strings -/

/-- How a string is written. -/
inductive Quoting where
  /-- Between quotes, with escapes. -/
  | basic
  /-- Between apostrophes, as it is. -/
  | literal
  /-- Between rows of three quotes, with escapes; line breaks stand as they are. -/
  | basicLines
  /-- Between rows of three apostrophes, as it is. -/
  | literalLines
  deriving DecidableEq, Repr

/-- The length of the longest row of a mark, if `behind` marks stand in front of the run. -/
def longestRowBehind (mark : Char) : Nat → List Char → Nat
  | behind, [] => behind
  | behind, c :: rest =>
    if c = mark then longestRowBehind mark (behind + 1) rest
    else max behind (longestRowBehind mark 0 rest)

/-- The length of the longest row of a mark. -/
def longestRow (mark : Char) (run : List Char) : Nat := longestRowBehind mark 0 run

/-- The first way to write a run without escapes or, if there is none, one with escapes.
Runs of several lines are written on lines of their own. -/
def quotingOf (run : List Char) : Quoting :=
  let plain := run.all fun c => isPrintable c || c == '\n'
  let oneLine := !run.contains '\n'
  if plain && oneLine && !run.contains '\\' && longestRow '"' run = 0 then .basic
  else if plain && oneLine && longestRow apostrophe run = 0 then .literal
  else if plain && !run.contains '\\' && longestRow '"' run ≤ 2 then .basicLines
  else if plain && longestRow apostrophe run ≤ 2 then .literalLines
  else if oneLine then .basic
  else .basicLines

/-- A lower-case hexadecimal text of four digits. -/
def fourDigits (n : Nat) : List Char :=
  let digits := Nat.toDigits 16 n
  List.replicate (4 - digits.length) '0' ++ digits

/-- A character inside a basic string. -/
def writeEscaped (c : Char) : List Char :=
  if c = '"' then ['\\', '"']
  else if c = '\\' then ['\\', '\\']
  else if c = '\x08' then ['\\', 'b']
  else if c = '\t' then ['\\', 't']
  else if c = '\n' then ['\\', 'n']
  else if c = '\x0c' then ['\\', 'f']
  else if c = '\r' then ['\\', 'r']
  else if isPrintable c then [c]
  else '\\' :: 'u' :: (fourDigits c.toNat).map Char.toUpper

/-- A run inside a basic string of several lines.  Line breaks stand as they are, and so do
quotes, unless two of them stand directly in front (`quotes` of them do). -/
def writeEscapedLines : Nat → List Char → List Char
  | _, [] => []
  | quotes, c :: rest =>
    if c = '"' ∧ quotes < 2 then c :: writeEscapedLines (quotes + 1) rest
    else if c = '\n' then c :: writeEscapedLines 0 rest
    else writeEscaped c ++ writeEscapedLines 0 rest

/-- A run between rows of three marks.  A line break at the front of such a string does not
belong to it, and stands there if the run has several lines. -/
def writeLines (mark : Char) (run inside : List Char) : List Char :=
  List.replicate 3 mark ++ (if run.contains '\n' then ['\n'] else []) ++ inside ++
    List.replicate 3 mark

/-- A run with its marks. -/
def writeQuoted (run : List Char) : Quoting → List Char
  | .basic => '"' :: run.flatMap writeEscaped ++ ['"']
  | .literal => apostrophe :: run ++ [apostrophe]
  | .basicLines => writeLines '"' run (writeEscapedLines 0 run)
  | .literalLines => writeLines apostrophe run run

/-- The length up to which rows of a mark are counted. -/
def maxRow : Nat := 255

/-- A string with its marks, unless it has a row of quotes or apostrophes that is too long
to be counted. -/
def writeText? (s : String) : Option (List Char) :=
  if longestRow '"' s.toList ≤ maxRow ∧ longestRow apostrophe s.toList ≤ maxRow then
    some (writeQuoted s.toList (quotingOf s.toList))
  else none

/-! ## Numbers, flags and lists -/

/-- A number that is not an integer: its shortest digits, at least one of them after the
point.  The sign of a not-a-number is left out. -/
def writeReal (x : Double) : List Char :=
  let size := if x.isInfinite then ['i', 'n', 'f'] else x.positionalText true
  if x.isNaN then ['n', 'a', 'n'] else if x.negative then '-' :: size else size

/-- The greatest integer of a document. -/
def maxInteger : Nat := 9223372036854775807

/-- A count, if a document can hold it. -/
def writeCount? (n : Nat) : Option (List Char) :=
  if n ≤ maxInteger then some (decimalDigits n) else none

/-- A flag. -/
def writeFlag : Bool → List Char
  | true => ['t', 'r', 'u', 'e']
  | false => ['f', 'a', 'l', 's', 'e']

/-- A list, each item on a line of its own with a comma behind it. -/
def writeList (items : List (List Char)) : List Char :=
  '[' :: '\n' :: items.flatMap (fun item => [' ', ' ', ' ', ' '] ++ item ++ [',', '\n']) ++ [']']

/-! ## Lines -/

/-- The line of a table's header. -/
def writeHeader (name : String) : List Char := '[' :: name.toList ++ [']', '\n']

/-- The line or lines of an entry. -/
def writeEntry (key : String) (value : List Char) : List Char :=
  key.toList ++ [' ', '=', ' '] ++ value ++ ['\n']

end LidarSieve.Toml
