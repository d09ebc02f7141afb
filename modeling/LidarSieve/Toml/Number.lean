import LidarSieve.Toml.Value
import LidarSieve.Toml.Text
import LidarSieve.Binary.Decimal
/-!
# TOML numbers, dates and times

Integers are written in base ten, with a sign if wanted, or without one in the bases
sixteen, eight and two; they are words of 64 bits with a sign.  Other numbers have a
fraction, an exponent or both, and are read to the nearest eight-byte word; one that would
be read as the positive infinity is refused.  Single underscores may stand between digits.

Dates and times are checked and kept as written.
-/
set_option autoImplicit false

namespace LidarSieve.Toml

open LidarSieve.Text LidarSieve.Binary

/-! ## Digits -/

/-- The digits that follow a digit.  An underscore has to stand between two digits. -/
def readMoreDigits (base : Nat) : Reader (List Char)
  | '_' :: c :: rest =>
    if isDigitOf base c then prepend c (readMoreDigits base rest) else none
  | ['_'] => none
  | c :: rest =>
    if isDigitOf base c then prepend c (readMoreDigits base rest) else some ([], c :: rest)
  | [] => some ([], [])

/-- One or more digits. -/
def readDigits (base : Nat) : Reader (List Char)
  | c :: rest => if isDigitOf base c then prepend c (readMoreDigits base rest) else none
  | [] => none

/-- The digits in front of a point or an exponent, or of an integer: a zero alone, or digits
that do not start with a zero. -/
def readWhole : Reader (List Char)
  | '0' :: rest => some (['0'], rest)
  | text => readDigits 10 text

/-! ## Numbers -/

/-- An integer of 64 bits. -/
def integer? (i : Int) : Option Value :=
  if -9223372036854775808 ≤ i ∧ i ≤ 9223372036854775807 then some (.integer i) else none

/-- A number that is not the positive infinity. -/
def real? (x : Double) : Option Value :=
  if x = Number.infinity false then none else some (.real x)

/-- An exponent: a mark, a sign if wanted, and digits. -/
def readExponent : Reader Int
  | mark :: rest =>
    if mark = 'e' ∨ mark = 'E' then do
      let (minus, rest) := spanSign rest
      let (digits, rest) ← readDigits 10 rest
      let size : Int := valueOfDigits 10 digits
      return (if minus then -size else size, rest)
    else none
  | [] => none

/-- The exponent at the front of a text; without one it is zero. -/
def readOptionalExponent (text : List Char) : Option (Int × List Char) :=
  match text with
  | 'e' :: _ => readExponent text
  | 'E' :: _ => readExponent text
  | _ => some (0, text)

/-- The number of its digits around the point and of its exponent. -/
def decimal? (minus : Bool) (whole fraction : List Char) (exponent : Int) : Option Value :=
  real? (Number.ofDecimal minus
    ⟨valueOfDigits 10 (whole ++ fraction), exponent - fraction.length⟩)

/-- What follows the sign of a number in base ten. -/
def readDecimal (minus : Bool) : Reader Value := fun text => do
  let (whole, rest) ← readWhole text
  match rest with
  | '.' :: rest => do
    let (fraction, rest) ← readDigits 10 rest
    let (exponent, rest) ← readOptionalExponent rest
    return (← decimal? minus whole fraction exponent, rest)
  | 'e' :: _ => do
    let (exponent, rest) ← readExponent rest
    return (← decimal? minus whole [] exponent, rest)
  | 'E' :: _ => do
    let (exponent, rest) ← readExponent rest
    return (← decimal? minus whole [] exponent, rest)
  | _ => do
    let size : Int := valueOfDigits 10 whole
    return (← integer? (if minus then -size else size), rest)

/-- The infinity or the not-a-number of a sign. -/
def readSpecial (minus : Bool) : Reader Value
  | 'i' :: 'n' :: 'f' :: rest => some (.real (.infinity minus), rest)
  | 'n' :: 'a' :: 'n' :: rest =>
    some (.real (if minus then Number.nan.negate else Number.nan), rest)
  | _ => none

/-- An integer in another base than ten, after its mark. -/
def readBased (base : Nat) : Reader Value := fun text => do
  let (digits, rest) ← readDigits base text
  return (← integer? (valueOfDigits base digits), rest)

/-- A number. -/
def readNumber : Reader Value
  | '0' :: 'x' :: rest => readBased 16 rest
  | '0' :: 'o' :: rest => readBased 8 rest
  | '0' :: 'b' :: rest => readBased 2 rest
  | text =>
    let (minus, rest) := spanSign text
    (readSpecial minus rest).or (readDecimal minus rest)

/-! ## Dates and times -/

/-- A number of exactly so many digits. -/
def readFixed (digits : Nat) : Reader Nat := fun text =>
  let run := text.take digits
  if run.length = digits ∧ run.all (isDigitOf 10) then
    some (valueOfDigits 10 run, text.drop digits)
  else none

/-- A number of two digits that lies in a range. -/
def readPart (low high : Nat) : Reader Nat := fun text => do
  let (n, rest) ← readFixed 2 text
  if low ≤ n ∧ n ≤ high then some (n, rest) else none

/-- What follows a character. -/
def skipMark (mark : Char) : List Char → Option (List Char)
  | c :: rest => if c = mark then some rest else none
  | [] => none

/-- February has a day more. -/
def isLeapYear (year : Nat) : Bool := year % 4 == 0 && (year % 100 != 0 || year % 400 == 0)

/-- The number of days of a month. -/
def daysOfMonth (year month : Nat) : Nat :=
  if month = 2 then (if isLeapYear year then 29 else 28)
  else if month = 4 ∨ month = 6 ∨ month = 9 ∨ month = 11 then 30
  else 31

/-- What follows a date. -/
def skipDate? (text : List Char) : Option (List Char) := do
  let (year, rest) ← readFixed 4 text
  let (month, rest) ← readPart 1 12 (← skipMark '-' rest)
  let (_, rest) ← readPart 1 (daysOfMonth year month) (← skipMark '-' rest)
  return rest

/-- What follows the fraction of a second, if there is one. -/
def skipFraction : List Char → List Char
  | '.' :: c :: rest => if isDigitOf 10 c then rest.dropWhile (isDigitOf 10) else '.' :: c :: rest
  | text => text

/-- What follows a time of day; a minute may have a leap second. -/
def skipTime? (text : List Char) : Option (List Char) := do
  let (_, rest) ← readPart 0 23 text
  let (_, rest) ← readPart 0 59 (← skipMark ':' rest)
  let (_, rest) ← readPart 0 60 (← skipMark ':' rest)
  return skipFraction rest

/-- What follows the offset of a time zone, if there is one. -/
def skipOffset? (text : List Char) : Option (List Char) :=
  match text with
  | 'Z' :: rest => some rest
  | 'z' :: rest => some rest
  | '+' :: rest => clock rest
  | '-' :: rest => clock rest
  | _ => some text
where
  clock (rest : List Char) : Option (List Char) := do
    let (_, rest) ← readPart 0 23 rest
    let (_, rest) ← readPart 0 59 (← skipMark ':' rest)
    return rest

/-- What follows a time of day and an offset behind a date, if they are there. -/
def skipTimeOfDate (text : List Char) : Option (List Char) :=
  match text with
  | mark :: rest =>
    if mark = 'T' ∨ mark = 't' ∨ mark = ' ' then
      match skipTime? rest with
      | some rest => skipOffset? rest
      | none => some text
    else some text
  | [] => some []

/-- What follows a date, a time of day, or both. -/
def skipMoment? (text : List Char) : Option (List Char) :=
  match skipDate? text with
  | some rest => skipTimeOfDate rest
  | none => skipTime? text

/-- A date, a time of day, or both. -/
def readMoment : Reader Value := fun text => do
  let rest ← skipMoment? text
  return (.moment (String.ofList (text.take (text.length - rest.length))), rest)

end LidarSieve.Toml
