/-!
# Runs of digits

Reading and writing natural numbers as digits.  A run of digits is read most significant
digit first; a character that is no digit of the base ends the run.
-/
set_option autoImplicit false

namespace LidarSieve.Text

/-- The value of a digit in bases up to sixteen; letters count in either case. -/
def digitValue (c : Char) : Nat :=
  if '0' ≤ c ∧ c ≤ '9' then c.toNat - '0'.toNat
  else if 'a' ≤ c ∧ c ≤ 'f' then c.toNat - 'a'.toNat + 10
  else if 'A' ≤ c ∧ c ≤ 'F' then c.toNat - 'A'.toNat + 10
  else 16

/-- The character is a digit of the base. -/
def isDigitOf (base : Nat) (c : Char) : Bool := decide (digitValue c < base)

/-- The value of a run of digits. -/
def valueOfDigits (base : Nat) (run : List Char) : Nat :=
  run.foldl (fun total c => total * base + digitValue c) 0

/-- The leading decimal digits, and what follows them. -/
def spanDigits (text : List Char) : List Char × List Char := text.span (isDigitOf 10)

/-- A sign that may stand in front of a number: whether it is a minus, and the rest. -/
def spanSign : List Char → Bool × List Char
  | '+' :: rest => (false, rest)
  | '-' :: rest => (true, rest)
  | rest => (false, rest)

/-- A count written in decimal digits, with or without a plus, and below the limit. -/
def readCount? (limit : Nat) (text : String) : Option Nat :=
  let body := match text.toList with
    | '+' :: rest => rest
    | rest => rest
  if body.isEmpty || !body.all (isDigitOf 10) then none
  else
    let count := valueOfDigits 10 body
    if count < limit then some count else none

/-- The decimal digits of a natural number. -/
def decimalDigits (n : Nat) : List Char := Nat.toDigits 10 n

/-- A run of digits without the zeros at its end. -/
def dropTrailingZeros (run : List Char) : List Char := (run.reverse.dropWhile (· == '0')).reverse

end LidarSieve.Text
