import LidarSieve.Binary.Decimal
/-!
# Number texts

Three ways to write a word and one way to read it.

* `plain`: the shortest digits in positional notation; whole numbers have no point.
* `detailed`: the shortest digits with at least one place after the point, and scientific
  notation for values from `1e16` on and for those below `1e-4`.
* `fixed`: a given number of places after the point, a tie going to the even digit.

`parse?` reads a sign, digits with an optional point and exponent, or a name of an infinity
or a not-a-number.
-/
set_option autoImplicit false

namespace LidarSieve.Binary

open LidarSieve.Text

/-! ## Digits around a point -/

/-- Digits in positional notation; `point` of them stand before the point.  With
`keepFraction` a whole number is written with one zero after the point. -/
def positional (keepFraction : Bool) (digits : List Char) (point : Int) : List Char :=
  if point ≤ 0 then
    '0' :: '.' :: (List.replicate (-point).toNat '0' ++ digits)
  else if (digits.length : Int) ≤ point then
    digits ++ List.replicate (point.toNat - digits.length) '0' ++
      (if keepFraction then ['.', '0'] else [])
  else digits.take point.toNat ++ '.' :: digits.drop point.toNat

/-- The decimal digits of an integer, after a minus if it is negative. -/
def integerText (i : Int) : List Char :=
  if i < 0 then '-' :: decimalDigits i.natAbs else decimalDigits i.natAbs

/-- Digits in scientific notation: one digit before the point, and none after it if there
is only one. -/
def scientific (digits : List Char) (point : Int) : List Char :=
  match digits with
  | [] => ['0']
  | [d] => d :: 'e' :: integerText (point - 1)
  | d :: rest => d :: '.' :: rest ++ 'e' :: integerText (point - 1)

/-- The digits of a decimal without trailing zeros, and how many stand before the point. -/
def Decimal.pointed (d : Decimal) : List Char × Int :=
  let digits := decimalDigits d.digits
  (dropTrailingZeros digits, digits.length + d.exponent)

namespace Number

variable {f : Format}

/-! ## Writing -/

/-- A minus in front of the text of a negative word. -/
def signed (x : Number f) (text : List Char) : String :=
  String.ofList (if x.negative then '-' :: text else text)

/-- The shortest digits of a nonzero finite word in positional notation, or the zero. -/
def positionalText (keepFraction : Bool) (x : Number f) : List Char :=
  if x.isZero then (if keepFraction then ['0', '.', '0'] else ['0'])
  else
    let (digits, point) := x.shortest.pointed
    positional keepFraction digits point

/-- Text in positional notation; a whole number has no point. -/
def plain (x : Number f) : String :=
  if x.isNaN then "NaN"
  else if x.isInfinite then x.signed ['i', 'n', 'f']
  else x.signed (x.positionalText false)

/-- The nonzero values that `detailed` writes in positional notation: from `1e-4` up to but
not including `1e16`. -/
def inPositionalRange (x : Number f) : Bool :=
  (ofDecimal false ⟨1, -4⟩ : Number f).le x.abs && x.abs.lt (ofDecimal false ⟨1, 16⟩ : Number f)

/-- Text that always shows a point or an exponent. -/
def detailed (x : Number f) : String :=
  if x.isNaN then "NaN"
  else if x.isInfinite then x.signed ['i', 'n', 'f']
  else if x.isZero || x.inPositionalRange then x.signed (x.positionalText true)
  else
    let (digits, point) := x.shortest.pointed
    x.signed (scientific digits point)

/-- Text with the given number of places after the point, rounded once from the exact
value. -/
def fixed (places : Nat) (x : Number f) : String :=
  if x.isNaN then "NaN"
  else if x.isInfinite then x.signed ['i', 'n', 'f']
  else
    let count := roundQuotient (f.quanta x.magnitude * Nat.pow 10 places) f.unit
    let fraction := decimalDigits (count % Nat.pow 10 places)
    x.signed (decimalDigits (count / Nat.pow 10 places) ++
      (if places = 0 then []
       else '.' :: (List.replicate (places - fraction.length) '0' ++ fraction)))

/-! ## Reading -/

/-- An exponent at the end of a number: nothing, or a mark, an optional sign and digits. -/
def readExponent? : List Char → Option Int
  | [] => some 0
  | mark :: rest =>
    if mark == 'e' || mark == 'E' then
      let (minus, digits) := spanSign rest
      if digits.isEmpty || !digits.all (isDigitOf 10) then none
      else
        let size : Int := valueOfDigits 10 digits
        some (if minus then -size else size)
    else none

/-- A decimal number: digits, possibly with a point among or beside them, and an optional
exponent. -/
def readDecimal? (text : List Char) : Option Decimal :=
  let (whole, rest) := spanDigits text
  let (fraction, rest) := match rest with
    | '.' :: rest => spanDigits rest
    | rest => ([], rest)
  if whole.isEmpty && fraction.isEmpty then none
  else do
    let exponent ← readExponent? rest
    some ⟨valueOfDigits 10 (whole ++ fraction), exponent - fraction.length⟩

/-- The word nearest to a written number.  Names of infinities and not-a-numbers are read in
any case. -/
def parse? (text : String) : Option (Number f) :=
  let (minus, body) := spanSign text.toList
  let name := String.ofList (body.map Char.toLower)
  if name == "inf" || name == "infinity" then some (infinity minus)
  else if name == "nan" then some ⟨minus, f.quietNaN, f.quietNaN_lt_bound⟩
  else (readDecimal? body).map (ofDecimal minus)

end Number

end LidarSieve.Binary
