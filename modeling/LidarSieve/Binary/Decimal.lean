import LidarSieve.Binary.Arithmetic
import LidarSieve.Text.Digits
/-!
# Words and decimal numbers

`ofDecimal` answers the word nearest to a decimal number.  `shortest` goes the other way:
among the decimals that read back as a word it takes one with the fewest digits, and of
those the nearest to the word's value, a tie going away from zero.

The exact value of a word with `q` quanta is the decimal `q * 5 ^ scale` shifted by `scale`
places, so the decimals with `n` digits around a value are its expansion cut after `n`
digits and the successor of that cut.
-/
set_option autoImplicit false

namespace LidarSieve.Binary

/-- An unsigned decimal number `digits * 10 ^ exponent`. -/
structure Decimal where
  digits : Nat
  exponent : Int
  deriving DecidableEq, Repr

namespace Number

variable {f : Format}

/-! ## From decimals -/

/-- The word nearest to a decimal number.  Decimals far outside the format's range are told
by their size alone, so that no power of ten grows with the exponent. -/
def ofDecimal (negative : Bool) (d : Decimal) : Number f :=
  if d.digits = 0 then zero negative
  else if (f.scale : Int) < d.exponent then infinity negative
  else if d.exponent + d.digits.log2 + 1 < -(f.scale : Int) then zero negative
  else rounded negative (d.digits * Nat.pow 10 d.exponent.toNat * f.unit)
    (Nat.pow 10 (-d.exponent).toNat)

/-! ## To the shortest decimal -/

/-- The decimal reads back as the magnitude of the word. -/
def readsBack (x : Number f) (d : Decimal) : Bool :=
  (ofDecimal false d : Number f).magnitude == x.magnitude

/-- The digits of the exact value of a finite word; `scale` of them follow the point. -/
def expansion (x : Number f) : Nat := f.quanta x.magnitude * Nat.pow 5 f.scale

/-- The decimal of `places` digits that reads back as the word and is nearest to it, if
there is one.  `length` is the number of digits of the expansion. -/
def shortestOf (x : Number f) (length places : Nat) : Option Decimal :=
  let unit := Nat.pow 10 (length - places)
  let exponent := (length : Int) - places - f.scale
  let below : Decimal := ⟨x.expansion / unit, exponent⟩
  let above : Decimal := ⟨x.expansion / unit + 1, exponent⟩
  match x.readsBack below, x.readsBack above with
  | true, true => if 2 * (x.expansion % unit) < unit then some below else some above
  | true, false => some below
  | false, true => some above
  | false, false => none

/-- A decimal with the fewest digits that reads back as the finite word, the nearest of
those.  The whole expansion reads back, so the search ends there at the latest. -/
def shortest (x : Number f) : Decimal :=
  let length := (Text.decimalDigits x.expansion).length
  ((List.range' 1 length).findSome? (x.shortestOf length)).getD ⟨x.expansion, -f.scale⟩

end Number

end LidarSieve.Binary
