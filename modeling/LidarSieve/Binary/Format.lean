/-!
# Binary formats: magnitudes and the one rounding

A binary interchange format is fixed by two widths, the bits of its fraction and
the bits of its exponent.  Without the sign bit, a word of the format is a natural
number, its *magnitude*.  Magnitudes are ordered as the values they stand for: the
finite ones first, then the infinity, then the not-a-numbers.

Every finite value of a format is a whole number of *quanta*, its least positive
value.  So exact sums, products and quotients of values are fractions of natural
numbers, and every operation of the library is "exact, then rounded once" by
`Format.round`.
-/
set_option autoImplicit false

namespace LidarSieve.Binary

/-- The widths that fix a binary interchange format. -/
structure Format where
  fractionBits : Nat
  exponentBits : Nat
  fractionBits_pos : 0 < fractionBits := by decide
  deriving DecidableEq

/-- Four-byte words: 23 bits of fraction, 8 of exponent. -/
def single : Format := { fractionBits := 23, exponentBits := 8 }

/-- Eight-byte words: 52 bits of fraction, 11 of exponent. -/
def double : Format := { fractionBits := 52, exponentBits := 11 }

namespace Format

/-! ## Magnitudes -/

/-- Number of fractions, which is also the weight of one in the exponent field. -/
def fractions (f : Format) : Nat := Nat.pow 2 f.fractionBits

/-- Number of exponent fields. -/
def exponents (f : Format) : Nat := Nat.pow 2 f.exponentBits

/-- Number of magnitudes, which is also the weight of the sign bit. -/
def bound (f : Format) : Nat := f.exponents * f.fractions

/-- The magnitude of the infinity: the exponent field is all ones, the fraction zero. -/
def infinity (f : Format) : Nat := (f.exponents - 1) * f.fractions

/-- The magnitude of the default not-a-number: only the top fraction bit is set. -/
def quietNaN (f : Format) : Nat := f.infinity + Nat.pow 2 (f.fractionBits - 1)

/-- The binary logarithm of `unit`. -/
def scale (f : Format) : Nat := Nat.pow 2 (f.exponentBits - 1) - 2 + f.fractionBits

/-- How many quanta make one. -/
def unit (f : Format) : Nat := Nat.pow 2 f.scale

/-- The value of a finite magnitude, counted in quanta.  With exponent field zero the
fraction is the count itself; any other field adds the hidden bit and shifts. -/
def quanta (f : Format) (magnitude : Nat) : Nat :=
  match magnitude / f.fractions with
  | 0 => magnitude
  | e + 1 => (f.fractions + magnitude % f.fractions) * Nat.pow 2 e

theorem fractions_pos (f : Format) : 0 < f.fractions := Nat.pow_pos (by decide)

theorem exponents_pos (f : Format) : 0 < f.exponents := Nat.pow_pos (by decide)

theorem unit_pos (f : Format) : 0 < f.unit := Nat.pow_pos (by decide)

theorem infinity_add_fractions (f : Format) : f.infinity + f.fractions = f.bound := by
  have step : (f.exponents - 1 + 1) * f.fractions = (f.exponents - 1) * f.fractions + f.fractions :=
    Nat.succ_mul _ _
  rw [Nat.sub_add_cancel f.exponents_pos] at step
  exact step.symm

theorem infinity_lt_bound (f : Format) : f.infinity < f.bound := by
  have := f.infinity_add_fractions
  have := f.fractions_pos
  omega

theorem quietNaN_lt_bound (f : Format) : f.quietNaN < f.bound := by
  have lower : Nat.pow 2 (f.fractionBits - 1) < f.fractions :=
    Nat.pow_lt_pow_right (by decide) (by have := f.fractionBits_pos; omega)
  have := f.infinity_add_fractions
  unfold quietNaN
  omega

theorem bound_pos (f : Format) : 0 < f.bound :=
  Nat.lt_of_le_of_lt (Nat.zero_le _) f.infinity_lt_bound

end Format

/-! ## Rounding -/

/-- The natural number nearest to `num / den`; a tie goes to the even neighbour. -/
def roundQuotient (num den : Nat) : Nat :=
  let quotient := num / den
  let rest := 2 * (num % den)
  if rest < den then quotient
  else if den < rest then quotient + 1
  else quotient + quotient % 2

namespace Format

/-- Places to drop so that at most `fractionBits + 1` bits of `num / den` stay. -/
def excess (f : Format) (num den : Nat) : Nat := (num / den).log2 - f.fractionBits

/-- The magnitude nearest to `num / den` quanta, a tie going to the even magnitude; past
the largest finite value it is the infinity.  After `s` places are dropped, a rounded
significand `n` has magnitude `s * fractions + n`: the hidden bit of `n` supplies
the missing one of the exponent field, and a significand rounded up to the next power of
two carries into that field. -/
def round (f : Format) (num den : Nat) : Nat :=
  let s := f.excess num den
  min (s * f.fractions + roundQuotient num (den * Nat.pow 2 s)) f.infinity

theorem round_le_infinity (f : Format) (num den : Nat) : f.round num den ≤ f.infinity :=
  Nat.min_le_right _ _

theorem round_lt_bound (f : Format) (num den : Nat) : f.round num den < f.bound :=
  Nat.lt_of_le_of_lt (f.round_le_infinity num den) f.infinity_lt_bound

end Format

end LidarSieve.Binary
