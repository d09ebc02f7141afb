import LidarSieve.Binary.Format
/-!
# Words of a binary format

A word is a sign and a magnitude.  The order used here is the one of the values: it
treats the two zeros as equal and leaves a not-a-number unordered with everything,
itself included.  Structural equality, by contrast, is equality of the words.
-/
set_option autoImplicit false

namespace LidarSieve.Binary

/-- A word of format `f`. -/
structure Number (f : Format) where
  negative : Bool
  magnitude : Nat
  magnitude_lt : magnitude < f.bound
  deriving DecidableEq

/-- A four-byte word. -/
abbrev Single : Type := Number single

/-- An eight-byte word. -/
abbrev Double : Type := Number double

namespace Number

variable {f : Format}

/-! ## Named words and bit patterns -/

/-- The zero of the given sign. -/
def zero (negative : Bool) : Number f := ⟨negative, 0, f.bound_pos⟩

/-- The infinity of the given sign. -/
def infinity (negative : Bool) : Number f := ⟨negative, f.infinity, f.infinity_lt_bound⟩

/-- The not-a-number that operations answer. -/
def nan : Number f := ⟨false, f.quietNaN, f.quietNaN_lt_bound⟩

/-- The nearest word to `num / den` quanta under the given sign. -/
def rounded (negative : Bool) (num den : Nat) : Number f :=
  ⟨negative, f.round num den, f.round_lt_bound num den⟩

instance : Inhabited (Number f) := ⟨zero false⟩

/-- The bit pattern: the sign bit weighs `f.bound`. -/
def toBits (x : Number f) : Nat := (if x.negative then f.bound else 0) + x.magnitude

/-- The word of a bit pattern; bits above the sign bit are dropped. -/
def ofBits (bits : Nat) : Number f :=
  ⟨bits / f.bound % 2 == 1, bits % f.bound, Nat.mod_lt _ f.bound_pos⟩

theorem toBits_lt (x : Number f) : x.toBits < 2 * f.bound := by
  have := x.magnitude_lt
  unfold toBits
  split <;> omega

theorem ofBits_toBits (x : Number f) : ofBits x.toBits = x := by
  obtain ⟨negative, magnitude, lt⟩ := x
  cases negative
  · simp [ofBits, toBits, Nat.div_eq_of_lt lt, Nat.mod_eq_of_lt lt]
  · simp [ofBits, toBits, Nat.add_div_left _ f.bound_pos, Nat.div_eq_of_lt lt,
      Nat.mod_eq_of_lt lt]

/-! ## Kinds of words -/

/-- A word that stands for no value. -/
def isNaN (x : Number f) : Bool := decide (f.infinity < x.magnitude)

/-- One of the two infinities. -/
def isInfinite (x : Number f) : Bool := decide (x.magnitude = f.infinity)

/-- A word that stands for a number of quanta. -/
def isFinite (x : Number f) : Bool := decide (x.magnitude < f.infinity)

/-- One of the two zeros. -/
def isZero (x : Number f) : Bool := decide (x.magnitude = 0)

/-- The exact value of a finite word, in quanta. -/
def quanta (x : Number f) : Int :=
  if x.negative then -(f.quanta x.magnitude : Int) else (f.quanta x.magnitude : Int)

/-- The same word with the sign turned. -/
def negate (x : Number f) : Number f := ⟨!x.negative, x.magnitude, x.magnitude_lt⟩

/-- The same word with the sign clear. -/
def abs (x : Number f) : Number f := ⟨false, x.magnitude, x.magnitude_lt⟩

instance : Neg (Number f) := ⟨negate⟩

/-! ## Order -/

/-- Signed magnitude: on words other than not-a-numbers it is ordered as the values. -/
def key (x : Number f) : Int := if x.negative then -(x.magnitude : Int) else (x.magnitude : Int)

/-- Both words stand for values, so that they can be compared. -/
def ordered (x y : Number f) : Bool := !x.isNaN && !y.isNaN

/-- Strictly less, as values. -/
def lt (x y : Number f) : Bool := ordered x y && decide (x.key < y.key)

/-- Less or equal, as values. -/
def le (x y : Number f) : Bool := ordered x y && decide (x.key ≤ y.key)

/-- Equal as values. -/
def same (x y : Number f) : Bool := ordered x y && decide (x.key = y.key)

instance : LT (Number f) := ⟨fun x y => x.lt y = true⟩
instance : LE (Number f) := ⟨fun x y => x.le y = true⟩
instance (x y : Number f) : Decidable (x < y) := inferInstanceAs (Decidable (x.lt y = true))
instance (x y : Number f) : Decidable (x ≤ y) := inferInstanceAs (Decidable (x.le y = true))

/-- The greater of two words; a not-a-number gives way to the other word, and of two equal
values the second is taken. -/
def maximum (x y : Number f) : Number f :=
  if x.isNaN then y else if x ≤ y then y else x

/-- The lesser of two words; a not-a-number gives way to the other word, and of two equal
values the second is taken. -/
def minimum (x y : Number f) : Number f :=
  if x.isNaN then y else if y ≤ x then y else x

/-- The word moved into `[low, high]`; a not-a-number stays. -/
def clamp (x low high : Number f) : Number f :=
  if x < low then low else if high < x then high else x

/-! ## Whole numbers -/

/-- The nearest word to a natural number. -/
def ofNat (n : Nat) : Number f := rounded false (n * f.unit) 1

/-- The nearest word to an integer; zero is the positive one. -/
def ofInt (i : Int) : Number f := rounded (decide (i < 0)) (i.natAbs * f.unit) 1

instance (n : Nat) : OfNat (Number f) n := ⟨ofNat n⟩

/-- The whole part of a word as a count below `limit`: negative words and not-a-numbers
count zero, and words from `limit` on count `limit - 1`. -/
def truncate (limit : Nat) (x : Number f) : Nat :=
  if x.isNaN || x.negative then 0
  else if x.isInfinite then limit - 1
  else min (f.quanta x.magnitude / f.unit) (limit - 1)

end Number

end LidarSieve.Binary
