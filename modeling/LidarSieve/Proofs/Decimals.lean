import LidarSieve.Binary.Arithmetic
import LidarSieve.Binary.Decimal
import LidarSieve.Proofs.Rounding
/-!
# Words that are converted and come back

Two ways lead out of a format and back.  A four-byte word is widened to eight bytes and narrowed
again, which loses nothing because its value is one of the wider format (`Number.convert_convert`).
And a word is turned into its shortest decimal, which reads back as the word
(`Number.ofDecimal_shortest`), however its zeros are distributed (`Number.ofDecimal_shift`).
-/
set_option autoImplicit false

namespace LidarSieve.Binary

namespace Format

/-- A fraction that is the value of a magnitude is rounded to this magnitude. -/
theorem round_of_quanta {f : Format} {num den magnitude : Nat} (pos : 0 < den)
    (value : num = f.quanta magnitude * den) (finite : magnitude ≤ f.infinity) :
    f.round num den = magnitude := by
  rw [f.round_congr pos Nat.one_pos (by rw [value, Nat.mul_one] : num * 1 = f.quanta magnitude * den)]
  exact round_quanta finite

end Format

namespace Number

variable {f g : Format}

theorem ext_magnitude {x y : Number f} (sign : x.negative = y.negative)
    (magnitude : x.magnitude = y.magnitude) : x = y := by
  obtain ⟨negative, size, bounded⟩ := x
  obtain ⟨other, otherSize, otherBounded⟩ := y
  cases sign
  cases magnitude
  rfl

/-! ## Widening and narrowing -/

theorem isNaN_convert (x : Number f) : (x.convert : Number g).isNaN = x.isNaN := by
  unfold convert
  cases nan : x.isNaN with
  | true =>
    have positive : 0 < Nat.pow 2 (g.fractionBits - 1) := Nat.two_pow_pos _
    simp only [isNaN, Format.quietNaN, if_true, decide_eq_true_eq]
    omega
  | false =>
    rw [if_neg (by decide)]
    split
    · exact decide_eq_false (Nat.lt_irrefl _)
    · exact decide_eq_false (Nat.not_lt.mpr (g.round_le_infinity _ _))

theorem negative_convert (x : Number f) : (x.convert : Number g).negative = x.negative := by
  unfold convert
  split
  · rfl
  · split <;> rfl

/-- How often a quantum of eight-byte words goes into one of four-byte words, as a logarithm. -/
def widening : Nat := double.scale - single.scale

theorem unit_double : double.unit = single.unit * 2 ^ widening := by
  have split : double.scale = single.scale + widening := by decide
  unfold Format.unit
  rw [split, Nat.pow_eq, Nat.pow_eq, ← Nat.pow_add]

/-- The values of four-byte words are values of eight-byte words. -/
theorem exists_double {magnitude : Nat} (finite : magnitude < single.infinity) :
    ∃ wide, wide < double.infinity ∧
      single.quanta magnitude * double.unit = double.quanta wide * single.unit := by
  obtain ⟨k, a, shifted, rfl⟩ := single.exists_shifted magnitude
  have narrow : single.fractions = 8388608 := by decide
  have large : double.fractions = 4503599627370496 := by decide
  have narrowEnd : single.infinity = 255 * 8388608 := by decide
  have wideEnd : double.infinity = 2047 * 4503599627370496 := by decide
  have places : widening = 925 := by decide
  have below := shifted.below
  rw [narrow] at finite below
  obtain ⟨wide, bounded, value⟩ :=
    Format.exists_quanta_eq (f := double) (k + widening) (a := a) (by omega)
  rw [large, places] at bounded
  refine ⟨wide, by omega, ?_⟩
  rw [value, Format.quanta_shifted shifted, unit_double, Nat.pow_add]
  ring

/-- A finite four-byte word is widened to a finite word of the same value. -/
theorem magnitude_widen {x : Single} (finite : x.magnitude < single.infinity) :
    (x.convert : Double).magnitude < double.infinity ∧
      single.quanta x.magnitude * double.unit =
        double.quanta (x.convert : Double).magnitude * single.unit := by
  obtain ⟨wide, bounded, value⟩ := exists_double finite
  have widened : (x.convert : Double).magnitude = wide := by
    unfold convert
    rw [isNaN, if_neg (by simp; omega), isInfinite, if_neg (by simp; omega)]
    exact Format.round_of_quanta single.unit_pos value (Nat.le_of_lt bounded)
  rw [widened]
  exact ⟨bounded, value⟩

/-- Widening loses nothing. -/
theorem convert_convert {x : Single} (value : x.isNaN = false) :
    ((x.convert : Double).convert : Single) = x := by
  refine ext_magnitude ?_ ?_
  · rw [negative_convert, negative_convert]
  · have bounded : x.magnitude ≤ single.infinity := Nat.not_lt.mp (of_decide_eq_false value)
    rcases Nat.eq_or_lt_of_le bounded with infinite | finite
    · have wide : (x.convert : Double) = infinity x.negative := by
        unfold convert
        rw [value, if_neg (by decide), isInfinite, if_pos (decide_eq_true infinite)]
      rw [wide, infinite]
      rfl
    · obtain ⟨wideFinite, same⟩ := magnitude_widen finite
      generalize (x.convert : Double) = y at wideFinite same
      unfold convert
      rw [isNaN, if_neg (by simp; omega), isInfinite, if_neg (by simp; omega)]
      exact Format.round_of_quanta double.unit_pos same.symm bounded

/-! ## Decimals -/

/-- A decimal whose exponent is beyond the scale is rounded to an infinity. -/
theorem round_large {digits : Nat} {exponent : Int} (nonzero : digits ≠ 0)
    (large : (f.scale : Int) < exponent) :
    f.round (digits * 10 ^ exponent.toNat * f.unit) (10 ^ (-exponent).toNat) = f.infinity := by
  have isPow : f.unit = 2 ^ f.scale := Nat.pow_eq
  have power : 2 ^ (3 * exponent.toNat) ≤ 10 ^ exponent.toNat := by
    rw [Nat.pow_mul]
    exact Nat.pow_le_pow_left (by decide) _
  have places : f.exponents - 1 + f.fractionBits ≤ 3 * exponent.toNat + f.scale := by
    have half : f.exponents ≤ 2 * 2 ^ (f.exponentBits - 1) := by
      rw [Format.exponents, Nat.pow_eq, ← Nat.pow_succ']
      exact Nat.pow_le_pow_right (by decide) (by omega)
    have := f.fractionBits_pos
    have fold : f.scale = 2 ^ (f.exponentBits - 1) - 2 + f.fractionBits := rfl
    omega
  refine Format.round_eq_infinity (Nat.pow_pos (by decide)) places ?_
  have whole : (-exponent).toNat = 0 := by omega
  rw [whole, isPow, Nat.pow_zero, Nat.one_mul, Nat.pow_add]
  refine Nat.mul_le_mul_right _ (power.trans ?_)
  exact Nat.le_mul_of_pos_left _ (Nat.pos_of_ne_zero nonzero)

/-- A decimal whose first digit is below the scale is rounded to zero. -/
theorem round_small {digits : Nat} {exponent : Int}
    (small : exponent + digits.log2 + 1 < -(f.scale : Int)) :
    f.round (digits * 10 ^ exponent.toNat * f.unit) (10 ^ (-exponent).toNat) = 0 := by
  have isPow : f.unit = 2 ^ f.scale := Nat.pow_eq
  have below : digits < 2 ^ (digits.log2 + 1) := Nat.lt_log2_self
  have fraction : exponent.toNat = 0 := by omega
  have power : 2 ^ (-exponent).toNat ≤ 10 ^ (-exponent).toNat :=
    Nat.pow_le_pow_left (by decide) _
  refine Format.round_eq_zero ?_
  rw [fraction, isPow, Nat.pow_zero, Nat.mul_one]
  calc 2 * (digits * 2 ^ f.scale)
      < 2 * (2 ^ (digits.log2 + 1) * 2 ^ f.scale) := by
        have := Nat.mul_lt_mul_of_pos_right below (Nat.two_pow_pos f.scale)
        omega
    _ = 2 ^ (digits.log2 + 2 + f.scale) := by ring
    _ ≤ 2 ^ (-exponent).toNat := Nat.pow_le_pow_right (by decide) (by omega)
    _ ≤ 10 ^ (-exponent).toNat := power

/-- The bounds that tell very large and very small decimals by their size change nothing. -/
theorem ofDecimal_eq (negative : Bool) (d : Decimal) :
    (ofDecimal negative d : Number f) =
      rounded negative (d.digits * 10 ^ d.exponent.toNat * f.unit) (10 ^ (-d.exponent).toNat) := by
  obtain ⟨digits, exponent⟩ := d
  unfold ofDecimal
  dsimp only
  split_ifs with noDigits large small
  · refine ext_magnitude rfl (Format.round_eq_zero ?_).symm
    have den : 0 < 10 ^ (-exponent).toNat := Nat.pow_pos (by decide)
    rw [noDigits]
    omega
  · exact ext_magnitude rfl (round_large noDigits large).symm
  · exact ext_magnitude rfl (round_small small).symm
  · rfl

/-- The sign does not matter for the size. -/
theorem magnitude_ofDecimal (negative : Bool) (d : Decimal) :
    (ofDecimal negative d : Number f).magnitude = (ofDecimal false d : Number f).magnitude := by
  rw [ofDecimal_eq, ofDecimal_eq]
  rfl

theorem negative_ofDecimal (negative : Bool) (d : Decimal) :
    (ofDecimal negative d : Number f).negative = negative := by
  rw [ofDecimal_eq]
  rfl

/-- Zeros at the end of the digits may as well be counted in the exponent. -/
theorem ofDecimal_shift (negative : Bool) (n zeros : Nat) (exponent : Int) :
    (ofDecimal negative ⟨n * 10 ^ zeros, exponent⟩ : Number f) =
      ofDecimal negative ⟨n, exponent + zeros⟩ := by
  rw [ofDecimal_eq, ofDecimal_eq]
  refine ext_magnitude rfl (Format.round_congr f (Nat.pow_pos (by decide))
    (Nat.pow_pos (by decide)) ?_)
  have places : zeros + exponent.toNat + (-(exponent + zeros)).toNat =
      (exponent + zeros).toNat + (-exponent).toNat := by omega
  calc n * 10 ^ zeros * 10 ^ exponent.toNat * f.unit * 10 ^ (-(exponent + zeros)).toNat
      = n * f.unit * 10 ^ (zeros + exponent.toNat + (-(exponent + zeros)).toNat) := by ring
    _ = n * f.unit * 10 ^ ((exponent + zeros).toNat + (-exponent).toNat) := by rw [places]
    _ = n * 10 ^ (exponent + zeros).toNat * f.unit * 10 ^ (-exponent).toNat := by ring

/-! ## The shortest decimal -/

/-- The whole expansion reads back. -/
theorem readsBack_expansion {x : Number f} (finite : x.magnitude < f.infinity) :
    x.readsBack ⟨x.expansion, -f.scale⟩ = true := by
  have ten : (10 : Nat) ^ f.scale = 5 ^ f.scale * 2 ^ f.scale := Nat.mul_pow 5 2 f.scale
  have places : (-(-(f.scale : Int))).toNat = f.scale := by omega
  have whole : (-(f.scale : Int)).toNat = 0 := by omega
  unfold readsBack
  rw [beq_iff_eq, ofDecimal_eq]
  refine Format.round_of_quanta (Nat.pow_pos (by decide)) ?_ (Nat.le_of_lt finite)
  dsimp only
  rw [places, whole, ten, expansion, Format.unit, Nat.pow_eq, Nat.pow_eq, Nat.pow_zero, Nat.mul_one,
    Nat.mul_assoc]

theorem readsBack_of_shortestOf {x : Number f} {length places : Nat} {d : Decimal}
    (found : x.shortestOf length places = some d) : x.readsBack d = true := by
  unfold shortestOf at found
  dsimp only at found
  split at found
  · rename_i below above
    split at found
    · cases found
      exact below
    · cases found
      exact above
  · rename_i below above
    cases found
    exact below
  · rename_i below above
    cases found
    exact above
  · cases found

/-- The shortest decimal of a word reads back as this word. -/
theorem ofDecimal_shortest {x : Number f} (finite : x.magnitude < f.infinity) :
    ofDecimal x.negative x.shortest = x := by
  have back : x.readsBack x.shortest = true := by
    unfold shortest
    dsimp only
    cases found : (List.range' 1 (Text.decimalDigits x.expansion).length).findSome?
        (x.shortestOf (Text.decimalDigits x.expansion).length) with
    | none => exact readsBack_expansion finite
    | some d =>
      obtain ⟨places, -, few⟩ := List.exists_of_findSome?_eq_some found
      exact readsBack_of_shortestOf few
  refine ext_magnitude (negative_ofDecimal _ _) ?_
  rw [magnitude_ofDecimal]
  exact eq_of_beq back

/-- Only a zero has a shortest decimal without digits. -/
theorem digits_shortest_pos {x : Number f} (finite : x.magnitude < f.infinity)
    (nonzero : x.magnitude ≠ 0) : 0 < x.shortest.digits := by
  refine Nat.pos_of_ne_zero fun noDigits => nonzero ?_
  rw [← ofDecimal_shortest finite, ofDecimal, if_pos noDigits]
  rfl

end Number

end LidarSieve.Binary
