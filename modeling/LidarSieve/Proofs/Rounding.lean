import Mathlib.Tactic.Ring
import LidarSieve.Binary.Format
/-!
# Rounding to a magnitude

Rounding depends on the value of a fraction only, not on how the fraction is written
(`Format.round_congr`), it leaves values of the format alone (`Format.round_quanta`), and it does
not turn the order of two values round (`Format.round_mono`).

A magnitude is cut here into a shift and a significand, `k * fractions + a`, which is the way
`Format.round` puts it together: its value is `a * 2 ^ k` quanta (`Format.quanta_shifted`).
-/
set_option autoImplicit false

namespace LidarSieve.Binary

/-! ## Nearest natural numbers -/

theorem roundQuotient_mul (num den : Nat) {k : Nat} (pos : 0 < k) :
    roundQuotient (num * k) (den * k) = roundQuotient num den := by
  unfold roundQuotient
  have twice : 2 * (num % den * k) = 2 * (num % den) * k := (Nat.mul_assoc _ _ _).symm
  simp only [Nat.mul_div_mul_right _ _ pos, Nat.mul_mod_mul_right, twice,
    Nat.mul_lt_mul_right pos]

theorem roundQuotient_of_dvd (n : Nat) {den : Nat} (pos : 0 < den) :
    roundQuotient (n * den) den = n := by
  unfold roundQuotient
  simp [Nat.mul_div_cancel _ pos, pos]

theorem div_le_div_of_mul_le {a b c d : Nat} (left : 0 < b) (right : 0 < d)
    (le : a * d ≤ c * b) : a / b ≤ c / d := by
  refine (Nat.le_div_iff_mul_le right).mpr (Nat.le_of_mul_le_mul_right ?_ left)
  calc a / b * d * b = a / b * b * d := Nat.mul_right_comm _ _ _
    _ ≤ a * d := Nat.mul_le_mul_right d (Nat.div_mul_le_self a b)
    _ ≤ c * b := le

theorem div_le_roundQuotient (num den : Nat) : num / den ≤ roundQuotient num den := by
  unfold roundQuotient
  dsimp only
  split
  · exact Nat.le_refl _
  · split <;> omega

theorem roundQuotient_le_succ (num den : Nat) : roundQuotient num den ≤ num / den + 1 := by
  unfold roundQuotient
  dsimp only
  split
  · exact Nat.le_succ _
  · split <;> omega

/-- Zero is the nearest natural number up to one half; of the two neighbours of one half it is the
even one. -/
theorem roundQuotient_eq_zero_iff {num den : Nat} (pos : 0 < den) :
    roundQuotient num den = 0 ↔ 2 * num ≤ den := by
  rcases Nat.lt_or_ge num den with less | ge
  · unfold roundQuotient
    rw [Nat.div_eq_of_lt less, Nat.mod_eq_of_lt less]
    dsimp only
    split_ifs with below above
    · exact iff_of_true rfl below.le
    · exact iff_of_false not_false (Nat.not_le_of_lt above)
    · exact iff_of_true rfl (Nat.le_of_not_lt above)
  · have whole : 0 < num / den := Nat.div_pos ge pos
    have positive := whole.trans_le (div_le_roundQuotient num den)
    exact iff_of_false (Nat.ne_of_gt positive) (by omega)

/-- A greater fraction has no lesser nearest natural number. -/
theorem roundQuotient_mono {a b c d : Nat} (left : 0 < b) (right : 0 < d)
    (le : a * d ≤ c * b) : roundQuotient a b ≤ roundQuotient c d := by
  rcases Nat.lt_or_eq_of_le (div_le_div_of_mul_le left right le) with less | same
  · calc roundQuotient a b ≤ a / b + 1 := roundQuotient_le_succ a b
      _ ≤ c / d := less
      _ ≤ roundQuotient c d := div_le_roundQuotient c d
  · -- The whole parts agree, so the rests decide; they are compared as parts of `b * d`.
    have rests : a % b * d ≤ c % d * b := by
      have whole_left : a / b * b * d + a % b * d = a * d := by
        rw [← Nat.add_mul, Nat.div_add_mod']
      have whole_right : c / d * d * b + c % d * b = c * b := by
        rw [← Nat.add_mul, Nat.div_add_mod']
      have wholes : a / b * b * d = c / d * d * b := by rw [same, Nat.mul_right_comm]
      omega
    have below (half : b ≤ 2 * (a % b)) : d ≤ 2 * (c % d) := by
      refine Nat.le_of_mul_le_mul_right ?_ left
      calc d * b = b * d := Nat.mul_comm d b
        _ ≤ 2 * (a % b) * d := Nat.mul_le_mul_right d half
        _ = 2 * (a % b * d) := Nat.mul_assoc _ _ _
        _ ≤ 2 * (c % d * b) := Nat.mul_le_mul_left 2 rests
        _ = 2 * (c % d) * b := (Nat.mul_assoc _ _ _).symm
    have above (more : b < 2 * (a % b)) : d < 2 * (c % d) := by
      refine Nat.lt_of_mul_lt_mul_right (a := b) ?_
      calc d * b = b * d := Nat.mul_comm d b
        _ < 2 * (a % b) * d := Nat.mul_lt_mul_of_pos_right more right
        _ = 2 * (a % b * d) := Nat.mul_assoc _ _ _
        _ ≤ 2 * (c % d * b) := Nat.mul_le_mul_left 2 rests
        _ = 2 * (c % d) * b := (Nat.mul_assoc _ _ _).symm
    unfold roundQuotient
    dsimp only
    rw [same]
    split_ifs <;> omega

namespace Format

variable (f : Format)

/-! ## Fractions of the same value -/

theorem round_mul (num den : Nat) {k : Nat} (pos : 0 < k) :
    f.round (num * k) (den * k) = f.round num den := by
  have same : f.excess (num * k) (den * k) = f.excess num den := by
    unfold excess
    rw [Nat.mul_div_mul_right _ _ pos]
  unfold round
  rw [same]
  dsimp only
  rw [Nat.mul_right_comm, roundQuotient_mul _ _ pos]

/-- Fractions of the same value are rounded alike. -/
theorem round_congr {a b c d : Nat} (left : 0 < b) (right : 0 < d) (same : a * d = c * b) :
    f.round a b = f.round c d := by
  calc f.round a b = f.round (a * d) (b * d) := (f.round_mul a b right).symm
    _ = f.round (c * b) (d * b) := by rw [same, Nat.mul_comm b d]
    _ = f.round c d := f.round_mul c d left

/-! ## Shift and significand -/

/-- The significand `a` is not too large, and full unless it is not shifted at all. -/
structure IsShifted (k a : Nat) : Prop where
  below : a < 2 * f.fractions
  full : k = 0 ∨ f.fractions ≤ a

/-- Every magnitude has a shift and a significand. -/
theorem exists_shifted (magnitude : Nat) :
    ∃ k a, f.IsShifted k a ∧ magnitude = k * f.fractions + a := by
  have pos := f.fractions_pos
  have rest := Nat.mod_lt magnitude pos
  have whole := Nat.div_add_mod' magnitude f.fractions
  cases field : magnitude / f.fractions with
  | zero =>
    have small : magnitude < f.fractions := (Nat.div_eq_zero_iff_lt pos).mp field
    exact ⟨0, magnitude, ⟨by omega, .inl rfl⟩, by simp⟩
  | succ e =>
    refine ⟨e, f.fractions + magnitude % f.fractions, ⟨by omega, .inr (by omega)⟩, ?_⟩
    rw [field, Nat.succ_mul] at whole
    omega

variable {f} {k a : Nat}

theorem quanta_shifted (shifted : f.IsShifted k a) :
    f.quanta (k * f.fractions + a) = a * 2 ^ k := by
  obtain ⟨below, full⟩ := shifted
  have pos := f.fractions_pos
  unfold quanta
  rcases Nat.lt_or_ge a f.fractions with small | large
  · have unshifted : k = 0 := full.resolve_right (by omega)
    subst unshifted
    simp [Nat.div_eq_of_lt small]
  · obtain ⟨rest, rfl⟩ := Nat.exists_eq_add_of_le large
    have small : rest < f.fractions := by omega
    have split : k * f.fractions + (f.fractions + rest) = rest + (k + 1) * f.fractions := by ring
    rw [split, Nat.add_mul_div_right _ _ pos, Nat.add_mul_mod_self_right,
      Nat.div_eq_of_lt small, Nat.mod_eq_of_lt small, Nat.zero_add]
    rfl

/-- As many places are dropped as the significand is shifted by. -/
theorem excess_shifted (shifted : f.IsShifted k a) : f.excess (a * 2 ^ k) 1 = k := by
  obtain ⟨below, full⟩ := shifted
  have pos := f.fractions_pos
  have isPow : f.fractions = 2 ^ f.fractionBits := Nat.pow_eq
  unfold excess
  rw [Nat.div_one]
  rcases Nat.lt_or_ge a f.fractions with small | large
  · have unshifted : k = 0 := full.resolve_right (by omega)
    subst unshifted
    rw [Nat.pow_zero, Nat.mul_one]
    rcases Nat.eq_zero_or_pos a with rfl | positive
    · simp
    · have := (Nat.log2_lt (by omega : a ≠ 0)).mpr (isPow ▸ small)
      omega
  · have positive : a * 2 ^ k ≠ 0 := by
      have := Nat.two_pow_pos k
      exact Nat.mul_ne_zero (by omega) (by omega)
    have exact_log : (a * 2 ^ k).log2 = f.fractionBits + k := by
      refine (Nat.log2_eq_iff positive).mpr ⟨?_, ?_⟩
      · rw [Nat.pow_add, ← isPow]
        exact Nat.mul_le_mul_right _ large
      · have power : 2 ^ (f.fractionBits + k + 1) = 2 * f.fractions * 2 ^ k := by
          rw [isPow]
          ring
        rw [power]
        exact Nat.mul_lt_mul_of_pos_right below (Nat.two_pow_pos k)
    omega

theorem round_shifted (shifted : f.IsShifted k a) (finite : k * f.fractions + a ≤ f.infinity) :
    f.round (a * 2 ^ k) 1 = k * f.fractions + a := by
  unfold round
  dsimp only
  rw [excess_shifted shifted, Nat.one_mul, Nat.pow_eq,
    roundQuotient_of_dvd _ (Nat.two_pow_pos k)]
  exact Nat.min_eq_left finite

/-- The value of a magnitude is rounded to this magnitude. -/
theorem round_quanta {magnitude : Nat} (finite : magnitude ≤ f.infinity) :
    f.round (f.quanta magnitude) 1 = magnitude := by
  obtain ⟨k, a, shifted, rfl⟩ := f.exists_shifted magnitude
  rw [quanta_shifted shifted]
  exact round_shifted shifted finite

/-- Whatever it is shifted by, a significand is the value of a magnitude. -/
theorem exists_quanta_eq (k : Nat) {a : Nat} (below : a < 2 * f.fractions) :
    ∃ magnitude, magnitude ≤ k * f.fractions + a ∧ f.quanta magnitude = a * 2 ^ k := by
  induction k generalizing a with
  | zero => exact ⟨_, Nat.le_refl _, quanta_shifted ⟨below, .inl rfl⟩⟩
  | succ k ih =>
    rcases Nat.lt_or_ge a f.fractions with small | large
    · obtain ⟨magnitude, bounded, value⟩ := ih (a := 2 * a) (by omega)
      refine ⟨magnitude, ?_, ?_⟩
      · rw [Nat.succ_mul]
        omega
      · rw [value]
        ring
    · exact ⟨_, Nat.le_refl _, quanta_shifted ⟨below, .inr large⟩⟩

/-! ## The ends of the range -/

/-- No place is dropped of what is less than a quantum. -/
theorem excess_of_lt {num den : Nat} (less : num < den) : f.excess num den = 0 := by
  unfold excess
  rw [Nat.div_eq_of_lt less]
  simp

/-- What is less than half a quantum is rounded to nothing. -/
theorem round_eq_zero {num den : Nat} (small : 2 * num < den) : f.round num den = 0 := by
  have quotient_eq : roundQuotient num den = 0 :=
    (roundQuotient_eq_zero_iff (by omega)).mpr small.le
  unfold round
  dsimp only
  rw [excess_of_lt (by omega), Nat.zero_mul, Nat.zero_add, Nat.pow_eq, Nat.pow_zero, Nat.mul_one,
    quotient_eq, Nat.zero_min]

/-- What is at most half a quantum is rounded to nothing, and nothing else is. -/
theorem round_eq_zero_iff {num den : Nat} (pos : 0 < den) (some_finite : 0 < f.infinity) :
    f.round num den = 0 ↔ 2 * num ≤ den := by
  rcases Nat.eq_zero_or_pos (f.excess num den) with no_excess | some_excess
  · have rounded : f.round num den = min (roundQuotient num den) f.infinity := by
      unfold round
      simp [no_excess]
    rw [rounded, ← roundQuotient_eq_zero_iff pos]
    omega
  · have whole : ¬ num < den := fun less => Nat.ne_of_gt some_excess (excess_of_lt less)
    refine iff_of_false ?_ (by omega)
    unfold round
    exact Nat.ne_of_gt (Nat.lt_min.mpr
      ⟨Nat.add_pos_left (Nat.mul_pos some_excess f.fractions_pos) _, some_finite⟩)

/-- A value with more places than the exponents of the format can shift by is rounded to the
infinity. -/
theorem round_eq_infinity {num den places : Nat} (pos : 0 < den)
    (enough : f.exponents - 1 + f.fractionBits ≤ places) (large : den * 2 ^ places ≤ num) :
    f.round num den = f.infinity := by
  have many : 2 ^ places ≤ num / den :=
    (Nat.le_div_iff_mul_le pos).mpr (Nat.mul_comm _ _ ▸ large)
  have nonzero : num / den ≠ 0 := by
    have := Nat.two_pow_pos places
    omega
  have excess : f.exponents - 1 ≤ f.excess num den := by
    have := (Nat.le_log2 nonzero).mpr many
    unfold Format.excess
    omega
  unfold round infinity
  refine Nat.min_eq_right ?_
  have := Nat.mul_le_mul_right f.fractions excess
  omega

/-! ## Order -/

theorem quanta_zero : f.quanta 0 = 0 := by
  unfold quanta
  rw [Nat.zero_div]

theorem quanta_one : f.quanta 1 = 1 := by
  have some_fraction : 1 < f.fractions := Nat.one_lt_two_pow (Nat.ne_of_gt f.fractionBits_pos)
  unfold quanta
  rw [Nat.div_eq_of_lt some_fraction]

/-- A fraction without its excess is less than twice the number of fractions. -/
theorem roundQuotient_excess_le (num den : Nat) :
    roundQuotient num (den * Nat.pow 2 (f.excess num den)) ≤ 2 * f.fractions := by
  have bits : (num / den).log2 + 1 ≤ f.fractionBits + f.excess num den + 1 := by
    unfold excess
    omega
  have whole : num / den < 2 * f.fractions * 2 ^ f.excess num den := by
    calc num / den < 2 ^ ((num / den).log2 + 1) := Nat.lt_log2_self
      _ ≤ 2 ^ (f.fractionBits + f.excess num den + 1) := Nat.pow_le_pow_right (by decide) bits
      _ = 2 * f.fractions * 2 ^ f.excess num den := by
        unfold fractions
        rw [Nat.pow_eq]
        ring
  have quotient : num / (den * Nat.pow 2 (f.excess num den)) < 2 * f.fractions := by
    rw [← Nat.div_div_eq_div_mul]
    exact (Nat.div_lt_iff_lt_mul (Nat.two_pow_pos _)).mpr whole
  exact (roundQuotient_le_succ _ _).trans quotient

/-- A fraction that has an excess is so large that the fractions fill its last place. -/
theorem fractions_mul_two_pow_excess_le {num den : Nat} (some_excess : 0 < f.excess num den) :
    f.fractions * 2 ^ f.excess num den ≤ num / den := by
  have nonzero : num / den ≠ 0 := by
    intro noWhole
    simp [excess, noWhole] at some_excess
  have bits : f.fractionBits + f.excess num den = (num / den).log2 := by
    unfold excess at some_excess ⊢
    omega
  unfold fractions
  rw [Nat.pow_eq, ← Nat.pow_add, bits]
  exact Nat.log2_self_le nonzero

/-- A fraction that has an excess fills the significand. -/
theorem fractions_le_roundQuotient_excess {num den : Nat}
    (some_excess : 0 < f.excess num den) :
    f.fractions ≤ roundQuotient num (den * Nat.pow 2 (f.excess num den)) := by
  have whole := fractions_mul_two_pow_excess_le some_excess
  calc f.fractions ≤ num / den / Nat.pow 2 (f.excess num den) :=
        (Nat.le_div_iff_mul_le (Nat.two_pow_pos _)).mpr whole
    _ = num / (den * Nat.pow 2 (f.excess num den)) := Nat.div_div_eq_div_mul _ _ _
    _ ≤ roundQuotient num (den * Nat.pow 2 (f.excess num den)) := div_le_roundQuotient _ _

theorem excess_mono {a b c d : Nat} (left : 0 < b) (right : 0 < d) (le : a * d ≤ c * b) :
    f.excess a b ≤ f.excess c d := by
  have wholes := div_le_div_of_mul_le left right le
  unfold excess
  rcases Nat.eq_zero_or_pos (a / b) with noWhole | some_whole
  · simp [noWhole]
  · have logs : (a / b).log2 ≤ (c / d).log2 :=
      (Nat.le_log2 (by omega)).mpr ((Nat.log2_self_le (by omega)).trans wholes)
    omega

/-- A greater value is not rounded to a lesser magnitude. -/
theorem round_mono {a b c d : Nat} (left : 0 < b) (right : 0 < d) (le : a * d ≤ c * b) :
    f.round a b ≤ f.round c d := by
  refine Nat.le_min.mpr ⟨(Nat.min_le_left _ _).trans ?_, f.round_le_infinity a b⟩
  rcases Nat.lt_or_eq_of_le (f.excess_mono left right le) with less | same
  · have low := f.roundQuotient_excess_le a b
    have high := fractions_le_roundQuotient_excess (f := f) (Nat.zero_lt_of_lt less)
    have shifts : (f.excess a b + 1) * f.fractions ≤ f.excess c d * f.fractions :=
      Nat.mul_le_mul_right _ less
    rw [Nat.succ_mul] at shifts
    omega
  · have scaled : a * (d * Nat.pow 2 (f.excess c d)) ≤ c * (b * Nat.pow 2 (f.excess c d)) := by
      rw [← Nat.mul_assoc, ← Nat.mul_assoc]
      exact Nat.mul_le_mul_right _ le
    rw [same]
    exact Nat.add_le_add_left (roundQuotient_mono
      (Nat.mul_pos left (Nat.two_pow_pos _)) (Nat.mul_pos right (Nat.two_pow_pos _)) scaled) _

/-- What is not greater than the value of a magnitude is rounded to no greater one. -/
theorem round_le {num den magnitude : Nat} (pos : 0 < den) (bounded : magnitude ≤ f.infinity)
    (le : num ≤ f.quanta magnitude * den) : f.round num den ≤ magnitude := by
  calc f.round num den ≤ f.round (f.quanta magnitude) 1 :=
        round_mono pos Nat.one_pos (by rw [Nat.mul_one]; exact le)
    _ = magnitude := round_quanta bounded

/-- What is not less than the value of a magnitude is rounded to no lesser one. -/
theorem le_round {num den magnitude : Nat} (pos : 0 < den) (bounded : magnitude ≤ f.infinity)
    (le : f.quanta magnitude * den ≤ num) : magnitude ≤ f.round num den := by
  calc magnitude = f.round (f.quanta magnitude) 1 := (round_quanta bounded).symm
    _ ≤ f.round num den := round_mono Nat.one_pos pos (by rw [Nat.mul_one]; exact le)

/-- Magnitudes are ordered as their values. -/
theorem quanta_le_quanta_iff {m n : Nat} (left : m ≤ f.infinity) (right : n ≤ f.infinity) :
    f.quanta m ≤ f.quanta n ↔ m ≤ n := by
  have le_of_quanta {m n : Nat} (left : m ≤ f.infinity) (right : n ≤ f.infinity)
      (le : f.quanta m ≤ f.quanta n) : m ≤ n := by
    have rounded : f.round (f.quanta m) 1 ≤ n :=
      round_le Nat.one_pos right (by rw [Nat.mul_one]; exact le)
    rw [round_quanta left] at rounded
    exact rounded
  refine ⟨le_of_quanta left right, fun le => ?_⟩
  rcases Nat.le_total (f.quanta m) (f.quanta n) with done | ge
  · exact done
  · rw [Nat.le_antisymm le (le_of_quanta right left ge)]

end Format

end LidarSieve.Binary
