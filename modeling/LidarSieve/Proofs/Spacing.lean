import LidarSieve.Proofs.Rounding
/-!
# How far rounding goes

A rounded value differs from the exact one by at most half the weight of the last place that is kept,
`2 ^ f.excess num den` quanta (`Format.two_mul_quanta_round_le`, `Format.two_mul_le_quanta_round`).
So whole numbers of quanta that are further apart than one such place stay apart when they are
rounded (`Format.round_lt_round`).  For values of the format itself the places are the steps from one
magnitude to the next (`Format.quanta_succ`).
-/
set_option autoImplicit false

namespace LidarSieve.Binary

/-! ## Nearest natural numbers -/

theorem two_mul_roundQuotient_le (num : Nat) {den : Nat} (pos : 0 < den) :
    2 * (roundQuotient num den * den) ≤ 2 * num + den := by
  have whole := Nat.div_add_mod' num den
  have rest := Nat.mod_lt num pos
  have next : (num / den + 1) * den = num / den * den + den := Nat.succ_mul _ _
  unfold roundQuotient
  dsimp only
  split_ifs with low high
  · omega
  · omega
  · -- A tie is rounded up by one if the whole part is odd.
    rcases Nat.mod_two_eq_zero_or_one (num / den) with even | odd
    · rw [even, Nat.add_zero]
      omega
    · rw [odd]
      omega

theorem two_mul_le_roundQuotient (num : Nat) {den : Nat} (pos : 0 < den) :
    2 * num ≤ 2 * (roundQuotient num den * den) + den := by
  have whole := Nat.div_add_mod' num den
  have rest := Nat.mod_lt num pos
  have next : (num / den + 1) * den = num / den * den + den := Nat.succ_mul _ _
  unfold roundQuotient
  dsimp only
  split_ifs with low high
  · omega
  · omega
  · rcases Nat.mod_two_eq_zero_or_one (num / den) with even | odd
    · rw [even, Nat.add_zero]
      omega
    · rw [odd]
      omega

namespace Format

variable {f : Format}

/-! ## The value of a rounded magnitude -/

/-- Short of the infinity, the value of a rounded magnitude is its significand, shifted. -/
theorem quanta_round {num den : Nat} (finite : f.round num den < f.infinity) :
    f.quanta (f.round num den) =
      roundQuotient num (den * 2 ^ f.excess num den) * 2 ^ f.excess num den := by
  have below := f.roundQuotient_excess_le num den
  have full (some_excess : 0 < f.excess num den) :=
    fractions_le_roundQuotient_excess some_excess
  have value : f.round num den = f.excess num den * f.fractions +
      roundQuotient num (den * Nat.pow 2 (f.excess num den)) := by
    unfold round at finite ⊢
    dsimp only at finite ⊢
    omega
  rw [value]
  simp only [Nat.pow_eq] at below full ⊢
  generalize f.excess num den = e at below full ⊢
  generalize roundQuotient num (den * 2 ^ e) = significand at below full ⊢
  rcases Nat.lt_or_eq_of_le below with less | carried
  · refine quanta_shifted ⟨less, ?_⟩
    rcases Nat.eq_zero_or_pos e with no_excess | some_excess
    · exact .inl no_excess
    · exact .inr (full some_excess)
  · -- The significand was rounded up to the next power of two, which is one place more.
    have pos := f.fractions_pos
    have carry : e * f.fractions + significand = (e + 1) * f.fractions + f.fractions := by
      rw [carried, Nat.succ_mul e]
      omega
    rw [carry, quanta_shifted ⟨by omega, .inr (Nat.le_refl _)⟩, carried]
    ring

/-- A value is rounded up by half a place at most. -/
theorem two_mul_quanta_round_le {num den : Nat} (pos : 0 < den)
    (finite : f.round num den < f.infinity) :
    2 * (f.quanta (f.round num den) * den) ≤ 2 * num + den * 2 ^ f.excess num den := by
  have near := two_mul_roundQuotient_le num
    (Nat.mul_pos pos (Nat.two_pow_pos (f.excess num den)))
  rw [quanta_round finite, Nat.mul_assoc, Nat.mul_comm _ den]
  exact near

/-- A value is rounded down by half a place at most. -/
theorem two_mul_le_quanta_round {num den : Nat} (pos : 0 < den)
    (finite : f.round num den < f.infinity) :
    2 * num ≤ 2 * (f.quanta (f.round num den) * den) + den * 2 ^ f.excess num den := by
  have near := two_mul_le_roundQuotient num
    (Nat.mul_pos pos (Nat.two_pow_pos (f.excess num den)))
  rw [quanta_round finite, Nat.mul_assoc, Nat.mul_comm _ den]
  exact near

/-- Numbers that are further apart than a place of the greater one are rounded apart. -/
theorem round_lt_round {m n : Nat} (apart : m + 2 ^ f.excess n 1 < n)
    (finite : f.round n 1 < f.infinity) : f.round m 1 < f.round n 1 := by
  have le : m * 1 ≤ n * 1 :=
    Nat.mul_le_mul_right 1 ((Nat.le_add_right m _).trans (Nat.le_of_lt apart))
  have mono : f.round m 1 ≤ f.round n 1 := round_mono Nat.one_pos Nat.one_pos le
  have places : 2 ^ f.excess m 1 ≤ 2 ^ f.excess n 1 :=
    Nat.pow_le_pow_right (by decide) (f.excess_mono Nat.one_pos Nat.one_pos le)
  have low := two_mul_quanta_round_le Nat.one_pos (mono.trans_lt finite)
  have high := two_mul_le_quanta_round Nat.one_pos finite
  rcases Nat.lt_or_eq_of_le mono with less | same
  · exact less
  · rw [same] at low
    omega

/-! ## From one magnitude to the next -/

/-- The next magnitude is one place further. -/
theorem quanta_succ {k a : Nat} (shifted : f.IsShifted k a) :
    f.quanta (k * f.fractions + a + 1) = (a + 1) * 2 ^ k := by
  obtain ⟨below, full⟩ := shifted
  have pos := f.fractions_pos
  rcases Nat.lt_or_eq_of_le (Nat.succ_le_of_lt below) with less | carried
  · exact quanta_shifted ⟨less, full.imp_right (Nat.le_trans · (Nat.le_succ a))⟩
  · have carry : k * f.fractions + a + 1 = (k + 1) * f.fractions + f.fractions := by
      rw [Nat.succ_mul]
      omega
    have significand : a + 1 = 2 * f.fractions := carried
    rw [carry, quanta_shifted ⟨by omega, .inr (Nat.le_refl _)⟩, significand]
    ring

/-- The magnitude after the next is two or three places further. -/
theorem quanta_succ_succ {k a : Nat} (shifted : f.IsShifted k a) :
    (a + 2) * 2 ^ k ≤ f.quanta (k * f.fractions + a + 2) ∧
      f.quanta (k * f.fractions + a + 2) ≤ (a + 3) * 2 ^ k := by
  obtain ⟨below, full⟩ := shifted
  have pos := f.fractions_pos
  rcases Nat.lt_or_eq_of_le (Nat.succ_le_of_lt below) with less | carried
  · have next : f.IsShifted k (a + 1) := ⟨less, full.imp_right (Nat.le_trans · (Nat.le_succ a))⟩
    have value := quanta_succ next
    rw [← Nat.add_assoc] at value
    rw [value]
    exact ⟨Nat.le_refl _, Nat.mul_le_mul_right _ (Nat.le_succ _)⟩
  · have next : f.IsShifted (k + 1) f.fractions := ⟨by omega, .inr (Nat.le_refl _)⟩
    have carry : k * f.fractions + a + 2 = (k + 1) * f.fractions + f.fractions + 1 := by
      rw [Nat.succ_mul]
      omega
    have significand : a + 1 = 2 * f.fractions := carried
    have value : (f.fractions + 1) * 2 ^ (k + 1) = (a + 3) * 2 ^ k := by
      have twice : a + 3 = 2 * (f.fractions + 1) := by omega
      rw [twice]
      ring
    rw [carry, quanta_succ next, value]
    exact ⟨Nat.mul_le_mul_right _ (Nat.le_succ _), Nat.le_refl _⟩

end Format

end LidarSieve.Binary
