import Mathlib.Data.List.TakeWhile
import LidarSieve.Binary.Notation
import LidarSieve.Proofs.Decimals
/-!
# Digits of words

Digits that are written for a natural number stand for this number.  Around a point they are cut
into digits in front of it and digits behind it, both of which are there
(`Number.exists_positionalText`); taken together again they are a decimal that reads back as the word
for which they were written.
-/
set_option autoImplicit false

namespace LidarSieve.Text

/-! ## Runs of digits -/

/-- Elements of a kind are taken as a whole, up to where none of the kind comes next. -/
theorem takeWhile_dropWhile_append {α : Type} {p : α → Bool} {run rest : List α}
    (all : ∀ a ∈ run, p a = true) (ends : ∀ a ∈ rest.head?, p a = false) :
    (run ++ rest).takeWhile p = run ∧ (run ++ rest).dropWhile p = rest := by
  have behind : rest.takeWhile p = [] ∧ rest.dropWhile p = rest := by
    cases rest with
    | nil => exact ⟨rfl, rfl⟩
    | cons a more =>
      have other : p a = false := ends a rfl
      simp [other]
  rw [List.takeWhile_append_of_pos all, List.dropWhile_append_of_pos all, behind.1, behind.2,
    List.append_nil]
  exact ⟨rfl, rfl⟩

/-- Only decimal digits. -/
def IsRun (run : List Char) : Prop := ∀ c ∈ run, isDigitOf 10 c = true

/-- Digits that may stand in front of a point: a zero alone, or digits that do not start with a
zero. -/
def IsWhole (run : List Char) : Prop :=
  IsRun run ∧ (run = ['0'] ∨ ∃ c rest, run = c :: rest ∧ c ≠ '0')

theorem isDigitOf_ten_iff (c : Char) : isDigitOf 10 c = true ↔ '0' ≤ c ∧ c ≤ '9' := by
  unfold isDigitOf digitValue
  rw [decide_eq_true_iff]
  constructor
  · intro small
    by_contra other
    rw [if_neg other] at small
    split at small
    · omega
    · split at small
      · omega
      · omega
  · intro digit
    have high : c.toNat ≤ 57 := digit.2
    rw [if_pos digit]
    have zero : '0'.toNat = 48 := rfl
    omega

theorem isDigitOf_of_isDigit {c : Char} (digit : c.isDigit = true) : isDigitOf 10 c = true := by
  rw [isDigitOf_ten_iff]
  simpa [Char.isDigit, Char.le_def] using digit

theorem ne_of_digit {c mark : Char} (digit : isDigitOf 10 c = true)
    (other : isDigitOf 10 mark = false) : c ≠ mark := by
  rintro rfl
  rw [digit] at other
  cases other

/-- A digit is no sign. -/
theorem spanSign_of_digit {c : Char} (digit : isDigitOf 10 c = true) (rest : List Char) :
    spanSign (c :: rest) = (false, c :: rest) := by
  rw [spanSign]
  · exact fun behind same => ne_of_digit digit (by decide) (List.cons.inj same).1
  · exact fun behind same => ne_of_digit digit (by decide) (List.cons.inj same).1

theorem IsRun.append {a b : List Char} (left : IsRun a) (right : IsRun b) : IsRun (a ++ b) := by
  intro c mem
  rcases List.mem_append.mp mem with mem | mem
  · exact left c mem
  · exact right c mem

theorem isRun_zeros (n : Nat) : IsRun (List.replicate n '0') := by
  intro c mem
  rw [List.eq_of_mem_replicate mem]
  decide

theorem isRun_zero : IsRun ['0'] := isRun_zeros 1

theorem isWhole_zero : IsWhole ['0'] := ⟨isRun_zero, .inl rfl⟩

/-- There is a first digit. -/
theorem exists_head_of_isWhole {whole : List Char} (isWhole : IsWhole whole) :
    ∃ c rest, whole = c :: rest ∧ isDigitOf 10 c = true := by
  obtain ⟨digits, rfl | ⟨c, rest, rfl, -⟩⟩ := isWhole
  · exact ⟨_, _, rfl, by decide⟩
  · exact ⟨c, rest, rfl, digits c List.mem_cons_self⟩

theorem isRun_decimalDigits (n : Nat) : IsRun (decimalDigits n) := fun _ mem =>
  isDigitOf_of_isDigit (Nat.isDigit_of_mem_toDigits (by decide) (by decide) mem)

/-! ## Values of runs -/

theorem valueOfDigits_append (a b : List Char) :
    valueOfDigits 10 (a ++ b) = valueOfDigits 10 a * 10 ^ b.length + valueOfDigits 10 b := by
  have start : ∀ total, b.foldl (fun total c => total * 10 + digitValue c) total =
      total * 10 ^ b.length + b.foldl (fun total c => total * 10 + digitValue c) 0 := by
    induction b with
    | nil => simp
    | cons c rest ih =>
      intro total
      rw [List.foldl_cons, List.foldl_cons, ih, ih (0 * 10 + digitValue c), List.length_cons]
      ring
  unfold valueOfDigits
  rw [List.foldl_append]
  exact start _

theorem valueOfDigits_zeros (n : Nat) : valueOfDigits 10 (List.replicate n '0') = 0 := by
  induction n with
  | zero => rfl
  | succ n ih =>
    rw [List.replicate_succ', valueOfDigits_append, ih]
    rfl

theorem valueOfDigits_decimalDigits (n : Nat) : valueOfDigits 10 (decimalDigits n) = n := by
  induction n using Nat.strongRecOn with
  | ind n ih =>
    have last : ∀ digit, digit < 10 → valueOfDigits 10 [digit.digitChar] = digit := by decide
    unfold decimalDigits at ih ⊢
    rw [Nat.toDigits_eq_if (by decide)]
    split
    · rename_i small
      exact last n small
    · rw [valueOfDigits_append, ih (n / 10) (by omega), last _ (Nat.mod_lt _ (by decide))]
      exact Nat.div_add_mod' n 10

/-- The digits of a number other than zero do not start with a zero. -/
theorem decimalDigits_head {n : Nat} (pos : 0 < n) :
    ∃ c rest, decimalDigits n = c :: rest ∧ c ≠ '0' := by
  induction n using Nat.strongRecOn with
  | ind n ih =>
    have first : ∀ digit, digit < 10 → 0 < digit → digit.digitChar ≠ '0' := by decide
    unfold decimalDigits at ih ⊢
    rw [Nat.toDigits_eq_if (by decide)]
    split
    · rename_i small
      exact ⟨_, [], rfl, first n small pos⟩
    · obtain ⟨c, rest, digits, nonzero⟩ := ih (n / 10) (by omega) (by omega)
      rw [digits]
      exact ⟨c, _, rfl, nonzero⟩

theorem isWhole_decimalDigits (n : Nat) : IsWhole (decimalDigits n) := by
  refine ⟨isRun_decimalDigits n, ?_⟩
  rcases Nat.eq_zero_or_pos n with rfl | pos
  · exact .inl rfl
  · exact .inr (decimalDigits_head pos)

/-- What is dropped from the end of a run is zeros. -/
theorem exists_dropTrailingZeros (run : List Char) :
    ∃ zeros, run = dropTrailingZeros run ++ List.replicate zeros '0' := by
  have split := (run.reverse.takeWhile_append_dropWhile (p := (· == '0'))).symm
  have all : ∀ c ∈ run.reverse.takeWhile (· == '0'), c = '0' := fun c mem =>
    eq_of_beq (List.mem_takeWhile_imp (p := (· == '0')) mem)
  refine ⟨(run.reverse.takeWhile (· == '0')).length, ?_⟩
  rw [List.eq_replicate_of_mem all] at split
  have whole := congrArg List.reverse split
  rwa [List.reverse_reverse, List.reverse_append, List.reverse_replicate] at whole

end LidarSieve.Text

namespace LidarSieve.Binary

open LidarSieve.Text

/-! ## Around the point -/

/-- The text is two runs with a point between them, which make up a decimal of the same value. -/
def IsPointed (text : List Char) (d : Decimal) : Prop :=
  ∃ whole fraction, text = whole ++ '.' :: fraction ∧ IsWhole whole ∧ IsRun fraction ∧
    fraction ≠ [] ∧ ∀ (f : Format) negative,
      (Number.ofDecimal negative ⟨valueOfDigits 10 (whole ++ fraction), 0 - fraction.length⟩ :
        Number f) = Number.ofDecimal negative d

section Positional

variable {digits rest : List Char} {c : Char}

/-- The point stands in front of all digits, behind a zero. -/
theorem isPointed_before (run : IsRun digits) (nonempty : digits ≠ []) {point : Int}
    (before : point ≤ 0) :
    IsPointed ('0' :: '.' :: (List.replicate (-point).toNat '0' ++ digits))
      ⟨valueOfDigits 10 digits, point - digits.length⟩ := by
  have value : valueOfDigits 10 (['0'] ++ (List.replicate (-point).toNat '0' ++ digits)) =
      valueOfDigits 10 digits := by
    rw [valueOfDigits_append, valueOfDigits_append, valueOfDigits_zeros]
    simp [valueOfDigits, digitValue]
  refine ⟨['0'], List.replicate (-point).toNat '0' ++ digits, rfl, isWhole_zero,
    (isRun_zeros _).append run, by simp [nonempty], fun f negative => ?_⟩
  rw [value]
  congr 2
  simp
  omega

/-- The point stands behind all digits, and a zero behind it. -/
theorem isPointed_beyond (run : IsRun digits) (head : digits = c :: rest) (nonzero : c ≠ '0')
    {point : Int} (beyond : (digits.length : Int) ≤ point) :
    IsPointed (digits ++ List.replicate (point.toNat - digits.length) '0' ++ ['.', '0'])
      ⟨valueOfDigits 10 digits, point - digits.length⟩ := by
  have size : 0 < digits.length := by simp [head]
  have value : valueOfDigits 10
      (digits ++ List.replicate (point.toNat - digits.length) '0' ++ ['0']) =
      valueOfDigits 10 digits * 10 ^ (point.toNat - digits.length + 1) := by
    rw [List.append_assoc, ← List.replicate_succ', valueOfDigits_append, valueOfDigits_zeros,
      List.length_replicate, Nat.add_zero]
  refine ⟨digits ++ List.replicate (point.toNat - digits.length) '0', ['0'], rfl,
    ⟨run.append (isRun_zeros _), .inr ⟨c, _, by rw [head]; rfl, nonzero⟩⟩, isRun_zero, by simp,
    fun f negative => ?_⟩
  rw [value, Number.ofDecimal_shift]
  congr 2
  simp
  omega

/-- The point stands between two digits. -/
theorem isPointed_inside (run : IsRun digits) (head : digits = c :: rest) (nonzero : c ≠ '0')
    {point : Int} (behind : ¬ point ≤ 0) (inside : ¬ (digits.length : Int) ≤ point) :
    IsPointed (digits.take point.toNat ++ '.' :: digits.drop point.toNat)
      ⟨valueOfDigits 10 digits, point - digits.length⟩ := by
  obtain ⟨places, more⟩ : ∃ places, point.toNat = places + 1 := ⟨point.toNat - 1, by omega⟩
  refine ⟨digits.take point.toNat, digits.drop point.toNat, rfl,
    ⟨fun d mem => run d (List.mem_of_mem_take mem), .inr ?_⟩,
    fun d mem => run d (List.mem_of_mem_drop mem), ?_, fun f negative => ?_⟩
  · exact ⟨c, rest.take places, by rw [head, more]; rfl, nonzero⟩
  · rw [Ne, List.drop_eq_nil_iff]
    omega
  · rw [List.take_append_drop]
    congr 2
    simp
    omega

/-- Digits in positional notation are cut by a point. -/
theorem isPointed_positional (run : IsRun digits) (head : digits = c :: rest) (nonzero : c ≠ '0')
    (point : Int) :
    IsPointed (positional true digits point)
      ⟨valueOfDigits 10 digits, point - digits.length⟩ := by
  unfold positional
  simp only [if_true]
  split_ifs with before beyond
  · exact isPointed_before run (by simp [head]) before
  · exact isPointed_beyond run head nonzero beyond
  · exact isPointed_inside run head nonzero before beyond

end Positional

/-- The digits of a decimal, cut by its point, are a decimal of the same value. -/
theorem Decimal.exists_pointed {d : Decimal} (pos : 0 < d.digits) :
    ∃ c rest, d.pointed.1 = c :: rest ∧ c ≠ '0' ∧ IsRun d.pointed.1 ∧
      ∀ (f : Format) negative,
        (Number.ofDecimal negative
          ⟨valueOfDigits 10 d.pointed.1, d.pointed.2 - d.pointed.1.length⟩ : Number f) =
        Number.ofDecimal negative d := by
  obtain ⟨digits, exponent⟩ := d
  obtain ⟨zeros, split⟩ := exists_dropTrailingZeros (decimalDigits digits)
  obtain ⟨c, rest, head, nonzero⟩ := decimalDigits_head pos
  have value := valueOfDigits_decimalDigits digits
  have size := congrArg List.length split
  unfold pointed
  dsimp only at value size ⊢
  generalize dropTrailingZeros (decimalDigits digits) = kept at split size
  rw [split, valueOfDigits_append, valueOfDigits_zeros, List.length_replicate] at value
  rw [List.length_append, List.length_replicate] at size
  refine ⟨c, kept.tail, ?_, nonzero, fun d mem => ?_, fun f negative => ?_⟩
  · rw [split] at head
    cases kept with
    | nil =>
      exfalso
      cases zeros with
      | zero => cases head
      | succ zeros => exact nonzero (List.cons.inj head).1.symm
    | cons first others =>
      rw [(List.cons.inj head).1]
      rfl
  · refine isRun_decimalDigits digits d ?_
    rw [split]
    exact List.mem_append_left _ mem
  · have whole : (⟨digits, exponent⟩ : Decimal) =
        ⟨valueOfDigits 10 kept * 10 ^ zeros, exponent⟩ := by rw [← value, Nat.add_zero]
    rw [whole, Number.ofDecimal_shift]
    congr 2
    omega

namespace Number

variable {f : Format}

/-- A finite word in positional notation is two runs with a point between them, which make up a
decimal that reads back as the word. -/
theorem exists_positionalText {x : Number f} (finite : x.magnitude < f.infinity) :
    ∃ whole fraction, x.positionalText true = whole ++ '.' :: fraction ∧
      IsWhole whole ∧ IsRun fraction ∧ fraction ≠ [] ∧
      ofDecimal x.negative ⟨valueOfDigits 10 (whole ++ fraction), 0 - fraction.length⟩ = x := by
  unfold positionalText
  by_cases zeroMagnitude : x.magnitude = 0
  · refine ⟨['0'], ['0'], ?_, isWhole_zero, isRun_zero, by simp, ?_⟩
    · rw [isZero, if_pos (decide_eq_true zeroMagnitude)]
      rfl
    · exact ext_magnitude rfl zeroMagnitude.symm
  · rw [isZero, if_neg (by simpa using zeroMagnitude)]
    obtain ⟨c, rest, head, nonzero, run, same⟩ :=
      Decimal.exists_pointed (digits_shortest_pos finite zeroMagnitude)
    obtain ⟨whole, fraction, text, isWhole, isRun, nonempty, value⟩ :=
      isPointed_positional run head nonzero x.shortest.pointed.2
    refine ⟨whole, fraction, text, isWhole, isRun, nonempty, ?_⟩
    rw [value, same]
    exact ofDecimal_shortest finite

end Number

end LidarSieve.Binary
