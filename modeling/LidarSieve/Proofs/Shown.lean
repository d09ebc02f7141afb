import Mathlib.Data.List.TakeDrop
import Mathlib.Data.List.TakeWhile
import LidarSieve.Proofs.Numerals
import LidarSieve.Proofs.Order
/-!
# Words that are shown are read

The detailed text of a word, in positional or in scientific notation, is read as this word again
(`Number.parse?_detailed`).  So nothing is lost when a word is shown, but which not-a-number it was:
two words are shown alike exactly if they are the same word, or no numbers both
(`Number.detailed_eq_iff`).
-/
set_option autoImplicit false

namespace LidarSieve

open LidarSieve.Text

namespace Text

/-! ## Where digits end -/

/-- No digit comes next. -/
def NoDigitNext (rest : List Char) : Prop := ∀ c ∈ rest.head?, isDigitOf 10 c = false

theorem noDigitNext_nil : NoDigitNext [] := fun _ mem => nomatch mem

theorem noDigitNext_cons {c : Char} (other : isDigitOf 10 c = false) (rest : List Char) :
    NoDigitNext (c :: rest) := by
  intro d first
  cases first
  exact other

/-- A run of digits ends where no digit comes next. -/
theorem spanDigits_append {run rest : List Char} (digits : IsRun run) (ends : NoDigitNext rest) :
    spanDigits (run ++ rest) = (run, rest) := by
  obtain ⟨front, behind⟩ := takeWhile_dropWhile_append digits ends
  unfold spanDigits
  rw [List.span_eq_takeWhile_dropWhile, front, behind]

/-- Digits have no other case. -/
theorem toLower_of_digit {c : Char} (digit : isDigitOf 10 c = true) : c.toLower = c := by
  have high : c.val ≤ 57 := ((isDigitOf_ten_iff c).mp digit).2
  unfold Char.toLower
  split
  · rename_i upper
    have low : 65 ≤ c.val := upper.1
    exact absurd (UInt32.le_trans low high) (by decide)
  · rfl

end Text

namespace Binary

/-! ## Exponents -/

theorem readExponent?_integerText (i : Int) :
    Number.readExponent? ('e' :: integerText i) = some i := by
  obtain ⟨c, rest, head, digit⟩ := exists_head_of_isWhole (isWhole_decimalDigits i.natAbs)
  have digits : (decimalDigits i.natAbs).all (isDigitOf 10) = true :=
    List.all_eq_true.mpr (isRun_decimalDigits i.natAbs)
  have nonempty : (decimalDigits i.natAbs).isEmpty = false := by rw [head]; rfl
  have value := valueOfDigits_decimalDigits i.natAbs
  have sign : spanSign (integerText i) = (decide (i < 0), decimalDigits i.natAbs) := by
    unfold integerText
    split_ifs with negative
    · rw [decide_eq_true negative]
      rfl
    · rw [decide_eq_false negative, head]
      exact spanSign_of_digit digit rest
  rw [Number.readExponent?, if_pos (by decide), sign]
  dsimp only
  rw [nonempty, digits, value, if_neg (by decide)]
  split_ifs with negative
  · have below := of_decide_eq_true negative
    congr 1
    omega
  · have above := of_decide_eq_false (eq_false_of_ne_true negative)
    congr 1
    omega

/-! ## Decimals -/

namespace Number

/-- Digits in front of a point and digits behind it, with an exponent. -/
theorem readDecimal?_point {whole fraction rest : List Char} {exponent : Int} (front : IsRun whole)
    (nonempty : whole ≠ []) (behind : IsRun fraction) (ends : NoDigitNext rest)
    (read : readExponent? rest = some exponent) :
    readDecimal? (whole ++ '.' :: (fraction ++ rest)) =
      some ⟨valueOfDigits 10 (whole ++ fraction), exponent - fraction.length⟩ := by
  unfold readDecimal?
  rw [spanDigits_append front (noDigitNext_cons (by decide) _)]
  dsimp only
  split
  · rename_i more same
    obtain rfl : fraction ++ rest = more := (List.cons.inj same).2
    rw [spanDigits_append behind ends, List.isEmpty_eq_false_iff.mpr nonempty, read]
    rfl
  · rename_i noPoint
    exact absurd rfl (noPoint _)

/-- Digits with an exponent. -/
theorem readDecimal?_whole {whole rest : List Char} {exponent : Int} (front : IsRun whole)
    (nonempty : whole ≠ []) (ends : NoDigitNext rest) (noPoint : ∀ more, rest ≠ '.' :: more)
    (read : readExponent? rest = some exponent) :
    readDecimal? (whole ++ rest) = some ⟨valueOfDigits 10 whole, exponent⟩ := by
  unfold readDecimal?
  rw [spanDigits_append front ends]
  dsimp only
  split
  · rename_i more
    exact absurd rfl (noPoint more)
  · rw [List.isEmpty_eq_false_iff.mpr nonempty, read, List.append_nil]
    simp

/-- Scientific notation is read as the digits and the place of the point. -/
theorem readDecimal?_scientific {digits : List Char} (run : IsRun digits) (nonempty : digits ≠ [])
    (point : Int) :
    readDecimal? (scientific digits point) =
      some ⟨valueOfDigits 10 digits, point - digits.length⟩ := by
  have read := readExponent?_integerText (point - 1)
  have ends : NoDigitNext ('e' :: integerText (point - 1)) := noDigitNext_cons (by decide) _
  match digits, nonempty with
  | [d], _ => exact readDecimal?_whole run (List.cons_ne_nil d []) ends (by simp) read
  | d :: e :: more, _ =>
    have front : IsRun [d] := fun c mem => run c (by simp_all)
    have behind : IsRun (e :: more) := fun c mem => run c (List.mem_cons_of_mem d mem)
    have decimal := readDecimal?_point front (List.cons_ne_nil d []) behind ends read
    refine Eq.trans ?_ (decimal.trans ?_)
    · simp [scientific]
    · congr 2
      simp
      omega

variable {f : Format}

/-! ## Words -/

theorem toList_signed (x : Number f) (text : List Char) :
    (x.signed text).toList = if x.negative then '-' :: text else text := String.toList_ofList

theorem parse?_signed (x : Number f) {c : Char} {rest : List Char} {d : Decimal}
    (digit : isDigitOf 10 c = true) (read : readDecimal? (c :: rest) = some d) :
    parse? (x.signed (c :: rest)) = some (ofDecimal x.negative d : Number f) := by
  have sign : spanSign (x.signed (c :: rest)).toList = (x.negative, c :: rest) := by
    rw [toList_signed]
    cases x.negative with
    | true => rfl
    | false => exact spanSign_of_digit digit rest
  -- No name starts with a digit.
  have unnamed {mark : Char} {more : List Char} (other : isDigitOf 10 mark = false) :
      (String.ofList ((c :: rest).map Char.toLower) == String.ofList (mark :: more)) = false := by
    rw [beq_eq_false_iff_ne]
    intro same
    have lists := congrArg String.toList same
    rw [String.toList_ofList, String.toList_ofList, List.map_cons, toLower_of_digit digit] at lists
    exact ne_of_digit digit other (List.cons.inj lists).1
  have inf : "inf" = String.ofList ['i', 'n', 'f'] := rfl
  have infinity : "infinity" = String.ofList ['i', 'n', 'f', 'i', 'n', 'i', 't', 'y'] := rfl
  have nan : "nan" = String.ofList ['n', 'a', 'n'] := rfl
  unfold parse?
  rw [sign]
  dsimp only
  rw [inf, infinity, nan, unnamed (by decide), unnamed (by decide), unnamed (by decide), read]
  rfl

theorem parse?_infinity (negative : Bool) :
    parse? ((infinity negative : Number f).signed ['i', 'n', 'f']) =
      some (infinity negative : Number f) := by
  unfold parse?
  rw [toList_signed]
  cases negative <;> rfl

/-- A word is read as it was shown. -/
theorem parse?_detailed {x : Number f} (number : x.isNaN = false) : parse? x.detailed = some x := by
  unfold detailed
  rw [number, if_neg Bool.false_ne_true]
  rcases x.kinds with nan | infinite | finite
  · rw [number] at nan
    cases nan
  · rw [if_pos infinite, eq_infinity_of_isInfinite infinite]
    exact parse?_infinity x.negative
  · have bounded : x.magnitude < f.infinity := of_decide_eq_true finite
    rw [isInfinite_of_isFinite finite, if_neg Bool.false_ne_true]
    split_ifs with inRange
    · obtain ⟨whole, fraction, text, isWhole, run, nonempty, value⟩ := exists_positionalText bounded
      obtain ⟨c, rest, rfl, digit⟩ := exists_head_of_isWhole isWhole
      have read := readDecimal?_point isWhole.1 (List.cons_ne_nil c rest) run noDigitNext_nil
        (show readExponent? [] = some 0 from rfl)
      rw [List.append_nil] at read
      rw [text]
      rw [List.cons_append] at read ⊢
      rw [parse?_signed x digit read, value]
    · have nonzero : x.magnitude ≠ 0 := by
        intro zeroMagnitude
        exact inRange (by simp [isZero, zeroMagnitude])
      obtain ⟨c, rest, head, -, run, same⟩ :=
        Decimal.exists_pointed (digits_shortest_pos bounded nonzero)
      have nonempty : x.shortest.pointed.1 ≠ [] := by
        rw [head]
        exact List.cons_ne_nil c rest
      have read := readDecimal?_scientific run nonempty x.shortest.pointed.2
      have digit : isDigitOf 10 c = true := run c (by rw [head]; exact List.mem_cons_self)
      obtain ⟨more, text⟩ : ∃ more,
          scientific x.shortest.pointed.1 x.shortest.pointed.2 = c :: more := by
        rw [head]
        cases rest with
        | nil => exact ⟨_, rfl⟩
        | cons d others => exact ⟨_, rfl⟩
      dsimp only
      rw [text] at read ⊢
      rw [parse?_signed x digit read, same, ofDecimal_shortest bounded]

theorem detailed_eq_nan_iff {x : Number f} : x.detailed = "NaN" ↔ x.isNaN = true := by
  constructor
  · intro shown
    by_contra number
    have read := parse?_detailed (Bool.eq_false_of_not_eq_true number)
    have name : parse? "NaN" = some (nan : Number f) := rfl
    rw [shown, name] at read
    rw [← Option.some.inj read] at number
    exact number isNaN_nan
  · intro nan
    unfold detailed
    rw [if_pos nan]

/-- Two words are shown alike exactly if they are the same word, or no numbers both. -/
theorem detailed_eq_iff {x y : Number f} :
    x.detailed = y.detailed ↔ x = y ∨ x.isNaN = true ∧ y.isNaN = true := by
  constructor
  · intro same
    have alike : x.isNaN = y.isNaN := by
      rw [Bool.eq_iff_iff, ← detailed_eq_nan_iff, same, detailed_eq_nan_iff]
    cases left : x.isNaN with
    | true => exact .inr ⟨rfl, alike.symm.trans left⟩
    | false =>
      have read := parse?_detailed left
      rw [same, parse?_detailed (alike.symm.trans left)] at read
      exact .inl (Option.some.inj read).symm
  · rintro (rfl | ⟨left, right⟩)
    · rfl
    · rw [detailed_eq_nan_iff.mpr left, detailed_eq_nan_iff.mpr right]

end Number

end Binary

end LidarSieve
