import LidarSieve.Toml.Document
import LidarSieve.Toml.Writer
import LidarSieve.Proofs.Numerals
/-!
# Values that are written are read

What the writer writes for a value is read as this value again, up to the line break or the comma
that stands behind it.
-/
set_option autoImplicit false

namespace LidarSieve.Toml

open LidarSieve.Text LidarSieve.Binary

/-- A line break or a comma comes next. -/
def Ends (stop : List Char) : Prop := ∃ c rest, stop = c :: rest ∧ (c = '\n' ∨ c = ',')

/-- The text starts with a character that belongs to a value. -/
def Begins (text : List Char) : Prop :=
  ∃ c rest, text = c :: rest ∧ isBlank c = false ∧ c ∉ ['\n', '\r', '#', ']']

/-- The reader takes the text for the value, whatever stands behind it. -/
structure Spells (item : Reader Value) (text : List Char) (value : Value) : Prop where
  begins : Begins text
  reads : ∀ stop, Ends stop → item (text ++ stop) = some (value, stop)

/-! ## Digits -/

theorem readMoreDigits_append {run : List Char} (digits : IsRun run) {c : Char}
    (other : isDigitOf 10 c = false) (noMark : c ≠ '_') (rest : List Char) :
    readMoreDigits 10 (run ++ c :: rest) = some (run, c :: rest) := by
  induction run with
  | nil =>
    rw [List.nil_append, readMoreDigits]
    · rw [if_neg (by simp [other])]
    · exact fun d more same => absurd same noMark
    · exact fun same => absurd same noMark
  | cons d run ih =>
    have digit : isDigitOf 10 d = true := digits d List.mem_cons_self
    have mark : d ≠ '_' := ne_of_digit digit (by decide)
    rw [List.cons_append, readMoreDigits, if_pos digit,
      ih fun c mem => digits c (List.mem_cons_of_mem _ mem)]
    · rfl
    · exact fun e more same => absurd same mark
    · exact fun same => absurd same mark

theorem readDigits_append {run : List Char} (digits : IsRun run) (nonempty : run ≠ []) {c : Char}
    (other : isDigitOf 10 c = false) (noMark : c ≠ '_') (rest : List Char) :
    readDigits 10 (run ++ c :: rest) = some (run, c :: rest) := by
  cases run with
  | nil => exact absurd rfl nonempty
  | cons d run =>
    rw [List.cons_append, readDigits, if_pos (digits d List.mem_cons_self),
      readMoreDigits_append (fun c mem => digits c (List.mem_cons_of_mem _ mem)) other noMark]
    rfl

theorem readWhole_append {whole : List Char} (isWhole : IsWhole whole) {c : Char}
    (other : isDigitOf 10 c = false) (noMark : c ≠ '_') (rest : List Char) :
    readWhole (whole ++ c :: rest) = some (whole, c :: rest) := by
  obtain ⟨digits, rfl | ⟨d, behind, rfl, nonzero⟩⟩ := isWhole
  · rfl
  · rw [List.cons_append, readWhole, ← List.cons_append]
    · exact readDigits_append digits (by simp) other noMark rest
    · intro more same
      exact nonzero (List.cons.inj same).1

/-! ## Numbers -/

theorem Ends.cases {stop : List Char} (ends : Ends stop) :
    ∃ c rest, stop = c :: rest ∧ isDigitOf 10 c = false ∧ c ≠ '_' ∧ c ≠ '.' ∧ c ≠ 'e' ∧ c ≠ 'E' ∧
      c ≠ '-' ∧ c ≠ ':' ∧ c ≠ 'x' ∧ c ≠ 'o' ∧ c ≠ 'b' := by
  obtain ⟨c, rest, rfl, rfl | rfl⟩ := ends
  · exact ⟨_, rest, rfl, by decide⟩
  · exact ⟨_, rest, rfl, by decide⟩

/-- Two runs with a point between them are read as the decimal that they make up. -/
theorem readDecimal_point {whole fraction stop : List Char} (isWhole : IsWhole whole)
    (digits : IsRun fraction) (nonempty : fraction ≠ []) (ends : Ends stop) (minus : Bool) :
    readDecimal minus (whole ++ '.' :: fraction ++ stop) =
      (real? (Number.ofDecimal minus
        ⟨valueOfDigits 10 (whole ++ fraction), 0 - fraction.length⟩)).map (·, stop) := by
  obtain ⟨c, rest, rfl, other, noMark, -, noExponent, noPower, -⟩ := ends.cases
  have exponent : readOptionalExponent (c :: rest) = some (0, c :: rest) := by
    rw [readOptionalExponent]
    · exact fun more same => noExponent (List.cons.inj same).1
    · exact fun more same => noPower (List.cons.inj same).1
  unfold readDecimal
  rw [List.append_assoc, List.cons_append, readWhole_append isWhole (by decide) (by decide)]
  simp only [Option.bind_eq_bind, Option.bind_some]
  rw [readDigits_append digits nonempty other noMark, Option.bind_some, exponent, Option.bind_some,
    decimal?, Option.map_eq_bind]
  rfl

/-- A run alone is read as the number that it stands for. -/
theorem readDecimal_whole {whole stop : List Char} (isWhole : IsWhole whole) (ends : Ends stop) :
    readDecimal false (whole ++ stop) = (integer? (valueOfDigits 10 whole)).map (·, stop) := by
  obtain ⟨c, rest, rfl, other, noMark, noPoint, noExponent, noPower, -⟩ := ends.cases
  unfold readDecimal
  rw [readWhole_append isWhole other noMark]
  simp only [Option.bind_eq_bind, Option.bind_some]
  split
  · rename_i more same
    exact absurd (List.cons.inj same).1 noPoint
  · rename_i more same
    exact absurd (List.cons.inj same).1 noExponent
  · rename_i more same
    exact absurd (List.cons.inj same).1 noPower
  · rw [if_neg Bool.false_ne_true, Option.map_eq_bind]
    rfl

/-- The characters in front of a mark are not digits all of them, unless the mark stands in the run
or is the first character behind it. -/
theorem no_split {run rest : List Char} {c mark : Char} (other : isDigitOf 10 c = false)
    (ne : c ≠ mark) (absent : mark ∉ run) {n : Nat} {behind : List Char}
    (front : ((run ++ c :: rest).take n).all (isDigitOf 10) = true)
    (next : (run ++ c :: rest).drop n = mark :: behind) : False := by
  have at_n : (run ++ c :: rest)[n]? = some mark := by
    rw [← List.head?_drop, next]
    rfl
  rcases Nat.lt_trichotomy n run.length with less | same | more
  · rw [List.getElem?_append_left less] at at_n
    exact absent (List.mem_of_getElem? at_n)
  · rw [same, List.getElem?_append_right (Nat.le_refl _), Nat.sub_self] at at_n
    exact ne (Option.some.inj at_n)
  · have held : c ∈ (run ++ c :: rest).take n := by
      rw [List.take_append, List.mem_append]
      obtain ⟨places, places_eq⟩ : ∃ places, n - run.length = places + 1 :=
        ⟨n - run.length - 1, by omega⟩
      rw [places_eq, List.take_succ_cons]
      exact .inr List.mem_cons_self
    rw [List.all_eq_true] at front
    rw [front c held] at other
    cases other

theorem eq_of_readFixed {n : Nat} {text rest : List Char} {value : Nat}
    (read : readFixed n text = some (value, rest)) :
    (text.take n).all (isDigitOf 10) = true ∧ rest = text.drop n := by
  unfold readFixed at read
  dsimp only at read
  split at read
  · rename_i digits
    cases read
    exact ⟨digits.2, rfl⟩
  · cases read

theorem eq_of_skipMark {mark : Char} {text rest : List Char}
    (read : skipMark mark text = some rest) : text = mark :: rest := by
  cases text with
  | nil => cases read
  | cons c more =>
    rw [skipMark] at read
    split at read
    · rename_i same
      cases read
      rw [same]
    · cases read

/-- Dates and times have a dash or a colon behind some digits. -/
theorem readMoment_eq_none {text : List Char}
    (no : ∀ n mark behind, 0 < n → mark = '-' ∨ mark = ':' →
      (text.take n).all (isDigitOf 10) = true → text.drop n = mark :: behind → False) :
    readMoment text = none := by
  have noDate : skipDate? text = none := by
    rw [Option.eq_none_iff_forall_ne_some]
    intro rest date
    obtain ⟨⟨year, behind⟩, fixed, date⟩ := Option.bind_eq_some_iff.mp date
    obtain ⟨month, mark, -⟩ := Option.bind_eq_some_iff.mp date
    obtain ⟨digits, rfl⟩ := eq_of_readFixed fixed
    exact no 4 '-' month (by decide) (.inl rfl) digits (eq_of_skipMark mark)
  have noTime : skipTime? text = none := by
    rw [Option.eq_none_iff_forall_ne_some]
    intro rest time
    obtain ⟨⟨hour, behind⟩, part, time⟩ := Option.bind_eq_some_iff.mp time
    obtain ⟨minute, mark, -⟩ := Option.bind_eq_some_iff.mp time
    obtain ⟨⟨n, front⟩, fixed, part⟩ := Option.bind_eq_some_iff.mp part
    obtain ⟨digits, rfl⟩ := eq_of_readFixed fixed
    simp only [Option.ite_none_right_eq_some, Option.some.injEq, Prod.mk.injEq] at part
    obtain ⟨-, rfl, rfl⟩ := part
    exact no 2 ':' minute (by decide) (.inr rfl) digits (eq_of_skipMark mark)
  unfold readMoment skipMoment?
  rw [noDate]
  dsimp only
  rw [noTime]
  rfl

/-- What starts with a character that no other kind of value starts with is a number. -/
theorem readValue_number {c : Char} {rest : List Char}
    (other : c ∉ ['"', apostrophe, '[', '{', 't', 'f'])
    (no : readMoment (c :: rest) = none) (levels : Nat) :
    readValue levels (c :: rest) = readNumber (c :: rest) := by
  simp only [List.mem_cons, List.not_mem_nil, or_false, not_or] at other
  obtain ⟨noQuote, noApostrophe, noBracket, noBrace, noT, noF⟩ := other
  rw [readValue, no]
  · rfl
  · exact fun more same => noQuote (List.cons.inj same).1
  · exact fun more same => noApostrophe (List.cons.inj same).1
  · exact fun more same => noT (List.cons.inj same).1
  · exact fun more same => noF (List.cons.inj same).1
  · exact fun fewer more first same => noBracket (List.cons.inj same).1
  · exact fun fewer more first same => noBrace (List.cons.inj same).1

/-- Digits with one other character behind them are no date and no time, unless it is a dash or a
colon. -/
theorem readMoment_digits {run rest : List Char} (digits : IsRun run) {c : Char}
    (other : isDigitOf 10 c = false) (noDash : c ≠ '-') (noColon : c ≠ ':') :
    readMoment (run ++ c :: rest) = none := by
  refine readMoment_eq_none fun n mark behind _ isMark front next => ?_
  have absent : mark ∉ run := by
    intro mem
    have digit := digits mark mem
    rcases isMark with rfl | rfl
    · exact ne_of_digit digit (by decide) rfl
    · exact ne_of_digit digit (by decide) rfl
  refine no_split other ?_ absent front next
  rcases isMark with rfl | rfl
  · exact noDash
  · exact noColon

theorem readMoment_head {c : Char} (other : isDigitOf 10 c = false) (rest : List Char) :
    readMoment (c :: rest) = none := by
  refine readMoment_eq_none fun n mark behind pos _ front _ => ?_
  obtain ⟨places, rfl⟩ : ∃ places, n = places + 1 := ⟨n - 1, by omega⟩
  rw [List.take_succ_cons, List.all_cons, other] at front
  cases front

/-- Names of words do not start with a digit. -/
theorem readSpecial_of_digit {c : Char} (digit : isDigitOf 10 c = true) (minus : Bool)
    (rest : List Char) : readSpecial minus (c :: rest) = none := by
  rw [readSpecial]
  · exact fun behind same => ne_of_digit digit (by decide) (List.cons.inj same).1
  · exact fun behind same => ne_of_digit digit (by decide) (List.cons.inj same).1

/-- A text of digits that another character ends is no number of another base and has no sign. -/
theorem readNumber_whole {whole rest : List Char} (isWhole : IsWhole whole) {c : Char}
    (noMark : c ∉ ['x', 'o', 'b']) :
    readNumber (whole ++ c :: rest) = readDecimal false (whole ++ c :: rest) := by
  obtain ⟨d, more, rfl, digit⟩ := exists_head_of_isWhole isWhole
  have second : ∀ mark behind, mark ∈ ['x', 'o', 'b'] →
      d :: more ++ c :: rest ≠ '0' :: mark :: behind := by
    intro mark behind isMark same
    cases more with
    | nil =>
      have next := (List.cons.inj (List.cons.inj same).2).1
      exact noMark (next ▸ isMark)
    | cons e more =>
      have next := (List.cons.inj (List.cons.inj same).2).1
      have isDigit := isWhole.1 e (List.mem_cons_of_mem _ List.mem_cons_self)
      rw [next] at isDigit
      simp only [List.mem_cons, List.not_mem_nil, or_false] at isMark
      rcases isMark with rfl | rfl | rfl <;> revert isDigit <;> decide
  rw [readNumber]
  · rw [List.cons_append, spanSign_of_digit digit]
    dsimp only
    rw [readSpecial_of_digit digit, Option.none_or]
  · exact fun behind => second 'x' behind (by decide)
  · exact fun behind => second 'o' behind (by decide)
  · exact fun behind => second 'b' behind (by decide)

/-- A minus is the sign of what stands behind it. -/
theorem readNumber_minus (text : List Char) :
    readNumber ('-' :: text) = (readSpecial true text).or (readDecimal true text) := rfl

theorem begins_of_digit {c : Char} (digit : isDigitOf 10 c = true) (rest : List Char) :
    Begins (c :: rest) := by
  refine ⟨c, rest, rfl, ?_, ?_⟩
  · unfold isBlank
    rw [beq_false_of_ne (ne_of_digit digit (by decide)),
      beq_false_of_ne (ne_of_digit digit (by decide))]
    rfl
  · intro mem
    simp only [List.mem_cons, List.not_mem_nil, or_false] at mem
    rcases mem with rfl | rfl | rfl | rfl <;> revert digit <;> decide

theorem not_mem_openings_of_digit {c : Char} (digit : isDigitOf 10 c = true) :
    c ∉ ['"', apostrophe, '[', '{', 't', 'f'] := by
  intro mem
  simp only [List.mem_cons, List.not_mem_nil, or_false] at mem
  rcases mem with rfl | rfl | rfl | rfl | rfl | rfl <;> revert digit <;> decide

/-- A text that starts with digits is read as a number without a sign. -/
theorem readValue_whole {whole rest : List Char} (isWhole : IsWhole whole) {c : Char}
    (other : isDigitOf 10 c = false) (noMark : c ∉ ['x', 'o', 'b', '-', ':']) (levels : Nat) :
    readValue levels (whole ++ c :: rest) = readDecimal false (whole ++ c :: rest) := by
  simp only [List.mem_cons, List.not_mem_nil, or_false, not_or] at noMark
  obtain ⟨noHex, noOctal, noBinary, noDash, noColon⟩ := noMark
  have no : readMoment (whole ++ c :: rest) = none :=
    readMoment_digits isWhole.1 other noDash noColon
  rw [← readNumber_whole isWhole (by simp [noHex, noOctal, noBinary])]
  obtain ⟨d, more, rfl, digit⟩ := exists_head_of_isWhole isWhole
  exact readValue_number (not_mem_openings_of_digit digit) no levels

/-! ## Counts, flags and words -/

/-- A count is read as the integer that was written. -/
theorem spells_count {n : Nat} (held : n ≤ maxInteger) (levels : Nat) :
    Spells (readValue levels) (decimalDigits n) (.integer n) where
  begins := by
    obtain ⟨c, rest, digits, digit⟩ := exists_head_of_isWhole (isWhole_decimalDigits n)
    rw [digits]
    exact begins_of_digit digit rest
  reads stop ends := by
    have read := readDecimal_whole (isWhole_decimalDigits n) ends
    obtain ⟨c, rest, rfl, other, -, -, -, -, noDash, noColon, noHex, noOctal, noBinary⟩ :=
      ends.cases
    rw [readValue_whole (isWhole_decimalDigits n) other
      (by simp [noDash, noColon, noHex, noOctal, noBinary]), read, valueOfDigits_decimalDigits,
      integer?, if_pos]
    · rfl
    · unfold maxInteger at held
      omega

theorem spells_flag (flag : Bool) (levels : Nat) :
    Spells (readValue levels) (writeFlag flag) (.flag flag) where
  begins := by
    cases flag with
    | true => exact ⟨'t', ['r', 'u', 'e'], rfl, by decide, by decide⟩
    | false => exact ⟨'f', ['a', 'l', 's', 'e'], rfl, by decide, by decide⟩
  reads stop ends := by
    cases flag with
    | true => cases levels <;> rfl
    | false => cases levels <;> rfl

/-- A finite word in positional notation is read as this word, under either sign. -/
theorem readDecimal_positionalText {x : Double} (finite : x.magnitude < double.infinity)
    {stop : List Char} (ends : Ends stop) :
    readDecimal x.negative (x.positionalText true ++ stop) = some (.real x, stop) := by
  obtain ⟨whole, fraction, text, isWhole, digits, nonempty, value⟩ := x.exists_positionalText finite
  have below : x ≠ Number.infinity false := by
    rintro rfl
    exact Nat.lt_irrefl _ finite
  rw [text, readDecimal_point isWhole digits nonempty ends, value, real?, if_neg below]
  rfl

/-- A finite word is read as it was written. -/
theorem spells_finite {x : Double} (finite : x.magnitude < double.infinity) (levels : Nat) :
    Spells (readValue levels) (if x.negative then '-' :: x.positionalText true
      else x.positionalText true) (.real x) := by
  obtain ⟨whole, fraction, text, isWhole, -⟩ := x.exists_positionalText finite
  obtain ⟨c, more, rfl, digit⟩ := exists_head_of_isWhole isWhole
  cases sign : x.negative with
  | true =>
    refine ⟨⟨'-', _, rfl, by decide, by decide⟩, fun stop ends => ?_⟩
    have read := readDecimal_positionalText finite ends
    rw [if_pos rfl, List.cons_append, readValue_number (by decide) (readMoment_head (by decide) _),
      readNumber_minus]
    rw [sign] at read
    rw [read, text, List.cons_append, List.cons_append, readSpecial_of_digit digit, Option.none_or]
  | false =>
    refine ⟨?_, fun stop ends => ?_⟩
    · rw [if_neg Bool.false_ne_true, text]
      exact begins_of_digit digit _
    · have read := readDecimal_positionalText finite ends
      rw [sign] at read
      rw [if_neg Bool.false_ne_true, ← read, text, List.append_assoc]
      exact readValue_whole isWhole (by decide) (by decide) levels

theorem spells_infinity (negative : Bool) (levels : Nat) :
    Spells (readValue levels) (if negative then ['-', 'i', 'n', 'f'] else ['i', 'n', 'f'])
      (.real (Number.infinity negative)) := by
  cases negative with
  | true =>
    refine ⟨⟨'-', ['i', 'n', 'f'], rfl, by decide, by decide⟩, fun stop ends => ?_⟩
    exact readValue_number (by decide) (readMoment_head (by decide) _) levels
  | false =>
    refine ⟨⟨'i', ['n', 'f'], rfl, by decide, by decide⟩, fun stop ends => ?_⟩
    exact readValue_number (by decide) (readMoment_head (by decide) _) levels

/-- A word is read as it was written; a not-a-number is read as the default one. -/
theorem spells_real (x : Double) (levels : Nat) :
    Spells (readValue levels) (writeReal x) (.real (if x.isNaN then Number.nan else x)) := by
  unfold writeReal
  dsimp only
  cases nan : x.isNaN with
  | true =>
    refine ⟨⟨'n', ['a', 'n'], rfl, by decide, by decide⟩, fun stop ends => ?_⟩
    rw [if_pos rfl, if_pos rfl]
    exact readValue_number (by decide) (readMoment_head (by decide) _) levels
  | false =>
    rw [if_neg Bool.false_ne_true, if_neg Bool.false_ne_true]
    have bounded : x.magnitude ≤ double.infinity := Nat.not_lt.mp (of_decide_eq_false nan)
    rcases Nat.eq_or_lt_of_le bounded with infinite | finite
    · have whole : x = Number.infinity x.negative := Number.ext_magnitude rfl infinite
      have isInfinite : x.isInfinite = true := decide_eq_true infinite
      have spells := spells_infinity x.negative levels
      rw [← whole] at spells
      rw [isInfinite, if_pos rfl]
      exact spells
    · have isFinite : x.isInfinite = false := decide_eq_false (Nat.ne_of_lt finite)
      rw [isFinite, if_neg Bool.false_ne_true]
      exact spells_finite finite levels

end LidarSieve.Toml
