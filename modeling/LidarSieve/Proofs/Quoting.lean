import LidarSieve.Proofs.Spelling
/-!
# Strings and lists that are written are read

A string of printable characters without apostrophes is written between quotes or, if it has quotes
or backslashes in it, between apostrophes, and is read as the same string.  It cannot be written
only if it has a row of quotes that is too long.  Lists are read if their items are.
-/
set_option autoImplicit false

namespace LidarSieve.Toml

open LidarSieve.Text LidarSieve.Binary

/-- A string that fits between apostrophes on one line. -/
def IsLine (run : List Char) : Prop := ∀ c ∈ run, isPrintable c = true ∧ c ≠ apostrophe

instance (run : List Char) : Decidable (IsLine run) :=
  List.decidableBAll (fun c => isPrintable c = true ∧ c ≠ apostrophe) run

/-! ## How a string is written -/

theorem longestRowBehind_eq_zero_iff {mark : Char} {run : List Char} {behind : Nat} :
    longestRowBehind mark behind run = 0 ↔ behind = 0 ∧ mark ∉ run := by
  induction run generalizing behind with
  | nil => simp [longestRowBehind]
  | cons c rest ih =>
    rw [longestRowBehind]
    by_cases same : c = mark
    · rw [if_pos same, ih, same]
      simp
    · rw [if_neg same, Nat.max_eq_zero_iff, ih]
      simp [Ne.symm same]

theorem longestRow_eq_zero_iff {mark : Char} {run : List Char} :
    longestRow mark run = 0 ↔ mark ∉ run := by
  unfold longestRow
  rw [longestRowBehind_eq_zero_iff]
  simp

/-- A line is written between quotes if nothing in it has to be escaped. -/
theorem quotingOf_of_isLine {run : List Char} (line : IsLine run) :
    quotingOf run = if '\\' ∉ run ∧ '"' ∉ run then .basic else .literal := by
  have plain : (run.all fun c => isPrintable c || c == '\n') = true := by
    rw [List.all_eq_true]
    intro c mem
    rw [(line c mem).1, Bool.true_or]
  have noBreak : '\n' ∉ run := fun mem => by
    have printable := (line _ mem).1
    revert printable
    decide
  have noApostrophe : longestRow apostrophe run = 0 :=
    longestRow_eq_zero_iff.mpr fun mem => (line _ mem).2 rfl
  unfold quotingOf
  simp [plain, noBreak, noApostrophe, longestRow_eq_zero_iff]

/-! ## Between quotes -/

/-- A character that needs no escape, the tab apart, is written as it is. -/
theorem writeEscaped_of_isPrintable {c : Char} (printable : isPrintable c = true)
    (noQuote : c ≠ '"') (noBackslash : c ≠ '\\') :
    writeEscaped c = if c = '\t' then ['\\', 't'] else [c] := by
  have noControl : c ≠ '\x08' ∧ c ≠ '\n' ∧ c ≠ '\x0c' ∧ c ≠ '\r' := by
    refine ⟨?_, ?_, ?_, ?_⟩ <;> rintro rfl <;> revert printable <;> decide
  unfold writeEscaped
  simp [noQuote, noBackslash, noControl, printable]

theorem readBasic_escaped {run : List Char} (line : IsLine run) (noQuote : '"' ∉ run)
    (noBackslash : '\\' ∉ run) {bound : Nat} (enough : run.length < bound) (stop : List Char) :
    readBasic bound (run.flatMap writeEscaped ++ '"' :: stop) = some (run, stop) := by
  induction run generalizing bound with
  | nil =>
    obtain ⟨rounds, rfl⟩ : ∃ rounds, bound = rounds + 1 := ⟨bound - 1, by simp at enough; omega⟩
    rfl
  | cons c rest ih =>
    obtain ⟨rounds, rfl⟩ : ∃ rounds, bound = rounds + 1 := ⟨bound - 1, by simp at enough; omega⟩
    rw [List.mem_cons, not_or] at noQuote noBackslash
    have printable := (line c List.mem_cons_self).1
    have rounds_enough : rest.length < rounds := by simpa using enough
    have others := ih (fun c mem => line c (List.mem_cons_of_mem _ mem)) noQuote.2 noBackslash.2
      rounds_enough
    rw [List.flatMap_cons, writeEscaped_of_isPrintable printable (Ne.symm noQuote.1)
      (Ne.symm noBackslash.1), List.append_assoc]
    by_cases tab : c = '\t'
    · rw [if_pos tab, tab]
      simp only [List.cons_append, List.nil_append]
      rw [readBasic, if_neg (by decide), if_pos rfl]
      simp only [readEscape, Option.bind_eq_bind, Option.bind_some]
      rw [others]
      rfl
    · rw [if_neg tab, List.cons_append, List.nil_append, readBasic,
        if_neg (Ne.symm noQuote.1), if_neg (Ne.symm noBackslash.1), if_pos printable, others]
      rfl

/-- Every character takes at least one character to be written. -/
theorem length_le_escaped (run : List Char) : run.length ≤ (run.flatMap writeEscaped).length := by
  induction run with
  | nil => exact Nat.le_refl 0
  | cons c rest ih =>
    have one_le : 1 ≤ (writeEscaped c).length := by
      unfold writeEscaped
      split_ifs <;> simp
    rw [List.flatMap_cons, List.length_append, List.length_cons]
    omega

theorem readString_basic {run : List Char} (line : IsLine run) (noQuote : '"' ∉ run)
    (noBackslash : '\\' ∉ run) {stop : List Char} (ends : Ends stop) :
    readString ('"' :: (run.flatMap writeEscaped ++ '"' :: stop)) = some (run, stop) := by
  rw [readString]
  · refine readBasic_escaped line noQuote noBackslash ?_ stop
    have := length_le_escaped run
    rw [List.length_append]
    omega
  · -- three quotes in a row cannot open it
    intro rest triple
    cases run with
    | nil =>
      obtain ⟨c, more, rfl, isStop⟩ := ends
      have next := (List.cons.inj (List.cons.inj triple).2).1
      rcases isStop with rfl | rfl
      · cases next
      · cases next
    | cons c more =>
      rw [List.mem_cons, not_or] at noQuote noBackslash
      rw [List.flatMap_cons, writeEscaped_of_isPrintable (line c List.mem_cons_self).1
        (Ne.symm noQuote.1) (Ne.symm noBackslash.1)] at triple
      split at triple
      · cases (List.cons.inj triple).1
      · exact noQuote.1 (List.cons.inj triple).1.symm

/-! ## Between apostrophes -/

theorem readLiteral_line {run : List Char} (line : IsLine run) (stop : List Char) :
    readLiteral (run ++ apostrophe :: stop) = some (run, stop) := by
  induction run with
  | nil => rfl
  | cons c rest ih =>
    obtain ⟨printable, noApostrophe⟩ := line c List.mem_cons_self
    rw [List.cons_append, readLiteral, if_neg noApostrophe, if_pos printable,
      ih fun c mem => line c (List.mem_cons_of_mem _ mem)]
    rfl

theorem readString_literal {run : List Char} (line : IsLine run) (nonempty : run ≠ [])
    (stop : List Char) :
    readString (apostrophe :: (run ++ apostrophe :: stop)) = some (run, stop) := by
  cases run with
  | nil => exact absurd rfl nonempty
  | cons c more =>
    have first := (line c List.mem_cons_self).2
    unfold apostrophe
    rw [readString]
    · exact readLiteral_line line stop
    · intro rest same
      exact first (List.cons.inj same).1

/-! ## Strings -/

/-- A line without a long row of quotes is written, and read as it was. -/
theorem spells_text {s : String} (line : IsLine s.toList)
    (rows : longestRow '"' s.toList ≤ maxRow) :
    ∃ text, writeText? s = some text ∧ ∀ levels, Spells (readValue levels) text (.text s) := by
  have noRow : longestRow apostrophe s.toList = 0 :=
    longestRow_eq_zero_iff.mpr fun mem => (line _ mem).2 rfl
  refine ⟨_, if_pos ⟨rows, by rw [noRow]; exact Nat.zero_le _⟩, fun levels => ?_⟩
  rw [quotingOf_of_isLine line]
  by_cases plain : '\\' ∉ s.toList ∧ '"' ∉ s.toList
  · refine ⟨⟨'"', _, by rw [if_pos plain]; rfl, by decide, by decide⟩, fun stop ends => ?_⟩
    have read := readString_basic line plain.2 plain.1 ends
    rw [if_pos plain, writeQuoted, List.cons_append, List.cons_append, List.append_assoc, readValue,
      List.singleton_append, read]
    simp
  · have nonempty : s.toList ≠ [] := by
      intro empty
      rw [empty] at plain
      exact plain ⟨List.not_mem_nil, List.not_mem_nil⟩
    refine ⟨⟨apostrophe, _, by rw [if_neg plain]; rfl, by decide, by decide⟩, fun stop ends => ?_⟩
    have read := readString_literal line nonempty stop
    rw [if_neg plain, writeQuoted, List.cons_append, List.cons_append, List.append_assoc]
    unfold apostrophe at read ⊢
    rw [readValue, List.singleton_append, read]
    simp

/-- Without a row of quotes that is too long there is a text, and only then. -/
theorem writeText?_eq_none {s : String} (rows : maxRow < longestRow '"' s.toList) :
    writeText? s = none :=
  if_neg fun short => absurd short.1 (Nat.not_le.mpr rows)

/-! ## Lists -/

/-- Blanks and line breaks are skipped up to the first character of a value. -/
theorem skipSpace_begins {text : List Char} (begins : Begins text) (behind : List Char) :
    skipSpace false (text ++ behind) = text ++ behind := by
  obtain ⟨c, rest, rfl, noBlank, other⟩ := begins
  simp only [List.mem_cons, List.not_mem_nil, or_false, not_or] at other
  obtain ⟨noBreak, noReturn, noComment, -⟩ := other
  rw [List.cons_append, skipSpace]
  · rw [if_neg Bool.false_ne_true, if_neg (by simp [noBlank]), if_neg (by simp [noComment])]
  · exact noBreak
  · exact fun more same => absurd same noReturn

/-- The lines of the items. -/
def itemLines (items : List (List Char)) : List Char :=
  items.flatMap fun item => [' ', ' ', ' ', ' '] ++ item ++ [',', '\n']

theorem readItems_lines {item : Reader Value} {spelled : List (List Char × Value)}
    (spells : ∀ entry ∈ spelled, Spells item entry.1 entry.2) {bound : Nat}
    (enough : spelled.length < bound) (stop : List Char) :
    readItems item bound ('\n' :: (itemLines (spelled.map Prod.fst) ++ ']' :: stop)) =
      some (spelled.map Prod.snd, stop) := by
  induction spelled generalizing bound with
  | nil =>
    obtain ⟨rounds, rfl⟩ : ∃ rounds, bound = rounds + 1 := ⟨bound - 1, by simp at enough; omega⟩
    rfl
  | cons entry rest ih =>
    obtain ⟨rounds, rfl⟩ : ∃ rounds, bound = rounds + 1 := ⟨bound - 1, by simp at enough; omega⟩
    obtain ⟨text, value⟩ := entry
    have first := spells _ List.mem_cons_self
    have rounds_enough : rest.length < rounds := by simpa using enough
    have others := ih (fun entry mem => spells entry (List.mem_cons_of_mem _ mem)) rounds_enough
    have line : itemLines (((text, value) :: rest).map Prod.fst) ++ ']' :: stop =
        ' ' :: ' ' :: ' ' :: ' ' :: (text ++ ',' :: '\n' ::
          (itemLines (rest.map Prod.fst) ++ ']' :: stop)) := by
      simp [itemLines]
    have skipped : skipSpace false ('\n' :: ' ' :: ' ' :: ' ' :: ' ' :: (text ++ ',' :: '\n' ::
        (itemLines (rest.map Prod.fst) ++ ']' :: stop))) = text ++ ',' :: '\n' ::
          (itemLines (rest.map Prod.fst) ++ ']' :: stop) :=
      skipSpace_begins first.begins _
    have read := first.reads (',' :: '\n' :: (itemLines (rest.map Prod.fst) ++ ']' :: stop))
      ⟨',', _, rfl, .inr rfl⟩
    rw [line, readItems, skipped]
    split
    · rename_i more same
      obtain ⟨c, tail, rfl, -, other⟩ := first.begins
      have closes := (List.cons.inj same).1
      simp [closes] at other
    · rw [read]
      simp only [Option.bind_eq_bind, Option.bind_some]
      have comma : ∀ more, skipSpace false (',' :: more) = ',' :: more := fun more => rfl
      rw [comma]
      change (readItems item rounds ('\n' :: (itemLines (rest.map Prod.fst) ++ ']' :: stop))).bind
        _ = _
      rw [others]
      rfl

theorem length_le_itemLines (items : List (List Char)) :
    items.length ≤ (itemLines items).length := by
  induction items with
  | nil => exact Nat.le_refl 0
  | cons item rest ih =>
    unfold itemLines at ih ⊢
    rw [List.flatMap_cons, List.length_append, List.length_append, List.length_cons,
      List.length_cons]
    omega

/-- A list is read if each of its items is. -/
theorem spells_list {levels : Nat} {spelled : List (List Char × Value)}
    (spells : ∀ entry ∈ spelled, Spells (readValue levels) entry.1 entry.2) :
    Spells (readValue (levels + 1)) (writeList (spelled.map Prod.fst))
      (.list (spelled.map Prod.snd)) where
  begins := ⟨'[', _, rfl, by decide, by decide⟩
  reads stop _ := by
    have whole : writeList (spelled.map Prod.fst) ++ stop =
        '[' :: '\n' :: (itemLines (spelled.map Prod.fst) ++ ']' :: stop) := by
      simp [writeList, itemLines]
    have enough : spelled.length <
        ('\n' :: (itemLines (spelled.map Prod.fst) ++ ']' :: stop)).length + 1 := by
      have := length_le_itemLines (spelled.map Prod.fst)
      rw [List.length_map] at this
      rw [List.length_cons, List.length_append]
      omega
    rw [whole, readValue, readItems_lines spells enough]
    rfl

end LidarSieve.Toml
