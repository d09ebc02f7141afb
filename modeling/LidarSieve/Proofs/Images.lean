import Mathlib.Data.UInt
import LidarSieve.Dump
import LidarSieve.Proofs.Numerals
import LidarSieve.Proofs.Occupancy
/-!
# Grey images read back

Which octets are which grey image is said twice, and neither way mentions how images are written:
as a grammar (`GreyImage.Spells`), and by a reader (`GreyImage.read?`) that finds the words between
the gaps one after the other.  The reader misses nothing and invents nothing
(`GreyImage.read?_eq_some_iff`), so octets are one image at most.

The image of a visibility grid has four descriptions of its size: the digits of the head, the rows
and columns of the report, the buffer of the cells, and the look-up of a cell.  They agree as soon
as the buffer is as large as rows and columns say (`Visibility.spells_image`), and for a report it
is.
-/
set_option autoImplicit false

namespace LidarSieve

open LidarSieve.Text

/-! ## Octets of a text -/

/-- Characters of one octet are written as this octet. -/
theorem toList_toUTF8 {text : String} (ascii : ∀ c ∈ text.toList, c.toNat < 128) :
    text.toUTF8.data.toList = text.toList.map Char.toUInt8 := by
  have encoded : text.toUTF8.data.toList = text.toList.flatMap String.utf8EncodeChar := by
    rw [String.toUTF8_eq_toByteArray, ← String.ofList_toList (s := text), String.toByteArray_ofList,
      List.utf8Encode, List.data_toByteArray, String.toList_ofList]
  rw [encoded, List.map_eq_flatMap]
  refine List.flatMap_congr fun c mem => String.utf8EncodeChar_eq_singleton ?_
  rw [Char.utf8Size_eq_one_iff, UInt32.le_iff_toNat_le]
  exact Nat.le_of_lt_succ (ascii c mem)

/-! ## Grey images -/

/-- A grey image with an octet for each pixel. -/
structure GreyImage where
  width : Nat
  height : Nat
  /-- The value of white; black is zero. -/
  white : Nat
  /-- Row after row. -/
  pixels : Octets
  white_pos : 0 < white
  white_lt : white < 256
  size_pixels : pixels.size = width * height
  le_white : ∀ pixel ∈ pixels, pixel.toNat ≤ white

namespace GreyImage

/-- The pixel of a row and a column. -/
def pixel? (image : GreyImage) (row column : Nat) : Option UInt8 :=
  if column < image.width then image.pixels[row * image.width + column]? else none

/-! ## The grammar -/

/-- What a grey image starts with: `P5`. -/
def mark : List UInt8 := [80, 53]

/-- A space, a tab, or an end of a line or a page. -/
def isBlank (octet : UInt8) : Bool := octet == 32 || (decide (9 ≤ octet) && decide (octet ≤ 13))

/-- What a remark starts with: a hash. -/
def remarkMark : UInt8 := 35

/-- A line feed or a carriage return. -/
def endsLine (octet : UInt8) : Bool := octet == 10 || octet == 13

/-- A decimal digit. -/
def isDigit (octet : UInt8) : Bool := isDigitOf 10 octet.toChar

/-- The number that digits stand for. -/
def valueOf (digits : List UInt8) : Nat := valueOfDigits 10 (digits.map UInt8.toChar)

/-- Blanks, and remarks up to the ends of their lines.  The flag tells that the octets start inside
a remark. -/
inductive IsGap : Bool → List UInt8 → Prop where
  | nil : IsGap false []
  | blank {octet : UInt8} {gap : List UInt8} (blank : isBlank octet = true)
      (behind : IsGap false gap) : IsGap false (octet :: gap)
  | mark {gap : List UInt8} (behind : IsGap true gap) : IsGap false (remarkMark :: gap)
  | inside {octet : UInt8} {gap : List UInt8} (inside : endsLine octet = false)
      (behind : IsGap true gap) : IsGap true (octet :: gap)
  | lineEnd {octet : UInt8} {gap : List UInt8} (ends : endsLine octet = true)
      (behind : IsGap false gap) : IsGap true (octet :: gap)

/-- A gap that is there, and the digits of a number. -/
inductive IsNumber : List UInt8 → Nat → Prop where
  | mk {gap digits : List UInt8} (isGap : IsGap false gap) (apart : gap ≠ [])
      (run : ∀ octet ∈ digits, isDigit octet = true) (nonempty : digits ≠ []) :
      IsNumber (gap ++ digits) (valueOf digits)

/-- The octets are the image: the mark, the width, the height and the value of white, one blank, the
pixels, and nothing else. -/
inductive Spells : List UInt8 → GreyImage → Prop where
  | mk {image : GreyImage} {width height white : List UInt8} {blank : UInt8}
      (width_number : IsNumber width image.width) (height_number : IsNumber height image.height)
      (white_number : IsNumber white image.white) (isBlank : isBlank blank = true) :
      Spells (mark ++ (width ++ (height ++ (white ++ blank :: image.pixels.toList)))) image

/-! ## The reader -/

/-- What follows the gap at the front; the flag tells that the octets start inside a remark. -/
def skipGap : Bool → List UInt8 → List UInt8
  | _, [] => []
  | true, octet :: rest => skipGap (!endsLine octet) rest
  | false, octet :: rest =>
    if isBlank octet then skipGap false rest
    else if octet = remarkMark then skipGap true rest
    else octet :: rest

/-- The number behind the gap at the front, and what follows it. -/
def readNumber? (octets : List UInt8) : Option (Nat × List UInt8) :=
  let behind := skipGap false octets
  let digits := behind.takeWhile isDigit
  if behind = octets ∨ digits = [] then none
  else some (valueOf digits, behind.dropWhile isDigit)

/-- The image of a size whose pixels follow a blank. -/
def ofPixels? (width height white : Nat) : List UInt8 → Option GreyImage
  | [] => none
  | blank :: pixels =>
    if fits : isBlank blank = true ∧ 0 < white ∧ white < 256 ∧ pixels.length = width * height ∧
        (pixels.all fun pixel => decide (pixel.toNat ≤ white)) = true then
      some {
        width, height, white
        pixels := pixels.toArray
        white_pos := fits.2.1
        white_lt := fits.2.2.1
        size_pixels := fits.2.2.2.1
        le_white := fun pixel mem =>
          of_decide_eq_true (List.all_eq_true.mp fits.2.2.2.2 pixel (List.mem_toArray.mp mem)) }
    else none

/-- The image that octets are, if they are one. -/
def read? (octets : List UInt8) : Option GreyImage := do
  let rest ← octets.dropPrefix? mark
  let (width, rest) ← readNumber? rest
  let (height, rest) ← readNumber? rest
  let (white, rest) ← readNumber? rest
  ofPixels? width height white rest

/-! ## The reader keeps to the grammar -/

section Reader

variable {octets behind rest : List UInt8} {inside : Bool} {n width height white : Nat}
  {image : GreyImage}

/-- Digits have codes between those of 0 and 9. -/
theorem bounds_of_isDigit {octet : UInt8} (digit : isDigit octet = true) :
    48 ≤ octet.toNat ∧ octet.toNat ≤ 57 :=
  (isDigitOf_ten_iff octet.toChar).mp digit

/-- A digit belongs to no gap. -/
theorem not_gap_of_isDigit {octet : UInt8} (digit : isDigit octet = true) :
    isBlank octet = false ∧ octet ≠ remarkMark := by
  obtain ⟨low, -⟩ := bounds_of_isDigit digit
  have other (mark : UInt8) (small : mark.toNat < 48) : octet ≠ mark := by
    rintro rfl
    omega
  refine ⟨?_, other remarkMark (by decide)⟩
  have beyond : ¬ octet ≤ 13 := by
    rw [UInt8.le_iff_toNat_le]
    have : (13 : UInt8).toNat = 13 := rfl
    omega
  simp [isBlank, beyond, other 32 (by decide)]

/-- What belongs to a gap is no digit. -/
theorem isDigit_eq_false_of_gap {octet : UInt8} (gap : isBlank octet = true ∨ octet = remarkMark) :
    isDigit octet = false := by
  rw [← Bool.not_eq_true]
  intro digit
  obtain ⟨noBlank, noRemark⟩ := not_gap_of_isDigit digit
  rcases gap with blank | remark
  · rw [noBlank] at blank
    cases blank
  · exact noRemark remark

/-- What is skipped is a gap, provided that something follows. -/
theorem exists_isGap_of_skipGap (skipped : skipGap inside octets = behind)
    (nonempty : behind ≠ []) : ∃ gap, IsGap inside gap ∧ octets = gap ++ behind := by
  -- Over the octets; the flag varies, as a remark begins at its mark and ends with its line.
  induction octets generalizing inside with
  | nil =>
    cases inside <;> exact absurd skipped.symm nonempty
  | cons octet rest ih =>
    cases inside with
    | true =>
      rw [skipGap] at skipped
      obtain ⟨gap, isGap, rfl⟩ := ih skipped
      refine ⟨octet :: gap, ?_, rfl⟩
      cases ends : endsLine octet with
      | true => exact .lineEnd ends (by rwa [ends] at isGap)
      | false => exact .inside ends (by rwa [ends] at isGap)
    | false =>
      rw [skipGap] at skipped
      split_ifs at skipped with blank remark
      · obtain ⟨gap, isGap, rfl⟩ := ih skipped
        exact ⟨octet :: gap, .blank blank isGap, rfl⟩
      · obtain ⟨gap, isGap, rfl⟩ := ih skipped
        exact ⟨octet :: gap, remark ▸ .mark isGap, rfl⟩
      · exact ⟨[], .nil, skipped⟩

/-- A gap in front of a digit is skipped as a whole. -/
theorem skipGap_append {gap : List UInt8} (isGap : IsGap inside gap)
    (digit : ∃ first more, rest = first :: more ∧ isDigit first = true) :
    skipGap inside (gap ++ rest) = rest := by
  induction isGap with
  | nil =>
    obtain ⟨first, more, rfl, digit⟩ := digit
    obtain ⟨noBlank, noRemark⟩ := not_gap_of_isDigit digit
    rw [List.nil_append, skipGap, if_neg (by simp [noBlank]), if_neg noRemark]
  | blank blank _ ih => rw [List.cons_append, skipGap, if_pos blank, ih]
  | mark _ ih => rw [List.cons_append, skipGap, if_neg (by decide), if_pos rfl, ih]
  | inside inside _ ih => rw [List.cons_append, skipGap, inside, Bool.not_false, ih]
  | lineEnd ends _ ih => rw [List.cons_append, skipGap, ends, Bool.not_true, ih]

/-- A number that is read is there. -/
theorem exists_isNumber_of_readNumber? (read : readNumber? octets = some (n, rest)) :
    ∃ front, octets = front ++ rest ∧ IsNumber front n := by
  unfold readNumber? at read
  dsimp only at read
  split_ifs at read with refused
  obtain ⟨moved, nonempty⟩ := not_or.mp refused
  cases read
  have parts := (skipGap false octets).takeWhile_append_dropWhile (p := isDigit)
  have follows : skipGap false octets ≠ [] := fun empty => nonempty (by rw [empty]; rfl)
  obtain ⟨gap, isGap, whole⟩ := exists_isGap_of_skipGap rfl follows
  refine ⟨gap ++ (skipGap false octets).takeWhile isDigit, ?_, .mk isGap ?_ ?_ nonempty⟩
  · rw [List.append_assoc, parts]
    exact whole
  · rintro rfl
    exact moved whole.symm
  · exact fun octet mem => List.mem_takeWhile_imp mem

/-- No digit comes next. -/
def NoDigitNext (rest : List UInt8) : Prop := ∀ first ∈ rest.head?, isDigit first = false

/-- A number that is there is read, up to where no digit comes next. -/
theorem readNumber?_append {front : List UInt8} (number : IsNumber front n)
    (ends : NoDigitNext rest) : readNumber? (front ++ rest) = some (n, rest) := by
  obtain @⟨gap, digits, isGap, apart, run, nonempty⟩ := number
  have skipped : skipGap false (gap ++ (digits ++ rest)) = digits ++ rest := by
    obtain ⟨first, more, rfl⟩ := List.exists_cons_of_ne_nil nonempty
    exact skipGap_append isGap ⟨first, more ++ rest, rfl, run first List.mem_cons_self⟩
  obtain ⟨digits_eq, rest_eq⟩ := takeWhile_dropWhile_append run ends
  unfold readNumber?
  rw [List.append_assoc, skipped]
  dsimp only
  rw [digits_eq, rest_eq, if_neg]
  rintro (same | empty)
  · exact apart (List.self_eq_append_left.mp same)
  · exact nonempty empty

/-- A number starts with a gap, so that the digits in front of it end there. -/
theorem noDigitNext_of_isNumber {front : List UInt8} (number : IsNumber front n) :
    NoDigitNext (front ++ rest) := by
  obtain ⟨isGap, apart, -, -⟩ := number
  intro first head
  cases isGap with
  | nil => exact absurd rfl apart
  | blank blank _ =>
    cases head
    exact isDigit_eq_false_of_gap (.inl blank)
  | mark _ =>
    cases head
    exact isDigit_eq_false_of_gap (.inr rfl)

/-- The image is made of a blank and its pixels. -/
theorem ofPixels?_eq_some_iff : ofPixels? width height white rest = some image ↔
    width = image.width ∧ height = image.height ∧ white = image.white ∧
      ∃ blank, isBlank blank = true ∧ rest = blank :: image.pixels.toList := by
  constructor
  · intro made
    cases rest with
    | nil => cases made
    | cons blank pixels =>
      rw [ofPixels?] at made
      split_ifs at made with fits
      cases made
      exact ⟨rfl, rfl, rfl, blank, fits.1, rfl⟩
  · rintro ⟨rfl, rfl, rfl, blank, isBlank, rfl⟩
    have dark : (image.pixels.toList.all fun pixel => decide (pixel.toNat ≤ image.white)) = true :=
      List.all_eq_true.mpr fun pixel mem =>
        decide_eq_true (image.le_white pixel (Array.mem_toList_iff.mp mem))
    rw [ofPixels?, dif_pos ⟨isBlank, image.white_pos, image.white_lt, image.size_pixels, dark⟩]

/-- The reader reads what the grammar spells, and nothing else. -/
theorem read?_eq_some_iff : read? octets = some image ↔ Spells octets image := by
  unfold read?
  simp only [Option.bind_eq_bind, Option.bind_eq_some_iff, Prod.exists]
  constructor
  · rintro ⟨afterMark, marked, width, afterWidth, width_read, height, afterHeight, height_read,
      white, afterWhite, white_read, made⟩
    obtain ⟨start, rfl, isMark⟩ := List.dropPrefix?_eq_some_iff.mp marked
    obtain ⟨front, rfl, width_number⟩ := exists_isNumber_of_readNumber? width_read
    obtain ⟨middle, rfl, height_number⟩ := exists_isNumber_of_readNumber? height_read
    obtain ⟨back, rfl, white_number⟩ := exists_isNumber_of_readNumber? white_read
    obtain ⟨rfl, rfl, rfl, blank, isBlank, rfl⟩ := ofPixels?_eq_some_iff.mp made
    rw [eq_of_beq isMark]
    exact .mk width_number height_number white_number isBlank
  · rintro @⟨image, front, middle, back, blank, width_number, height_number, white_number, isBlank⟩
    -- Each number ends where the gap of the next one begins, and the last one at the blank.
    have ends : NoDigitNext (blank :: image.pixels.toList) := by
      intro first head
      cases head
      exact isDigit_eq_false_of_gap (.inl isBlank)
    exact ⟨_, List.dropPrefix?_append_of_beq _ (beq_self_eq_true mark),
      _, _, readNumber?_append width_number (noDigitNext_of_isNumber height_number),
      _, _, readNumber?_append height_number (noDigitNext_of_isNumber white_number),
      _, _, readNumber?_append white_number ends,
      ofPixels?_eq_some_iff.mpr ⟨rfl, rfl, rfl, blank, isBlank, rfl⟩⟩

/-- A remark may stand in front of a number; among the pixels a hash is a pixel. -/
example : (read? [80, 53, 35, 33, 10, 50, 9, 49, 32, 57, 57, 10, 35, 9]).map (·.pixels) =
    some #[35, 9] := by decide

end Reader

/-! ## Digits as they are written -/

/-- The decimal digits of a number, an octet for each. -/
def digitsOf (n : Nat) : List UInt8 := (decimalDigits n).map Char.toUInt8

theorem toChar_toUInt8 {c : Char} (ascii : c.toNat < 128) : c.toUInt8.toChar = c := by
  apply Char.ext
  apply UInt32.toNat_inj.mp
  change c.toNat % 256 = c.toNat
  exact Nat.mod_eq_of_lt (by omega)

theorem ascii_of_isDigitOf {c : Char} (digit : isDigitOf 10 c = true) : c.toNat < 128 := by
  have high : c.toNat ≤ 57 := ((isDigitOf_ten_iff c).mp digit).2
  omega

/-- The digits of a number are digits, and stand for it. -/
theorem valueOf_digitsOf (n : Nat) :
    (∀ octet ∈ digitsOf n, isDigit octet = true) ∧ valueOf (digitsOf n) = n := by
  have back (c : Char) (mem : c ∈ decimalDigits n) : c.toUInt8.toChar = c :=
    toChar_toUInt8 (ascii_of_isDigitOf (isRun_decimalDigits n c mem))
  constructor
  · intro octet mem
    obtain ⟨c, digit, rfl⟩ := List.mem_map.mp mem
    rw [isDigit, back c digit]
    exact isRun_decimalDigits n c digit
  · have same : (decimalDigits n).map (UInt8.toChar ∘ Char.toUInt8) = decimalDigits n :=
      (List.map_congr_left back).trans (List.map_id' _)
    rw [valueOf, digitsOf, List.map_map, same, valueOfDigits_decimalDigits]

/-- The digits of a number are this number, if a blank stands in front of them. -/
theorem isNumber_digitsOf {blank : UInt8} (isBlank : isBlank blank = true) (n : Nat) :
    IsNumber (blank :: digitsOf n) n := by
  obtain ⟨run, value⟩ := valueOf_digitsOf n
  obtain ⟨first, rest, digits, -⟩ := exists_head_of_isWhole (isWhole_decimalDigits n)
  have nonempty : digitsOf n ≠ [] := by simp [digitsOf, digits]
  have number := IsNumber.mk (.blank isBlank .nil) (List.cons_ne_nil blank []) run nonempty
  rwa [value] at number

end GreyImage

open GreyImage

/-! ## Images of visibility grids -/

/-- The head of an image, word by word. -/
theorem toList_imageHeader (width height : Nat) : (imageHeader width height).toUTF8.data.toList =
    mark ++ (10 :: digitsOf width ++ (32 :: digitsOf height ++ (10 :: digitsOf 255 ++ [10]))) := by
  have text : (imageHeader width height).toList =
      ['P', '5', '\n'] ++ (decimalDigits width ++ (' ' :: (decimalDigits height ++
        '\n' :: (decimalDigits 255 ++ ['\n'])))) := by
    unfold imageHeader decimalDigits
    simp only [String.toList_append, Nat.toString_eq_repr, Nat.toList_repr, List.append_assoc]
    rfl
  have digits (n : Nat) : ∀ c ∈ decimalDigits n, c.toNat < 128 := fun c mem =>
    ascii_of_isDigitOf (isRun_decimalDigits n c mem)
  have ascii : ∀ c ∈ (imageHeader width height).toList, c.toNat < 128 := by
    simp only [text, List.forall_mem_append, List.forall_mem_cons]
    exact ⟨by simp, digits width, by decide, digits height, by decide, digits 255, by simp⟩
  rw [toList_toUTF8 ascii, text]
  simp only [digitsOf, List.map_append, List.map_cons, List.cons_append]
  rfl

namespace Visibility

variable {v : Visibility}

/-- The image of a grid whose buffer is as large as rows and columns say. -/
def greyImage (v : Visibility) (whole : v.cells.size = v.columns * v.rows.toNat) : GreyImage where
  width := v.columns
  height := v.rows.toNat
  white := 255
  pixels := v.cells
  white_pos := by decide
  white_lt := by decide
  size_pixels := whole
  le_white pixel _ := Nat.le_of_lt_succ pixel.toNat_lt

/-- The grammar says of the image what rows, columns and cells say. -/
theorem spells_image (whole : v.cells.size = v.columns * v.rows.toNat) :
    Spells v.image.toList (v.greyImage whole) := by
  have spelled : v.image.toList = mark ++ (10 :: digitsOf v.columns ++
      (32 :: digitsOf v.rows.toNat ++ (10 :: digitsOf 255 ++ 10 :: v.cells.toList))) := by
    rw [image, Array.toList_append, toList_imageHeader]
    simp
  have lineFeed : isBlank 10 = true := by decide
  have width_number : IsNumber (10 :: digitsOf v.columns) (v.greyImage whole).width :=
    isNumber_digitsOf lineFeed v.columns
  have height_number : IsNumber (32 :: digitsOf v.rows.toNat) (v.greyImage whole).height :=
    isNumber_digitsOf (by decide) v.rows.toNat
  rw [spelled]
  exact .mk width_number height_number (isNumber_digitsOf lineFeed 255) lineFeed

/-- The image shows the grid pixel by pixel, filled cells in white and the others in black. -/
structure IsShownBy (v : Visibility) (image : GreyImage) : Prop where
  width_eq : image.width = 36
  height_eq : image.height = v.rows.toNat
  white_eq : image.white = 255
  /-- The pixels are all that stands behind the head. -/
  octets_eq : v.image = (imageHeader 36 v.rows.toNat).toUTF8.data ++ image.pixels
  size_eq : image.pixels.size = image.width * image.height
  pixel_eq : ∀ row < image.height, ∀ column < image.width,
    image.pixel? row column = v.cell? row column
  black_or_white : ∀ row < image.height, ∀ column < image.width,
    image.pixel? row column = some 0 ∨ image.pixel? row column = some 255
  count_eq : image.pixels.count 255 = v.filled

end Visibility

namespace Grid

variable (grid : Grid)

/-- Whatever records, region and threshold, and however many rows: the octets of a report's image
are one grey image and no other, and it shows the report. -/
theorem image_reads_back {header : Header} {returns : Array Return} {visibility : Visibility}
    (made : grid.evaluate? header returns = some visibility) :
    ∃ image : GreyImage, read? visibility.image.toList = some image ∧
      (∀ other, Spells visibility.image.toList other ↔ other = image) ∧
      image.height = grid.rows.toNat ∧ visibility.IsShownBy image := by
  obtain ⟨size, rows, columns⟩ := grid.shape_of_evaluate? made
  obtain ⟨-, -, -, -, filled⟩ := grid.eq_of_evaluate? made
  have whole : visibility.cells.size = visibility.columns * visibility.rows.toNat := by
    rw [size, rows, columns]
    exact Nat.mul_comm _ _
  have spelled := Visibility.spells_image whole
  have height : (visibility.greyImage whole).height = grid.rows.toNat := congrArg UInt64.toNat rows
  have pixel (row : Nat) {column : Nat} (inside : column < (visibility.greyImage whole).width) :
      (visibility.greyImage whole).pixel? row column = visibility.cell? row column := if_pos inside
  refine ⟨visibility.greyImage whole, read?_eq_some_iff.mpr spelled, fun other => ?_, height, ?_⟩
  · rw [← read?_eq_some_iff, read?_eq_some_iff.mpr spelled, Option.some.injEq, eq_comm]
  · refine ⟨columns, rfl, rfl, ?_, whole, fun row _ column inside => pixel row inside,
      fun row row_lt column column_lt => ?_, filled.symm⟩
    · rw [Visibility.image, columns]
      rfl
    · rw [pixel row column_lt, grid.cell?_of_evaluate? made (height ▸ row_lt) (columns ▸ column_lt),
        Option.some.injEq, Option.some.injEq]
      split_ifs with above
      · exact .inr rfl
      · exact .inl rfl

/-- The image of the small scan is white where three returns fill a cell of row 1, and black where
one return does not. -/
theorem image_of_sampleScan : ∃ visibility image,
    sampleSnapshot.grid.evaluate? sampleCloud.header sampleScan.returns = some visibility ∧
      read? visibility.image.toList = some image ∧ visibility.IsShownBy image ∧
      image.pixel? 1 0 = some 255 ∧ image.pixel? 1 9 = some 0 := by
  have fits : sampleSnapshot.grid.size ≤ maxBuffer := by decide
  obtain ⟨visibility, made⟩ :=
    (sampleSnapshot.grid.exists_evaluate?_iff sampleCloud.header sampleScan.returns).mpr fits
  obtain ⟨image, read, -, height, shown⟩ := sampleSnapshot.grid.image_reads_back made
  have row : 1 < image.height := by
    rw [height]
    decide
  have column (n : Nat) (small : n < 36) : n < image.width := shown.width_eq ▸ small
  have three : sampleSnapshot.grid.IsFilled sampleScan.returns 1 0 := by decide +kernel
  have one : ¬ sampleSnapshot.grid.IsFilled sampleScan.returns 1 9 := by decide +kernel
  refine ⟨visibility, image, made, read, shown, ?_, ?_⟩
  · rw [shown.pixel_eq 1 row 0 (column 0 (by decide)),
      sampleSnapshot.grid.cell?_of_evaluate? made (by decide) (by decide), if_pos three]
    rfl
  · rw [shown.pixel_eq 1 row 9 (column 9 (by decide)),
      sampleSnapshot.grid.cell?_of_evaluate? made (by decide) (by decide), if_neg one]

end Grid
end LidarSieve
