import LidarSieve.Text.Digits
/-!
# TOML text: blanks, line ends, strings and keys

A reader takes a part from the front of a text and answers what it read together with the
rest; it answers nothing where the grammar has no such part.  Loops that do not follow the
text one character at a time get the length of the text as a bound on their rounds, which
they cannot exceed because each round takes at least one character.
-/
set_option autoImplicit false

namespace LidarSieve.Toml

open LidarSieve.Text

/-- Takes a part from the front of a text. -/
abbrev Reader (α : Type) : Type := List Char → Option (α × List Char)

/-! ## Blanks and line ends -/

/-- A space or a tab. -/
def isBlank (c : Char) : Bool := c == ' ' || c == '\t'

/-- Any character but a control character; the tab counts as printable. -/
def isPrintable (c : Char) : Bool := c == '\t' || (decide (32 ≤ c.toNat) && c.toNat != 127)

/-- What follows the blanks at the front. -/
def skipBlanks (text : List Char) : List Char := text.dropWhile isBlank

/-- What follows the comment at the front, if there is one. -/
def skipComment : List Char → List Char
  | '#' :: rest => rest.dropWhile isPrintable
  | text => text

/-- What follows the line break at the front. -/
def lineBreak? : List Char → Option (List Char)
  | '\n' :: rest => some rest
  | '\r' :: '\n' :: rest => some rest
  | _ => none

/-- What follows the end of the line: blanks, a comment, and a line break or the end of the
text. -/
def lineEnd? (text : List Char) : Option (List Char) :=
  match skipComment (skipBlanks text) with
  | [] => some []
  | rest => lineBreak? rest

/-- What follows the blanks, line breaks and comments at the front; the flag tells that the
text starts inside a comment. -/
def skipSpace (comment : Bool) : List Char → List Char
  | '\n' :: rest => skipSpace false rest
  | '\r' :: '\n' :: rest => skipSpace false rest
  | c :: rest =>
    if comment then
      if isPrintable c then skipSpace true rest else c :: rest
    else if isBlank c then skipSpace false rest
    else if c == '#' then skipSpace true rest
    else c :: rest
  | [] => []

/-- What follows the blanks and line breaks at the front. -/
def skipLines : List Char → List Char
  | '\n' :: rest => skipLines rest
  | '\r' :: '\n' :: rest => skipLines rest
  | c :: rest => if isBlank c then skipLines rest else c :: rest
  | [] => []

/-! ## Strings -/

/-- The mark around literal strings. -/
def apostrophe : Char := '\x27'

/-- One character in front of what a reader of characters read. -/
def prepend (c : Char) (result : Option (List Char × List Char)) :
    Option (List Char × List Char) :=
  result.map fun (tail, rest) => (c :: tail, rest)

/-- The character whose code is written in the given number of hexadecimal digits. -/
def readCode (digits : Nat) : Reader Char := fun text =>
  let run := text.take digits
  let code := valueOfDigits 16 run
  if run.length = digits ∧ run.all (isDigitOf 16) ∧ code.isValidChar then
    some (Char.ofNat code, text.drop digits)
  else none

/-- The character that is written after a backslash. -/
def readEscape : Reader Char
  | 'b' :: rest => some ('\x08', rest)
  | 'f' :: rest => some ('\x0c', rest)
  | 'n' :: rest => some ('\n', rest)
  | 'r' :: rest => some ('\r', rest)
  | 't' :: rest => some ('\t', rest)
  | '"' :: rest => some ('"', rest)
  | '\\' :: rest => some ('\\', rest)
  | 'u' :: rest => readCode 4 rest
  | 'U' :: rest => readCode 8 rest
  | _ => none

/-- The inside and the closing mark of a basic string. -/
def readBasic : Nat → Reader (List Char)
  | 0, _ => none
  | _ + 1, [] => none
  | bound + 1, c :: rest =>
    if c = '"' then some ([], rest)
    else if c = '\\' then do
      let (c, rest) ← readEscape rest
      prepend c (readBasic bound rest)
    else if isPrintable c then prepend c (readBasic bound rest)
    else none

/-- What follows a backslash that ends its line: all blanks and line breaks are left out. -/
def foldLine? (text : List Char) : Option (List Char) :=
  (lineBreak? (skipBlanks text)).map skipLines

/-- The closing marks of a string of several lines: three of them, with up to two more in
front that belong to the string. -/
def closing? (mark : Char) : Reader (List Char) := fun text =>
  let marks := (text.takeWhile (· == mark)).length
  if marks < 3 then none
  else
    let kept := min (marks - 3) 2
    some (List.replicate kept mark, text.drop (kept + 3))

/-- The inside and the closing marks of a basic string of several lines. -/
def readBasicLines : Nat → Reader (List Char)
  | 0, _ => none
  | bound + 1, text =>
    match closing? '"' text with
    | some closed => some closed
    | none =>
      match text with
      | '\n' :: rest => prepend '\n' (readBasicLines bound rest)
      | '\r' :: '\n' :: rest => prepend '\n' (readBasicLines bound rest)
      | '\\' :: rest =>
        match foldLine? rest with
        | some rest => readBasicLines bound rest
        | none => do
          let (c, rest) ← readEscape rest
          prepend c (readBasicLines bound rest)
      | c :: rest => if isPrintable c then prepend c (readBasicLines bound rest) else none
      | [] => none

/-- The inside and the closing mark of a literal string. -/
def readLiteral : Reader (List Char)
  | [] => none
  | c :: rest =>
    if c = apostrophe then some ([], rest)
    else if isPrintable c then prepend c (readLiteral rest)
    else none

/-- The inside and the closing marks of a literal string of several lines. -/
def readLiteralLines : Nat → Reader (List Char)
  | 0, _ => none
  | bound + 1, text =>
    match closing? apostrophe text with
    | some closed => some closed
    | none =>
      match text with
      | '\n' :: rest => prepend '\n' (readLiteralLines bound rest)
      | '\r' :: '\n' :: rest => prepend '\n' (readLiteralLines bound rest)
      | c :: rest => if isPrintable c then prepend c (readLiteralLines bound rest) else none
      | [] => none

/-- The text after a line break right behind the opening marks. -/
def skipFirstBreak (text : List Char) : List Char := (lineBreak? text).getD text

/-- A string from its opening to its closing marks. -/
def readString : Reader (List Char)
  | '"' :: '"' :: '"' :: rest => readBasicLines (rest.length + 1) (skipFirstBreak rest)
  | '"' :: rest => readBasic (rest.length + 1) rest
  | '\x27' :: '\x27' :: '\x27' :: rest =>
    readLiteralLines (rest.length + 1) (skipFirstBreak rest)
  | '\x27' :: rest => readLiteral rest
  | _ => none

/-! ## Keys -/

/-- A character of a key that is written without marks. -/
def isBare (c : Char) : Bool := c.isAlphanum || c == '_' || c == '-'

/-- One step of a key. -/
def readStep : Reader (List Char)
  | '"' :: rest => readBasic (rest.length + 1) rest
  | '\x27' :: rest => readLiteral rest
  | text =>
    let run := text.takeWhile isBare
    if run.isEmpty then none else some (run, text.dropWhile isBare)

/-- The steps of a key, with points between them and blanks around them. -/
def readSteps : Nat → Reader (List String)
  | 0, _ => none
  | bound + 1, text => do
    let (step, rest) ← readStep (skipBlanks text)
    match skipBlanks rest with
    | '.' :: rest => do
      let (steps, rest) ← readSteps bound rest
      return (String.ofList step :: steps, rest)
    | rest => return ([String.ofList step], rest)

end LidarSieve.Toml
