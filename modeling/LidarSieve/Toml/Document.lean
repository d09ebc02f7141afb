import LidarSieve.Toml.Number
/-!
# TOML documents

The grammar of values, statements and documents.  A document is read in two steps: its
text as a list of statements, and the statements as a table.

Keys of eighty steps and values nested eighty deep are refused.
-/
set_option autoImplicit false

namespace LidarSieve.Toml

/-- Keys have fewer steps, and nested values fewer levels, than this. -/
def nestingLimit : Nat := 80

/-- A key of one or more steps. -/
def readPath : Reader Path := fun text => do
  let (steps, rest) ← readSteps (text.length + 1) text
  if steps.length < nestingLimit then
    match steps.getLast? with
    | some key => some (⟨steps.dropLast, key⟩, rest)
    | none => none
  else none

/-! ## Values -/

/-- The items of a list and its closing bracket.  Blanks, line breaks and comments may stand
around items, and a comma after the last one. -/
def readItems (item : Reader Value) : Nat → Reader (List Value)
  | 0, _ => none
  | bound + 1, text =>
    match skipSpace false text with
    | ']' :: rest => some ([], rest)
    | text => do
      let (value, rest) ← item text
      match skipSpace false rest with
      | ',' :: rest => do
        let (values, rest) ← readItems item bound rest
        return (value :: values, rest)
      | ']' :: rest => some ([value], rest)
      | _ => none

/-- A key and its value. -/
def readPair (item : Reader Value) : Reader (Path × Value) := fun text => do
  let (path, rest) ← readPath text
  match rest with
  | '=' :: rest => do
    let (value, rest) ← item (skipBlanks rest)
    return ((path, value), rest)
  | _ => none

/-- One or more pairs of an inline table and its closing brace. -/
def readPairs (item : Reader Value) : Nat → Reader (List (Path × Value))
  | 0, _ => none
  | bound + 1, text => do
    let (pair, rest) ← readPair item text
    match skipBlanks rest with
    | ',' :: rest => do
      let (pairs, rest) ← readPairs item bound rest
      return (pair :: pairs, rest)
    | '}' :: rest => some ([pair], rest)
    | _ => none

/-- The inside of an inline table and its closing brace. -/
def readBraces (item : Reader Value) : Reader (List (Path × Value)) := fun text =>
  match skipBlanks text with
  | '}' :: rest => some ([], rest)
  | _ => readPairs item (text.length + 1) text

/-- A value.  `levels` tells how many lists and inline tables may still be opened, each
inside the one before. -/
def readValue : Nat → Reader Value
  | _, '"' :: rest => do
    let (run, rest) ← readString ('"' :: rest)
    return (.text (String.ofList run), rest)
  | _, '\x27' :: rest => do
    let (run, rest) ← readString ('\x27' :: rest)
    return (.text (String.ofList run), rest)
  | levels + 1, '[' :: rest => do
    let (values, rest) ← readItems (readValue levels) (rest.length + 1) rest
    return (.list values, rest)
  | levels + 1, '{' :: rest => do
    let (pairs, rest) ← readBraces (readValue levels) rest
    return (.table .braces (← Table.ofPairs? pairs), rest)
  | _, 't' :: 'r' :: 'u' :: 'e' :: rest => some (.flag true, rest)
  | _, 'f' :: 'a' :: 'l' :: 's' :: 'e' :: rest => some (.flag false, rest)
  | _, text => (readMoment text).or (readNumber text)

/-! ## Statements -/

/-- A statement from its first character to the end of its line. -/
def readStatement : Reader Statement
  | '[' :: '[' :: rest => do
    let (path, rest) ← readPath rest
    match rest with
    | ']' :: ']' :: rest => return (.element path, ← lineEnd? rest)
    | _ => none
  | '[' :: rest => do
    let (path, rest) ← readPath rest
    match rest with
    | ']' :: rest => return (.header path, ← lineEnd? rest)
    | _ => none
  | text => do
    let ((path, value), rest) ← readPair (readValue (nestingLimit - 1)) text
    return (.entry path value, ← lineEnd? rest)

/-- The statements of a text. -/
def readStatements : Nat → List Char → Option (List Statement)
  | 0, _ => none
  | bound + 1, text =>
    match skipBlanks text with
    | [] => some []
    | '#' :: rest => do readStatements bound (← lineEnd? ('#' :: rest))
    | '\n' :: rest => readStatements bound rest
    | '\r' :: rest => do readStatements bound (← lineBreak? ('\r' :: rest))
    | text => do
      let (statement, rest) ← readStatement text
      return statement :: (← readStatements bound rest)

/-- The text behind a byte order mark. -/
def skipByteOrderMark : List Char → List Char
  | '\ufeff' :: rest => rest
  | text => text

/-- The table that a document describes. -/
def parse? (document : String) : Option Table :=
  let text := skipByteOrderMark document.toList
  (readStatements (text.length + 1) text).bind Table.ofStatements?

end LidarSieve.Toml
