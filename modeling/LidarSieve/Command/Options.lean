/-!
# The command line

The words of the command line, and the options that they set.  Options that take a value
find it behind an equals sign or in the next word; a short option may also have it right
behind its letter.  A value of its own word does not start with a dash, unless it is a
dash alone.  Nothing is given twice.  The first word that breaks these rules, or that asks
for help or for the version, decides.
-/
set_option autoImplicit false

namespace LidarSieve

/-! ## Words -/

/-- An option that takes a value. -/
inductive ValueOption where
  | config
  | input
  | frameId
  | output
  | noiseOutput
  | gridOutput
  deriving DecidableEq, Repr

/-- An option that takes no value. -/
inductive Switch where
  | writeDefaultConfig
  | bigEndian
  | publishNoise
  deriving DecidableEq, Repr

/-- A question that is answered in place of a run. -/
inductive Enquiry where
  | help
  | version
  deriving DecidableEq, Repr

namespace ValueOption

/-- Every option that takes a value. -/
def all : List ValueOption := [config, input, frameId, output, noiseOutput, gridOutput]

/-- The name behind two dashes. -/
def name : ValueOption → String
  | config => "config"
  | input => "input"
  | frameId => "frame-id"
  | output => "output"
  | noiseOutput => "noise-output"
  | gridOutput => "grid-output"

/-- The letter behind one dash. -/
def letter? : ValueOption → Option Char
  | config => some 'c'
  | input => some 'i'
  | output => some 'o'
  | _ => none

/-- The value may be empty; a path may not. -/
def takesEmpty (option : ValueOption) : Bool := option == frameId

end ValueOption

namespace Switch

/-- Every option that takes no value. -/
def all : List Switch := [writeDefaultConfig, bigEndian, publishNoise]

/-- The name behind two dashes. -/
def name : Switch → String
  | writeDefaultConfig => "write-default-config"
  | bigEndian => "big-endian"
  | publishNoise => "publish-noise"

end Switch

namespace Enquiry

/-- Every question. -/
def all : List Enquiry := [help, version]

/-- The name behind two dashes. -/
def name : Enquiry → String
  | help => "help"
  | version => "version"

/-- The letter behind one dash. -/
def letter : Enquiry → Char
  | help => 'h'
  | version => 'V'

end Enquiry

/-- What a word of the command line says. -/
inductive Word where
  | enquiry (question : Enquiry)
  | switch (switch : Switch)
  /-- An option that takes a value, and the value if the word holds it. -/
  | option (option : ValueOption) (attached : Option String)
  /-- Options end here. -/
  | separator
  | unknown
  deriving DecidableEq, Repr

namespace Word

/-- A word with two dashes. -/
def ofName (text : List Char) : Word :=
  let name := String.ofList (text.takeWhile (· != '='))
  let attached := match text.dropWhile (· != '=') with
    | [] => none
    | _ :: value => some (String.ofList value)
  match ValueOption.all.find? (·.name == name) with
  | some found => option found attached
  | none =>
    if attached.isSome then unknown
    else match Switch.all.find? (·.name == name), Enquiry.all.find? (·.name == name) with
      | some found, _ => switch found
      | none, some found => enquiry found
      | none, none => unknown

/-- A word with one dash. -/
def ofLetter (letter : Char) (text : List Char) : Word :=
  match ValueOption.all.find? (·.letter? == some letter) with
  | some found =>
    option found (match text with
      | [] => none
      | '=' :: value => some (String.ofList value)
      | value => some (String.ofList value))
  | none =>
    match Enquiry.all.find? (·.letter == letter) with
    | some found => enquiry found
    | none => unknown

/-- What a word says. -/
def ofText (text : String) : Word :=
  match text.toList with
  | ['-', '-'] => separator
  | '-' :: '-' :: rest => ofName rest
  | '-' :: letter :: rest => ofLetter letter rest
  | _ => unknown

/-- The word can be the value of the option in front of it. -/
def isValue (text : String) : Bool :=
  match text.toList with
  | '-' :: _ :: _ => false
  | _ => true

end Word

/-! ## Options -/

/-- What a run is told. -/
structure Options where
  config : Option String
  writeDefaultConfig : Bool
  input : Option String
  frameId : String
  bigEndian : Bool
  output : Option String
  noiseOutput : Option String
  gridOutput : Option String
  publishNoise : Bool
  deriving DecidableEq, Repr

/-- What a command line asks for. -/
inductive Request where
  | answer (question : Enquiry)
  | run (options : Options)
  deriving DecidableEq, Repr

/-- Options set by the words so far. -/
structure Given where
  values : List (ValueOption × String)
  switches : List Switch
  deriving DecidableEq, Repr

namespace Given

/-- No option is set. -/
def nothing : Given := ⟨[], []⟩

/-- The value of an option, if it is set. -/
def value? (given : Given) (option : ValueOption) : Option String := given.values.lookup option

/-- An option that takes no value is set. -/
def has (given : Given) (switch : Switch) : Bool := given.switches.contains switch

/-- Sets an option that takes a value, unless it is set or may not have this value. -/
def setValue? (given : Given) (option : ValueOption) (value : String) : Option Given :=
  if (given.value? option).isSome || (value.isEmpty && !option.takesEmpty) then none
  else some { given with values := (option, value) :: given.values }

/-- Sets an option that takes no value, unless it is set. -/
def setSwitch? (given : Given) (switch : Switch) : Option Given :=
  if given.has switch then none
  else some { given with switches := switch :: given.switches }

/-- The request of all words: there has to be an input, unless only settings are written. -/
def request? (given : Given) : Option Request :=
  if (given.value? .input).isNone && !given.has .writeDefaultConfig then none
  else some (.run {
    config := given.value? .config
    writeDefaultConfig := given.has .writeDefaultConfig
    input := given.value? .input
    frameId := (given.value? .frameId).getD "lidar"
    bigEndian := given.has .bigEndian
    output := given.value? .output
    noiseOutput := given.value? .noiseOutput
    gridOutput := given.value? .gridOutput
    publishNoise := given.has .publishNoise })

/-- Takes words one after the other. -/
def take? : List String → Given → Option Request
  | [], given => given.request?
  | text :: rest, given =>
    match Word.ofText text with
    | .enquiry question => some (.answer question)
    | .switch switch => (given.setSwitch? switch).bind (take? rest)
    | .option option (some value) => (given.setValue? option value).bind (take? rest)
    | .option option none =>
      match rest with
      | value :: rest =>
        if Word.isValue value then (given.setValue? option value).bind (take? rest) else none
      | [] => none
    | .separator => if rest.isEmpty then given.request? else none
    | .unknown => none

end Given

/-- The request of a command line, if it keeps the rules. -/
def Request.parse? (words : List String) : Option Request := Given.nothing.take? words

end LidarSieve
