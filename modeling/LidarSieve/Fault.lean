import LidarSieve.Cloud
/-!
# Faults

What can be wrong with a scan or with a set of parameters.  A fault carries its cause;
`Fault.message` is the one place where causes are put into words.
-/
set_option autoImplicit false

namespace LidarSieve

/-- Why a scan or a parameter is refused. -/
inductive Fault where
  /-- A field that every scan needs is not declared. -/
  | missingField (field : String)
  /-- A field is declared with another kind of scalar than is needed. -/
  | fieldType (field : String) (expected actual : Scalar)
  /-- A field reaches past the end of its record. -/
  | fieldOutOfBounds (field : String) (offset pointStep : UInt32)
  /-- Records have no octets. -/
  | zeroStride
  /-- The buffer does not hold the declared records. -/
  | bufferLength (expected actual : Nat)
  /-- No region mode has this name. -/
  | unknownRegionMode (name : String)
  /-- A parameter has a value that filtering cannot work with. -/
  | invalidParameter (complaint : String)
  deriving DecidableEq, Repr

namespace Fault

/-- The fault in words. -/
def message : Fault → String
  | missingField field => "Malformed input: required field '" ++ field ++ "' is missing"
  | fieldType field expected actual =>
    "Malformed input: field '" ++ field ++ "' has datatype " ++ actual.name ++ ", expected " ++
      expected.name
  | fieldOutOfBounds field offset pointStep =>
    "Malformed input: field '" ++ field ++ "' at offset " ++ toString offset ++
      " does not fit in a " ++ toString pointStep ++ "-byte record"
  | zeroStride => "Malformed input: point_step is zero"
  | bufferLength expected actual =>
    "Malformed input: buffer holds " ++ toString actual ++ " bytes, expected " ++
      toString expected
  | unknownRegionMode name => "Configuration Error: unknown ROI mode '" ++ name ++ "'"
  | invalidParameter complaint => "Configuration Error: " ++ complaint

/-- The kind of fault, by the name that documents use. -/
def kind : Fault → String
  | missingField _ => "MissingField"
  | fieldType _ _ _ => "FieldType"
  | fieldOutOfBounds _ _ _ => "FieldOutOfBounds"
  | zeroStride => "ZeroStride"
  | bufferLength _ _ => "BufferLength"
  | unknownRegionMode _ => "UnknownRoiMode"
  | invalidParameter _ => "InvalidConfig"

end Fault

/-- Why work yields nothing. -/
inductive Failure (cause : Type) where
  /-- What was given is refused. -/
  | refused (cause : cause)
  /-- A size or count was needed that is none, or a record, a cell or room that does not
  exist. -/
  | overrun
  deriving DecidableEq, Repr

end LidarSieve
