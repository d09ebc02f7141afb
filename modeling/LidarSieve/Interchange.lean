import LidarSieve.Json
import LidarSieve.Parameters.Basic
/-!
# Interchange

The JSON forms of scalars, fields, faults and region modes.

* A kind of scalar is its name, or a record that has nothing but this name as a key and no
  value under it.
* A field is a record of its four parts, or the list of them in order.  A record may have
  further keys.
* A fault is a record with the kind of the fault as its only key; a fault without a cause
  is written as a kind of scalar is.
* A region mode is its name, and every text is read as some mode.
-/
set_option autoImplicit false

namespace LidarSieve

/-! ## Choices -/

/-- A choice between kinds, and what it was given: nothing stands for a bare name. -/
def Json.choice? : Json → Option (String × Option Json)
  | .text kind => some (kind, none)
  | .record [(kind, content)] => some (kind, some content)
  | _ => none

/-- Nothing was given to a choice. -/
def isBare : Option Json → Bool
  | none => true
  | some .null => true
  | some _ => false

/-! ## Scalars and fields -/

/-- The JSON form of a kind of scalar. -/
def Scalar.toJson (kind : Scalar) : Json := .text kind.name

/-- The kind of scalar of a JSON form. -/
def Scalar.ofJson? (json : Json) : Option Scalar := do
  let (name, content) ← json.choice?
  if isBare content then Scalar.ofName? name else none

/-- A count of 32 bits. -/
def Json.word? (json : Json) : Option UInt32 := (json.count? UInt32.size).map UInt32.ofNat

namespace Field

/-- The JSON form of a field. -/
def toJson (field : Field) : Json :=
  .record [("name", .text field.name), ("offset", .count field.offset.toNat),
    ("datatype", field.kind.toJson), ("count", .count field.count.toNat)]

/-- The field of the JSON forms of its parts. -/
def ofParts? (name offset kind count : Json) : Option Field := do
  return { name := ← name.text?, offset := ← offset.word?, kind := ← Scalar.ofJson? kind
           count := ← count.word? }

/-- The field of a JSON form. -/
def ofJson? : Json → Option Field
  | .list [name, offset, kind, count] => ofParts? name offset kind count
  | json => do
    ofParts? (← json.entry? "name") (← json.entry? "offset") (← json.entry? "datatype")
      (← json.entry? "count")

end Field

/-! ## Faults -/

namespace Fault

/-- What a fault's JSON form holds under its kind. -/
def content : Fault → Json
  | missingField field => .text field
  | fieldType field expected actual =>
    .record [("field", .text field), ("expected", expected.toJson), ("actual", actual.toJson)]
  | fieldOutOfBounds field offset pointStep =>
    .record [("field", .text field), ("offset", .count offset.toNat),
      ("point_step", .count pointStep.toNat)]
  | zeroStride => .null
  | bufferLength expected actual =>
    .record [("expected", .count expected), ("actual", .count actual)]
  | unknownRegionMode name => .text name
  | invalidParameter complaint => .text complaint

/-- The JSON form of a fault. -/
def toJson (fault : Fault) : Json :=
  match fault with
  | zeroStride => .text fault.kind
  | _ => .record [(fault.kind, fault.content)]

/-- The fault of a kind and a content. -/
def ofContent? (kind : String) (content : Json) : Option Fault :=
  if kind = "MissingField" then content.text?.map missingField
  else if kind = "UnknownRoiMode" then content.text?.map unknownRegionMode
  else if kind = "InvalidConfig" then content.text?.map invalidParameter
  else if kind = "FieldType" then do
    return fieldType (← (← content.entry? "field").text?)
      (← Scalar.ofJson? (← content.entry? "expected"))
      (← Scalar.ofJson? (← content.entry? "actual"))
  else if kind = "FieldOutOfBounds" then do
    return fieldOutOfBounds (← (← content.entry? "field").text?)
      (← (← content.entry? "offset").word?) (← (← content.entry? "point_step").word?)
  else if kind = "BufferLength" then do
    return bufferLength (← (← content.entry? "expected").count? sizeBound)
      (← (← content.entry? "actual").count? sizeBound)
  else none

/-- The fault of a JSON form. -/
def ofJson? (json : Json) : Option Fault := do
  let (kind, content) ← json.choice?
  if kind = "ZeroStride" then
    if isBare content then some zeroStride else none
  else ofContent? kind (← content)

end Fault

/-! ## Region modes -/

/-- The JSON form of a region mode. -/
def RegionMode.toJson (mode : RegionMode) : Json := .text mode.name

/-- The region mode of a JSON form, with what reading it reports. -/
def RegionMode.ofJson? (json : Json) : Option (RegionMode × List Event) :=
  json.text?.map parseOrDefault

end LidarSieve
