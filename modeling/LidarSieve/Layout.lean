import LidarSieve.Fault
/-!
# Layout of a scan's records

Before any record of a scan is read, the fields that filtering needs are looked up once:
each has to be declared with the kind of scalar it is read as, and has to lie inside the
record.
-/
set_option autoImplicit false

namespace LidarSieve

/-- Offsets of the needed fields inside a record of `step` octets. -/
structure Layout where
  step : Nat
  x : Nat
  y : Nat
  z : Nat
  intensity : Nat
  ring : Nat
  azimuth : Nat
  distance : Nat
  order : ByteOrder
  deriving DecidableEq, Repr

namespace Layout

/-- The offset of a needed field: it has to be declared, then to be of the expected kind,
then to fit in the record. -/
def offsetOf (cloud : Cloud) (name : String) (expected : Scalar) : Except Fault Nat :=
  match cloud.field? name with
  | none => .error (.missingField name)
  | some field =>
    if field.kind ≠ expected then .error (.fieldType name expected field.kind)
    else if cloud.pointStep.toNat < field.offset.toNat + expected.size then
      .error (.fieldOutOfBounds name field.offset cloud.pointStep)
    else .ok field.offset.toNat

/-- The layout that a cloud declares, or the first fault in it. -/
def ofCloud (cloud : Cloud) : Except Fault Layout :=
  if cloud.pointStep = 0 then .error .zeroStride
  else do
    let x ← offsetOf cloud "x" .float32
    let y ← offsetOf cloud "y" .float32
    let z ← offsetOf cloud "z" .float32
    let intensity ← offsetOf cloud "intensity" .float32
    let ring ← offsetOf cloud "ring" .uint16
    let azimuth ← offsetOf cloud "azimuth" .float32
    let distance ← offsetOf cloud "distance" .float32
    return {
      step := cloud.pointStep.toNat
      x, y, z, intensity, ring, azimuth, distance
      order := .ofFlag cloud.bigEndian }

end Layout

end LidarSieve
