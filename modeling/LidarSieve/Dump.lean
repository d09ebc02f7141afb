import LidarSieve.Sensor
import LidarSieve.Visibility
/-!
# Dumps and images

Scans are recorded as dumps: the records of a sensor one after the other, without a header.
Visibility grids are written as grey images with one pixel for a cell.
-/
set_option autoImplicit false

namespace LidarSieve

/-! ## Dumps of scans -/

/-- Why octets are no dump. -/
inductive DumpFault where
  /-- The last record is not complete. -/
  | partialRecord (size : Nat)
  /-- There are more records than a cloud can have. -/
  | tooLarge (size : Nat)
  deriving DecidableEq, Repr

/-- The fault in words. -/
def DumpFault.message : DumpFault → String
  | partialRecord size =>
    "Scan is " ++ toString size ++ " bytes, not a whole number of " ++ toString sensorStep ++
      "-byte records"
  | tooLarge size => "Scan of " ++ toString size ++ " bytes is too large"

/-- The scan of a dump. -/
def Cloud.ofDump (header : Header) (bigEndian : Bool) (dump : Octets) :
    Except (Failure DumpFault) Cloud :=
  let step := sensorStep.toNat
  if dump.size % step ≠ 0 then .error (.refused (.partialRecord dump.size))
  else if UInt32.size ≤ dump.size / step then .error (.refused (.tooLarge dump.size))
  else
    match Cloud.ofSensorData? header bigEndian (dump.size / step) dump with
    | none => .error .overrun
    | some cloud => .ok cloud

/-! ## Grey images -/

/-- The text in front of the pixels: a mark, width and height, and the value of white. -/
def imageHeader (width height : Nat) : String :=
  "P5\n" ++ toString width ++ " " ++ toString height ++ "\n255\n"

/-- The image of a visibility grid. -/
def Visibility.image (v : Visibility) : Octets :=
  (imageHeader v.columns v.rows.toNat).toUTF8.data ++ v.cells

end LidarSieve
