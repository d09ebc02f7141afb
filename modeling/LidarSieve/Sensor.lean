import LidarSieve.Cloud
import LidarSieve.Binary.Circle
/-!
# Sensor records

The records that a spinning sensor publishes, and the cloud they are packed into: one row,
`sensorStep` octets a record, zero octets between the fields.
-/
set_option autoImplicit false

namespace LidarSieve

open LidarSieve.Binary

/-- One echo as the sensor reports it. -/
structure SensorRecord where
  x : Single
  y : Single
  z : Single
  intensity : Single
  ring : UInt16
  /-- Hundredths of a degree. -/
  azimuth : Single
  elevation : Single := 0
  /-- Metres. -/
  distance : Single
  returnType : UInt8 := 0
  timeStamp : Double := 0
  deriving DecidableEq

namespace SensorRecord

/-- An echo in the horizontal plane, placed by its direction and range. -/
def polar (ring : UInt16) (azimuth distance : Single) : SensorRecord :=
  let angle := (azimuth / 100).toRadians
  { x := distance * angle.cos, y := distance * angle.sin, z := 0, intensity := 0
    ring, azimuth, distance }

/-- The octets of a record. -/
def octets (order : ByteOrder) (r : SensorRecord) : List UInt8 :=
  order.encode 4 r.x.toBits ++ order.encode 4 r.y.toBits ++ order.encode 4 r.z.toBits ++
    order.encode 4 r.intensity.toBits ++ order.encode 2 r.ring.toNat ++ [0, 0] ++
    order.encode 4 r.azimuth.toBits ++ order.encode 4 r.elevation.toBits ++
    order.encode 4 r.distance.toBits ++ [r.returnType] ++ [0, 0, 0, 0, 0, 0, 0] ++
    order.encode 8 r.timeStamp.toBits

end SensorRecord

/-- Octets already packed, as a cloud of one row of `count` sensor records. -/
def Cloud.ofSensorData? (header : Header) (bigEndian : Bool) (count : Nat) (data : Octets) :
    Option Cloud :=
  Cloud.ofRow? header bigEndian sensorFields sensorStep count data true

/-- Records packed into a cloud of one row, unless they are too many for one. -/
def Cloud.ofSensorRecords? (header : Header) (bigEndian : Bool) (records : List SensorRecord) :
    Option Cloud :=
  Cloud.ofSensorData? header bigEndian records.length
    (records.flatMap (SensorRecord.octets (.ofFlag bigEndian))).toArray

end LidarSieve
