import LidarSieve.Octets
/-!
# Point clouds

A cloud is a buffer of records of one length.  Its list of fields says which scalar stands
at which offset of a record; where two fields share a name the first one counts.

Two field lists are standard: the one of the clouds that spinning sensors publish
(`sensorFields`, records of 48 octets) and the one of the clouds written here
(`spotFields`, records of 16 octets).
-/
set_option autoImplicit false

namespace LidarSieve

/-! ## Scalars and fields -/

/-- The kind of scalar that a field holds. -/
inductive Scalar where
  | int8
  | uint8
  | int16
  | uint16
  | int32
  | uint32
  | float32
  | float64
  deriving DecidableEq, Repr, Inhabited

namespace Scalar

/-- Every kind, in the order of their numbers. -/
def all : List Scalar := [int8, uint8, int16, uint16, int32, uint32, float32, float64]

/-- The number that stands for the kind in a message. -/
def number : Scalar → Nat
  | int8 => 1
  | uint8 => 2
  | int16 => 3
  | uint16 => 4
  | int32 => 5
  | uint32 => 6
  | float32 => 7
  | float64 => 8

/-- Octets of one scalar. -/
def size : Scalar → Nat
  | int8 | uint8 => 1
  | int16 | uint16 => 2
  | int32 | uint32 | float32 => 4
  | float64 => 8

/-- The name that messages and documents use. -/
def name : Scalar → String
  | int8 => "Int8"
  | uint8 => "Uint8"
  | int16 => "Int16"
  | uint16 => "Uint16"
  | int32 => "Int32"
  | uint32 => "Uint32"
  | float32 => "Float32"
  | float64 => "Float64"

/-- A name tells the sort of number and how many bits it has. -/
theorem exists_name_eq (s : Scalar) :
    ∃ sort ∈ ["Int", "Uint", "Float"], s.name = sort ++ toString (8 * s.size) := by
  cases s <;> decide

/-- The kind of a name. -/
def ofName? (name : String) : Option Scalar := all.find? (·.name == name)

end Scalar

/-- A named scalar inside a record. -/
structure Field where
  name : String
  offset : UInt32
  kind : Scalar
  count : UInt32 := 1
  deriving DecidableEq, Repr

/-! ## Clouds -/

/-- The frame of a cloud, and when it was taken, in nanoseconds since 1970. -/
structure Header where
  frame : String
  stamp : Int
  deriving DecidableEq, Repr

/-- A buffer of records, and how to read them. -/
structure Cloud where
  header : Header
  height : UInt32
  width : UInt32
  fields : List Field
  bigEndian : Bool
  /-- Octets of one record. -/
  pointStep : UInt32
  /-- Octets of one row. -/
  rowStep : UInt32
  data : Octets
  /-- No record holds an invalid point. -/
  dense : Bool
  deriving DecidableEq, Repr

namespace Cloud

/-- Records that the cloud declares. -/
def pointCount (cloud : Cloud) : Nat := cloud.width.toNat * cloud.height.toNat

/-- The first field of a name. -/
def field? (cloud : Cloud) (name : String) : Option Field :=
  cloud.fields.find? (·.name == name)

end Cloud

/-! ## Sizes -/

/-- Sizes are words of 64 bits.  There is no size from this bound on: work that needs one is
given up. -/
def sizeBound : Nat := UInt64.size

/-- The greatest size that a buffer can have. -/
def maxBuffer : Nat := 9223372036854775807

/-- A cloud of one row of `count` records.  The width of a cloud is a word, so it counts
modulo its bound; the octets of the row are a word as well, and where they are too many for
one there is no cloud. -/
def Cloud.ofRow? (header : Header) (bigEndian : Bool) (fields : List Field) (step : UInt32)
    (count : Nat) (data : Octets) (dense : Bool) : Option Cloud :=
  let width := UInt32.ofNat count
  if width.toNat * step.toNat < UInt32.size then
    some {
      header
      height := 1
      width
      fields
      bigEndian
      pointStep := step
      rowStep := width * step
      data
      dense }
  else none

/-! ## Standard records -/

/-- Octets of a record with position and intensity. -/
def spotStep : UInt32 := 16

/-- Fields of a record with position and intensity. -/
def spotFields : List Field :=
  [{ name := "x", offset := 0, kind := .float32 },
   { name := "y", offset := 4, kind := .float32 },
   { name := "z", offset := 8, kind := .float32 },
   { name := "intensity", offset := 12, kind := .float32 }]

/-- Octets of a sensor's record. -/
def sensorStep : UInt32 := 48

/-- Fields of a sensor's record. -/
def sensorFields : List Field :=
  [{ name := "x", offset := 0, kind := .float32 },
   { name := "y", offset := 4, kind := .float32 },
   { name := "z", offset := 8, kind := .float32 },
   { name := "intensity", offset := 12, kind := .float32 },
   { name := "ring", offset := 16, kind := .uint16 },
   { name := "azimuth", offset := 20, kind := .float32 },
   { name := "elevation", offset := 24, kind := .float32 },
   { name := "distance", offset := 28, kind := .float32 },
   { name := "return_type", offset := 32, kind := .uint8 },
   { name := "time_stamp", offset := 40, kind := .float64 }]

end LidarSieve
