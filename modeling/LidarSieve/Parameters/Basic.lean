import LidarSieve.Binary.Notation
import LidarSieve.Event
import LidarSieve.Fault
/-!
# Parameters

The nineteen parameters of the filter.  Besides the structure that holds them there is a
`Key` for each, in the order in which they are declared, written and compared; `get` and
`set` give access by key, so that whatever goes through all parameters (documents,
overrides, logs) is written once for all keys.
-/
set_option autoImplicit false

namespace LidarSieve

open LidarSieve.Binary

/-! ## Region modes -/

/-- Which points count for the visibility. -/
inductive RegionMode where
  /-- All of them. -/
  | everywhere
  /-- Those inside the box of the position bounds. -/
  | box
  /-- Those inside the sector of the azimuth bounds and nearer than the greatest range. -/
  | sector
  deriving DecidableEq, Repr, Inhabited

namespace RegionMode

/-- The name of a mode in documents. -/
def name : RegionMode → String
  | everywhere => "Fixed_xyz_ROI"
  | box => "Box_ROI"
  | sector => "Fixed_azimuth_ROI"

/-- The label of a mode in logs of changes. -/
def label : RegionMode → String
  | everywhere => "FixedXyz"
  | box => "Box"
  | sector => "Azimuth"

/-- The mode of a name.  The first mode has a second name. -/
def parse (name : String) : Except Fault RegionMode :=
  if name = "Fixed_xyz_ROI" ∨ name = "No_ROI" then .ok everywhere
  else if name = "Box_ROI" then .ok box
  else if name = "Fixed_azimuth_ROI" then .ok sector
  else .error (.unknownRegionMode name)

/-- The mode of a name; an unknown name stands for the first mode, and is reported. -/
def parseOrDefault (name : String) : RegionMode × List Event :=
  match parse name with
  | .ok mode => (mode, [])
  | .error fault => (everywhere, [.regionModeReplaced fault.message everywhere.name])

end RegionMode

/-! ## The parameters -/

/-- What the filter can be told.  The value of a field is the one that the parameter has in a
document that does not name it. -/
structure Parameters where
  /-- Neighbouring ranges are similar if the greater is less than this times the lesser. -/
  distanceRatio : Single := Number.ofDecimal false ⟨103, -2⟩
  /-- A walk from end to end as long as this, in metres, is an object. -/
  objectLengthThreshold : Single := Number.ofDecimal false ⟨1, -1⟩
  /-- A walk with as many points as this is an object. -/
  numPointsThreshold : UInt64 := 4
  maxRings : UInt16 := 128
  maxPointsPerRing : UInt64 := 4000
  /-- Also write the rejected points, and estimate the visibility. -/
  publishNoisePoints : Bool := false
  xMin : Single := -12
  xMax : Single := 18
  yMin : Single := -2
  yMax : Single := 2
  zMin : Single := 0
  zMax : Single := 10
  minAzimuthDeg : Single := 135
  maxAzimuthDeg : Single := 225
  maxDistance : Single := 12
  /-- Rows of the visibility grid. -/
  verticalBins : UInt64 := 128
  /-- Kept in documents, and used by nothing else. -/
  maxAzimuthDiff : Single := 50
  /-- A cell of the visibility grid with more points than this is filled. -/
  noiseThreshold : UInt8 := 2
  regionMode : RegionMode := .everywhere
  deriving DecidableEq

namespace Parameters

/-- The parameters of a filter that is told nothing. -/
def standard : Parameters where
  distanceRatio := Number.ofDecimal false ⟨103, -2⟩
  objectLengthThreshold := Number.ofDecimal false ⟨1, -1⟩
  numPointsThreshold := 4
  maxRings := 128
  maxPointsPerRing := 4000
  publishNoisePoints := false
  xMin := -12
  xMax := 18
  yMin := -2
  yMax := 2
  zMin := 0
  zMax := 10
  minAzimuthDeg := 135
  maxAzimuthDeg := 225
  maxDistance := 12
  verticalBins := 128
  maxAzimuthDiff := 50
  noiseThreshold := 2
  regionMode := .everywhere

instance : Inhabited Parameters := ⟨standard⟩

/-- The parameters of a document that names none of them. -/
def unnamed : Parameters := {}

/-- Whoever is told nothing, and whoever reads nothing, takes the same values. -/
theorem unnamed_eq_standard : unnamed = standard := rfl

end Parameters

/-! ## Access by key -/

/-- A parameter. -/
inductive Key where
  | distanceRatio
  | objectLengthThreshold
  | numPointsThreshold
  | maxRings
  | maxPointsPerRing
  | publishNoisePoints
  | xMin
  | xMax
  | yMin
  | yMax
  | zMin
  | zMax
  | minAzimuthDeg
  | maxAzimuthDeg
  | maxDistance
  | verticalBins
  | maxAzimuthDiff
  | noiseThreshold
  | regionMode
  deriving DecidableEq, Repr

/-- What values a parameter takes. -/
inductive Domain where
  | real
  /-- Counts below a bound. -/
  | count (bound : Nat)
  | flag
  | mode
  deriving DecidableEq, Repr

/-- A value of a parameter. -/
inductive Setting where
  | real (x : Single)
  | count (n : Nat)
  | flag (b : Bool)
  | mode (m : RegionMode)
  deriving DecidableEq

namespace Key

/-- Every parameter, in the order of declaration. -/
def all : List Key :=
  [distanceRatio, objectLengthThreshold, numPointsThreshold, maxRings, maxPointsPerRing,
   publishNoisePoints, xMin, xMax, yMin, yMax, zMin, zMax, minAzimuthDeg, maxAzimuthDeg,
   maxDistance, verticalBins, maxAzimuthDiff, noiseThreshold, regionMode]

/-- The name of a parameter in documents and logs. -/
def name : Key → String
  | distanceRatio => "distance_ratio"
  | objectLengthThreshold => "object_length_threshold"
  | numPointsThreshold => "num_points_threshold"
  | maxRings => "max_rings"
  | maxPointsPerRing => "max_points_per_ring"
  | publishNoisePoints => "publish_noise_points"
  | xMin => "x_min"
  | xMax => "x_max"
  | yMin => "y_min"
  | yMax => "y_max"
  | zMin => "z_min"
  | zMax => "z_max"
  | minAzimuthDeg => "min_azimuth_deg"
  | maxAzimuthDeg => "max_azimuth_deg"
  | maxDistance => "max_distance"
  | verticalBins => "vertical_bins"
  | maxAzimuthDiff => "max_azimuth_diff"
  | noiseThreshold => "noise_threshold"
  | regionMode => "roi_mode"

/-- The parameter of a name. -/
def ofName? (name : String) : Option Key := all.find? (·.name == name)

/-- The values that a parameter takes. -/
def domain : Key → Domain
  | numPointsThreshold | maxPointsPerRing | verticalBins => .count UInt64.size
  | maxRings => .count UInt16.size
  | noiseThreshold => .count UInt8.size
  | publishNoisePoints => .flag
  | regionMode => .mode
  | _ => .real

end Key

namespace Setting

/-- The two values are not the same.  Reals are compared as values, so that the two zeros
are the same and a not-a-number differs from itself. -/
def differs : Setting → Setting → Bool
  | real x, real y => !x.same y
  | s, t => s != t

/-- The value as logs of changes show it. -/
def render : Setting → String
  | real x => x.detailed
  | count n => toString n
  | flag b => toString b
  | mode m => m.label

/-- The value is one of the domain. -/
def inDomain : Setting → Domain → Bool
  | real _, .real => true
  | count n, .count bound => decide (n < bound)
  | flag _, .flag => true
  | mode _, .mode => true
  | _, _ => false

end Setting

namespace Parameters

/-- The value of a parameter. -/
def get (p : Parameters) : Key → Setting
  | .distanceRatio => .real p.distanceRatio
  | .objectLengthThreshold => .real p.objectLengthThreshold
  | .numPointsThreshold => .count p.numPointsThreshold.toNat
  | .maxRings => .count p.maxRings.toNat
  | .maxPointsPerRing => .count p.maxPointsPerRing.toNat
  | .publishNoisePoints => .flag p.publishNoisePoints
  | .xMin => .real p.xMin
  | .xMax => .real p.xMax
  | .yMin => .real p.yMin
  | .yMax => .real p.yMax
  | .zMin => .real p.zMin
  | .zMax => .real p.zMax
  | .minAzimuthDeg => .real p.minAzimuthDeg
  | .maxAzimuthDeg => .real p.maxAzimuthDeg
  | .maxDistance => .real p.maxDistance
  | .verticalBins => .count p.verticalBins.toNat
  | .maxAzimuthDiff => .real p.maxAzimuthDiff
  | .noiseThreshold => .count p.noiseThreshold.toNat
  | .regionMode => .mode p.regionMode

/-- The parameters with one value replaced.  A value outside the parameter's domain
replaces nothing. -/
def set (p : Parameters) (key : Key) (value : Setting) : Parameters :=
  if value.inDomain key.domain then
    match key, value with
    | .distanceRatio, .real x => { p with distanceRatio := x }
    | .objectLengthThreshold, .real x => { p with objectLengthThreshold := x }
    | .numPointsThreshold, .count n => { p with numPointsThreshold := UInt64.ofNat n }
    | .maxRings, .count n => { p with maxRings := UInt16.ofNat n }
    | .maxPointsPerRing, .count n => { p with maxPointsPerRing := UInt64.ofNat n }
    | .publishNoisePoints, .flag b => { p with publishNoisePoints := b }
    | .xMin, .real x => { p with xMin := x }
    | .xMax, .real x => { p with xMax := x }
    | .yMin, .real x => { p with yMin := x }
    | .yMax, .real x => { p with yMax := x }
    | .zMin, .real x => { p with zMin := x }
    | .zMax, .real x => { p with zMax := x }
    | .minAzimuthDeg, .real x => { p with minAzimuthDeg := x }
    | .maxAzimuthDeg, .real x => { p with maxAzimuthDeg := x }
    | .maxDistance, .real x => { p with maxDistance := x }
    | .verticalBins, .count n => { p with verticalBins := UInt64.ofNat n }
    | .maxAzimuthDiff, .real x => { p with maxAzimuthDiff := x }
    | .noiseThreshold, .count n => { p with noiseThreshold := UInt8.ofNat n }
    | .regionMode, .mode m => { p with regionMode := m }
    | _, _ => p
  else p

end Parameters

end LidarSieve
