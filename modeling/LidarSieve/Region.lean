import LidarSieve.Parameters.Basic
import LidarSieve.Pose
import LidarSieve.Walk
/-!
# Regions

The part of space whose points count for the visibility: all of it, the inside of a box
with edges along the axes, or a sector around the sensor.
-/
set_option autoImplicit false

namespace LidarSieve

open LidarSieve.Binary

/-! ## Boxes -/

/-- A box, by its least and its greatest corner. -/
structure Box where
  low : Triple Single
  high : Triple Single
  deriving DecidableEq

namespace Box

/-- The box of two opposite corners, given in any order. -/
def spanning (a b : Triple Single) : Box where
  low := ⟨a.x.minimum b.x, a.y.minimum b.y, a.z.minimum b.z⟩
  high := ⟨a.x.maximum b.x, a.y.maximum b.y, a.z.maximum b.z⟩

/-- The point lies between the corners along every axis; the faces do not belong to the
inside. -/
def inside (box : Box) (p : Triple Single) : Bool :=
  box.low.x.lt p.x && p.x.lt box.high.x && box.low.y.lt p.y && p.y.lt box.high.y &&
    box.low.z.lt p.z && p.z.lt box.high.z

end Box

/-! ## Regions -/

/-- A part of space. -/
inductive Region where
  | everywhere
  | box (bounds : Box)
  /-- Directions in hundredths of a degree, ranges in metres; the bounds do not belong to
  the sector. -/
  | sector (minAzimuth maxAzimuth maxDistance : Single)
  deriving DecidableEq

namespace Region

/-- The region that the parameters choose. -/
def ofParameters (p : Parameters) : Region :=
  match p.regionMode with
  | .everywhere => everywhere
  | .box => box (.spanning ⟨p.xMin, p.yMin, p.zMin⟩ ⟨p.xMax, p.yMax, p.zMax⟩)
  | .sector => sector (p.minAzimuthDeg * 100) (p.maxAzimuthDeg * 100) p.maxDistance

/-- The directions that the region spans, in hundredths of a degree. -/
def azimuthRange : Region → Single × Single
  | .sector minAzimuth maxAzimuth _ => (minAzimuth, maxAzimuth)
  | .everywhere => (0, fullTurn)
  | .box _ => (0, fullTurn)

/-- The return came from inside the region. -/
def accepts (region : Region) (r : Return) : Bool :=
  match region with
  | .everywhere => true
  | .box bounds => bounds.inside ⟨r.x, r.y, r.z⟩
  | .sector minAzimuth maxAzimuth maxDistance =>
    minAzimuth.lt r.azimuth && r.azimuth.lt maxAzimuth && r.distance.lt maxDistance

end Region

end LidarSieve
