import LidarSieve.Parameters.Basic
import LidarSieve.Pose
/-!
# Settings

What is kept between runs: the parameters of the filter and, if there is one, the mount of
the sensor.
-/
set_option autoImplicit false

namespace LidarSieve

open LidarSieve.Binary

/-- How the sensor is mounted in another frame. -/
structure Mount where
  frame : String
  /-- Metres along the axes. -/
  shift : Triple Single := ⟨0, 0, 0⟩
  /-- It is normalised before use. -/
  rotation : Quaternion Single := .identity
  deriving DecidableEq

namespace Mount

/-- The transform into the frame that the sensor is mounted in. -/
def transform (mount : Mount) : Transform :=
  .ofPose mount.frame ⟨mount.shift, mount.rotation.normalized⟩

/-- The numbers of a mount: the shift, then the rotation. -/
def numbers (mount : Mount) : List Single :=
  [mount.shift.x, mount.shift.y, mount.shift.z, mount.rotation.w, mount.rotation.x,
   mount.rotation.y, mount.rotation.z]

/-- The two mounts have the same frame, and numbers of the same value. -/
def same (a b : Mount) : Bool :=
  a.frame == b.frame && (a.numbers.zip b.numbers).all fun (x, y) => x.same y

end Mount

/-- What is kept between runs. -/
structure Settings where
  parameters : Parameters := .standard
  mount : Option Mount := none
  deriving DecidableEq

namespace Settings

/-- The settings of a sieve that is told nothing. -/
def standard : Settings := {}

/-- The two settings hold the same values; a not-a-number differs from itself. -/
def same (a b : Settings) : Bool :=
  Key.all.all (fun key => !(a.parameters.get key).differs (b.parameters.get key)) &&
    match a.mount, b.mount with
    | none, none => true
    | some a, some b => a.same b
    | _, _ => false

end Settings

end LidarSieve
