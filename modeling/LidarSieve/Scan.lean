import LidarSieve.Layout
import LidarSieve.Binary.Number
/-!
# Scans

A scan is a cloud whose layout has been checked and whose buffer has the declared length.
Its records are read as *returns*: what filtering knows of one echo of the laser.

The declared length has to be a size (`sizeBound`).
-/
set_option autoImplicit false

namespace LidarSieve

open LidarSieve.Binary

/-- One echo: where it came from, how strong it was, and the ring, the direction in
hundredths of a degree and the range in metres at which it was received. -/
structure Return where
  x : Single
  y : Single
  z : Single
  intensity : Single
  ring : Nat
  azimuth : Single
  distance : Single
  deriving DecidableEq

/-- A checked cloud of `length` records. -/
structure Scan where
  layout : Layout
  data : Octets
  length : Nat
  /-- The buffer holds every record and nothing else. -/
  size_data : data.size = length * layout.step
  deriving DecidableEq

/-- The four-octet word at a place of a buffer. -/
def ByteOrder.real (order : ByteOrder) (data : Octets) (start : Nat) : Single :=
  Number.ofBits (order.decode (data.slice start 4))

/-- The return whose record starts at a place of the buffer. -/
def Layout.read (layout : Layout) (data : Octets) (start : Nat) : Return where
  x := layout.order.real data (start + layout.x)
  y := layout.order.real data (start + layout.y)
  z := layout.order.real data (start + layout.z)
  intensity := layout.order.real data (start + layout.intensity)
  ring := layout.order.decode (data.slice (start + layout.ring) 2)
  azimuth := layout.order.real data (start + layout.azimuth)
  distance := layout.order.real data (start + layout.distance)

namespace Scan

/-- The scan of a cloud, or what is wrong with the cloud. -/
def ofCloud (cloud : Cloud) : Except (Failure Fault) Scan :=
  match Layout.ofCloud cloud with
  | .error fault => .error (.refused fault)
  | .ok layout =>
    let expected := cloud.pointCount * layout.step
    if sizeBound ≤ expected then .error .overrun
    else if size_data : cloud.data.size = expected then
      .ok ⟨layout, cloud.data, cloud.pointCount, size_data⟩
    else .error (.refused (.bufferLength expected cloud.data.size))

/-- The return of a record. -/
def return? (scan : Scan) (index : Nat) : Option Return :=
  if index < scan.length then some (scan.layout.read scan.data (index * scan.layout.step))
  else none

/-- Every return of the scan in the order of its records. -/
def returns (scan : Scan) : Array Return :=
  Array.ofFn fun index : Fin scan.length => scan.layout.read scan.data (index * scan.layout.step)

theorem size_returns (scan : Scan) : scan.returns.size = scan.length := by
  unfold returns
  exact Array.size_ofFn

/-- Reading all records and reading one of them agree. -/
theorem getElem?_returns (scan : Scan) (index : Nat) :
    scan.returns[index]? = scan.return? index := by
  unfold returns return?
  rw [Array.getElem?_ofFn]
  split <;> rfl

end Scan

end LidarSieve
