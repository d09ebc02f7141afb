import LidarSieve.Pose
import LidarSieve.Verdict
/-!
# Sinks

A sink collects points with position and intensity for one cloud; it takes no more of them
than it was made for.  The room of a sink is reserved when it is made, and has to fit in a
buffer (`maxBuffer`).  A sorter has one sink for accepted points and perhaps another one for
rejected points, and hands each walk to the sink of its verdict.
-/
set_option autoImplicit false

namespace LidarSieve

open LidarSieve.Binary

/-- A point as it is written: position and intensity. -/
structure Spot where
  x : Single
  y : Single
  z : Single
  intensity : Single
  deriving DecidableEq

namespace Spot

/-- The point of a return, mapped if there is a transform.  The intensity stays. -/
def ofReturn (transform : Option Transform) (r : Return) : Spot :=
  match transform with
  | none => ⟨r.x, r.y, r.z, r.intensity⟩
  | some t =>
    let image := t.apply ⟨r.x, r.y, r.z⟩
    ⟨image.x, image.y, image.z, r.intensity⟩

/-- Without a transform the point stands where the return came from. -/
theorem ofReturn_none (r : Return) : ofReturn none r = ⟨r.x, r.y, r.z, r.intensity⟩ := rfl

/-- With a transform it stands at the image of that place. -/
theorem ofReturn_some (t : Transform) (r : Return) :
    ofReturn (some t) r =
      ⟨(t.apply ⟨r.x, r.y, r.z⟩).x, (t.apply ⟨r.x, r.y, r.z⟩).y, (t.apply ⟨r.x, r.y, r.z⟩).z,
        r.intensity⟩ := rfl

/-- The octets of a point. -/
def octets (order : ByteOrder) (s : Spot) : List UInt8 :=
  order.encode 4 s.x.toBits ++ order.encode 4 s.y.toBits ++ order.encode 4 s.z.toBits ++
    order.encode 4 s.intensity.toBits

end Spot

/-! ## One sink -/

/-- Points collected in order, at most `capacity` of them. -/
structure Sink where
  capacity : Nat
  order : ByteOrder
  spots : Array Spot
  deriving DecidableEq

namespace Sink

/-- A sink without points. -/
def empty (capacity : Nat) (order : ByteOrder) : Sink := ⟨capacity, order, #[]⟩

/-- A sink with room for a number of points, unless no buffer is large enough for them. -/
def start? (points : Nat) (order : ByteOrder) : Option Sink :=
  if maxBuffer < points * spotStep.toNat then none else some (empty points order)

/-- How many points were taken. -/
def size (sink : Sink) : Nat := sink.spots.size

/-- No point was taken. -/
def isEmpty (sink : Sink) : Bool := sink.spots.isEmpty

/-- The sink with one more point, unless it is full. -/
def push? (sink : Sink) (spot : Spot) : Option Sink :=
  if sink.size < sink.capacity then some { sink with spots := sink.spots.push spot } else none

/-- Takes points until one is missing or the sink is full; the flag tells whether all of
them were taken. -/
def pushAll (sink : Sink) : List (Option Spot) → Sink × Bool
  | [] => (sink, true)
  | none :: _ => (sink, false)
  | some spot :: rest =>
    match sink.push? spot with
    | none => (sink, false)
    | some sink => pushAll sink rest

/-- The points as a cloud of one row, unless they are too many for one. -/
def toCloud? (sink : Sink) (header : Header) (dense : Bool) : Option Cloud :=
  Cloud.ofRow? header sink.order.isBig spotFields spotStep sink.size
    (sink.spots.toList.flatMap (Spot.octets sink.order)).toArray dense

end Sink

/-! ## Sorting walks -/

/-- A sink for accepted points and, if asked for, one for rejected points. -/
structure Sorter where
  transform : Option Transform
  accepted : Sink
  rejected : Option Sink
  deriving DecidableEq

namespace Sorter

/-- A sorter for a scan of `points` records, unless there is no room for them. -/
def start? (points : Nat) (order : ByteOrder) (withRejected : Bool)
    (transform : Option Transform) : Option Sorter := do
  let sink ← Sink.start? points order
  return { transform, accepted := sink, rejected := if withRejected then some sink else none }

/-- The points of a walk in order, as far as its ring lists records; a point whose record
does not exist is missing. -/
def spotsOf (transform : Option Transform) (returns : Array Return) (ring : Array Nat)
    (walk : Walk) : List (Option Spot) :=
  (walk.positionsWithin ring.size).map fun position =>
    (ring[position]?.bind (returns[·]?)).map (Spot.ofReturn transform)

/-- Hands a walk to the sink of its verdict; without a sink for rejected points these are
let go.  The flag tells whether all points of the walk found a place. -/
def emit (sorter : Sorter) (returns : Array Return) (ring : Array Nat) (walk : Walk)
    (verdict : Verdict) : Sorter × Bool :=
  match sorter, verdict with
  | ⟨transform, accepted, rejected⟩, .cluster =>
    let (sink, complete) := accepted.pushAll (spotsOf transform returns ring walk)
    (⟨transform, sink, rejected⟩, complete)
  | ⟨transform, accepted, some rejected⟩, .noise =>
    let (sink, complete) := rejected.pushAll (spotsOf transform returns ring walk)
    (⟨transform, accepted, some sink⟩, complete)
  | ⟨transform, accepted, none⟩, .noise => (⟨transform, accepted, none⟩, true)

/-- The header of the written clouds: a transform moves them into its frame. -/
def header (sorter : Sorter) (header : Header) : Header :=
  match sorter.transform with
  | none => header
  | some t => { header with frame := t.frame }

/-- The cloud of accepted points and, if asked for, the one of rejected points. -/
def finish? (sorter : Sorter) (header : Header) (dense : Bool) : Option (Cloud × Option Cloud) := do
  let points ← sorter.accepted.toCloud? (sorter.header header) dense
  match sorter.rejected with
  | none => return (points, none)
  | some sink => return (points, some (← sink.toCloud? (sorter.header header) dense))

end Sorter

end LidarSieve
