import LidarSieve.Parameters.Rules
import LidarSieve.Parameters.Changes
import LidarSieve.Rings
import LidarSieve.Sink
import LidarSieve.Visibility
/-!
# The filter

A filter holds a version of the parameters.  Changing them makes a new version if the
result is valid, and nothing otherwise.  Filtering a scan reads one version from start to
end:

1. the returns are sorted into rings,
2. each ring of two or more records is cut into walks,
3. each walk is judged and its points are handed to the sink of the verdict,
4. if rejected points are published, the visibility is estimated as well.
-/
set_option autoImplicit false

namespace LidarSieve

open LidarSieve.Binary

/-! ## Versions of the parameters -/

/-- Parameters in effect, their number in the sequence of versions, and their region. -/
structure Snapshot where
  version : Nat
  parameters : Parameters
  region : Region
  deriving DecidableEq

/-- The snapshot of a version. -/
def Snapshot.ofParameters (version : Nat) (parameters : Parameters) : Snapshot :=
  ⟨version, parameters, .ofParameters parameters⟩

/-! ## Results of a scan -/

/-- Counts of a filtered scan. -/
structure Statistics where
  input : Nat
  unplaced : Unplaced
  /-- Returns in rings of two or more. -/
  evaluated : Nat
  walks : Nat
  clusters : Nat
  accepted : Nat
  rejected : Nat
  deriving DecidableEq, Repr

/-- All that filtering a scan yields. -/
structure Outcome where
  points : Cloud
  noise : Option Cloud
  visibility : Option Visibility
  statistics : Statistics
  version : Nat
  deriving DecidableEq

/-! ## Sorting a scan -/

/-- The state between two walks. -/
structure Progress where
  sorter : Sorter
  statistics : Statistics
  deriving DecidableEq

namespace Statistics

/-- Before any ring is walked. -/
def start (input : Nat) (unplaced : Unplaced) : Statistics := ⟨input, unplaced, 0, 0, 0, 0, 0⟩

/-- With one more walk. -/
def addWalk (s : Statistics) (size : Nat) : Verdict → Statistics
  | .cluster =>
    { s with walks := s.walks + 1, clusters := s.clusters + 1, accepted := s.accepted + size }
  | .noise => { s with walks := s.walks + 1, rejected := s.rejected + size }

end Statistics

namespace Progress

/-- Judges the walks of a ring in order and hands over their points. -/
def walkAll (criterion : Criterion) (returns : Array Return) (ring : Array Nat) :
    List Walk → Progress → Option Progress
  | [], progress => some progress
  | walk :: rest, ⟨sorter, statistics⟩ => do
    let verdict ← criterion.judge? returns ring walk
    match sorter.emit returns ring walk verdict with
    | (sorter, true) =>
      walkAll criterion returns ring rest ⟨sorter, statistics.addWalk walk.size verdict⟩
    | (_, false) => none

/-- Walks one ring; a ring of fewer than two records is left alone. -/
def ring (p : Parameters) (returns : Array Return) (ring : Array Nat) (progress : Progress) :
    Option Progress :=
  if ring.size < 2 then some progress
  else do
    let members ← ringReturns? returns ring.toList
    let ⟨sorter, statistics⟩ := progress
    walkAll ⟨p.numPointsThreshold.toNat, p.objectLengthThreshold⟩ returns ring
      (walks p.distanceRatio members)
      ⟨sorter, { statistics with evaluated := statistics.evaluated + ring.size }⟩

/-- Walks the rings one after the other. -/
def rings (p : Parameters) (returns : Array Return) :
    List (Array Nat) → Progress → Option Progress
  | [], progress => some progress
  | bucket :: rest, progress => do rings p returns rest (← progress.ring p returns bucket)

end Progress

namespace Snapshot

/-- How the visibility grid is built. -/
def grid (s : Snapshot) : Grid :=
  ⟨s.parameters.verticalBins, s.parameters.noiseThreshold, s.region⟩

/-- Sorts the returns of a scan; also the placement in rings that it used. -/
def sort? (s : Snapshot) (order : ByteOrder) (transform : Option Transform)
    (returns : Array Return) : Placement × Option Progress :=
  let p := s.parameters
  let placement := Rings.build p.maxRings.toNat p.maxPointsPerRing.toNat returns
  (placement, do
    let sorter ← Sorter.start? returns.size order p.publishNoisePoints transform
    Progress.rings p returns placement.rings.buckets.toList
      ⟨sorter, .start returns.size placement.unplaced⟩)

/-- What a filtered scan reports last. -/
def finalEvent (s : Snapshot) (header : Header) (statistics : Statistics)
    (visibility : Option Visibility) : Event :=
  .scanFiltered header.frame s.version statistics.input statistics.accepted statistics.rejected
    statistics.walks (visibility.map (·.score))

/-- Filters returns that have been read from a cloud. -/
def filterReturns (s : Snapshot) (cloud : Cloud) (transform : Option Transform)
    (returns : Array Return) : Except (Failure Fault) Outcome × List Event :=
  let (placement, progress) := s.sort? (.ofFlag cloud.bigEndian) transform returns
  let placed := placement.events s.parameters.maxRings.toNat s.parameters.maxPointsPerRing.toNat
  match progress with
  | none => (.error .overrun, placed)
  | some ⟨sorter, statistics⟩ =>
    match sorter.finish? cloud.header cloud.dense with
    | none => (.error .overrun, placed)
    | some (points, noise) =>
      if s.parameters.publishNoisePoints then
        match s.grid.evaluate? cloud.header returns with
        | none => (.error .overrun, placed)
        | some visibility =>
          (.ok ⟨points, noise, some visibility, statistics, s.version⟩,
           placed ++ s.grid.events returns ++
             [s.finalEvent cloud.header statistics (some visibility)])
      else
        (.ok ⟨points, noise, none, statistics, s.version⟩,
         placed ++ [s.finalEvent cloud.header statistics none])

/-- Filters one scan. -/
def filter (s : Snapshot) (cloud : Cloud) (transform : Option Transform) :
    Except (Failure Fault) Outcome × List Event :=
  match Scan.ofCloud cloud with
  | .error failure => (.error failure, [])
  | .ok scan => s.filterReturns cloud transform scan.returns

end Snapshot

/-! ## The service -/

/-- A filter whose parameters can be changed while it is in use. -/
structure Filter where
  current : Snapshot
  deriving DecidableEq

namespace Filter

/-- A filter with valid parameters, which become version zero. -/
def create (parameters : Parameters) : Except Fault Filter :=
  match parameters.validate with
  | .error fault => .error fault
  | .ok () => .ok ⟨.ofParameters 0 parameters⟩

/-- Applies a change to the parameters.  If the result is valid it becomes the next version,
and each parameter that differs is reported; otherwise the filter stays as it is. -/
def update (filter : Filter) (change : Parameters → Parameters) :
    Except Fault Filter × List Event :=
  let next := change filter.current.parameters
  match next.validate with
  | .error fault => (.error fault, [])
  | .ok () =>
    let version := filter.current.version + 1
    (.ok ⟨.ofParameters version next⟩,
     (next.changesFrom filter.current.parameters).map (Change.event version))

/-- Replaces all parameters. -/
def replace (filter : Filter) (parameters : Parameters) : Except Fault Filter × List Event :=
  filter.update fun _ => parameters

/-- Filters one scan with the current parameters. -/
def filter (filter : Filter) (cloud : Cloud) (transform : Option Transform) :
    Except (Failure Fault) Outcome × List Event :=
  filter.current.filter cloud transform

end Filter

end LidarSieve
