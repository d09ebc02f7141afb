import LidarSieve.Filter
/-!
# Service

A filter in service.  Its callers change the parameters, look at the version in effect and
keep it, and filter scans, in any order.  Each of these operations gets an answer, and all of
them together are a run.
-/
set_option autoImplicit false

namespace LidarSieve

/-- What a caller asks of a filter. -/
inductive Operation where
  | update (change : Parameters → Parameters)
  | replace (parameters : Parameters)
  /-- A look at the version in effect, which the caller keeps. -/
  | snapshot
  | version
  | filter (cloud : Cloud) (transform : Option Transform)

/-- What the caller is told. -/
inductive Answer where
  /-- The parameters were changed; this is their version now. -/
  | changed (version : Nat)
  /-- The parameters were left as they are. -/
  | rejected (fault : Fault)
  | snapshot (snapshot : Snapshot)
  | version (number : Nat)
  | filtered (result : Except (Failure Fault) Outcome)

/-- A filter, and the snapshots that its callers keep, in the order in which they were taken. -/
structure Service where
  filter : Filter
  held : List Snapshot
  deriving DecidableEq

namespace Service

/-- The version in effect. -/
def current (service : Service) : Snapshot := service.filter.current

/-- Takes over a changed filter; a fault changes nothing. -/
def settle (service : Service) : Except Fault Filter × List Event → Service × Answer × List Event
  | (.error fault, events) => (service, .rejected fault, events)
  | (.ok filter, events) => ({ service with filter }, .changed filter.current.version, events)

/-- Carries out one operation: the service after it, the answer, and what was reported. -/
def step (service : Service) : Operation → Service × Answer × List Event
  | .update change => service.settle (service.filter.update change)
  | .replace parameters => service.settle (service.filter.replace parameters)
  | .snapshot =>
    ({ service with held := service.held ++ [service.current] }, .snapshot service.current, [])
  | .version => (service, .version service.current.version, [])
  | .filter cloud transform =>
    let (result, events) := service.filter.filter cloud transform
    (service, .filtered result, events)

/-- Carries out operations one after the other: the service after them, and their answers. -/
def run (service : Service) : List Operation → Service × List Answer
  | [] => (service, [])
  | operation :: rest =>
    let (next, answer, _) := service.step operation
    let (last, answers) := next.run rest
    (last, answer :: answers)

end Service

end LidarSieve
