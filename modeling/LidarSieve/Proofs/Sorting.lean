import LidarSieve.Proofs.Placement
/-!
# Sorting follows the selection

The sorter goes through the rings by indices, pushes points one at a time into sinks of
bounded room and keeps its own counts.  Where the sinks have room for all records of the scan
it never stops halfway, and what it leaves behind is what `Parameters.selected` says:
`Snapshot.sort?_eq` is the main statement.

Three steps lead there: one walk (`Progress.walkAll_cons`), the walks of one ring
(`Progress.walkAll_runs`), and one ring after the other (`Progress.rings_eq`).  What carries
them is that the room left is at least the number of records still to come (`Sorter.HasRoom`).
-/
set_option autoImplicit false

namespace LidarSieve

variable {α : Type}

/-! ## Walks of a ring -/

/-- The walk of a run that starts at a position. -/
def Walk.ofRun (start : Nat) (run : List α) : Walk := ⟨start, start + run.length - 1⟩

namespace Walk

variable {start : Nat} {run : List α}

theorem size_ofRun (filled : run ≠ []) : (ofRun start run).size = run.length := by
  have : 0 < run.length := List.length_pos_of_ne_nil filled
  simp only [size, ofRun]
  omega

theorem size?_ofRun (filled : run ≠ []) (short : run.length < sizeBound) :
    (ofRun start run).size? = some run.length := by
  have : 0 < run.length := List.length_pos_of_ne_nil filled
  have ends : (ofRun start run).first ≤ (ofRun start run).last := by
    simp only [ofRun]
    omega
  rw [size?, size_ofRun filled, if_pos ⟨ends, short⟩]

end Walk

/-- The bucket of a ring: the indices of its records. -/
def bucketOf (index : α → Nat) (ring : List α) : Array Nat := (ring.map index).toArray

theorem size_bucketOf (index : α → Nat) (ring : List α) :
    (bucketOf index ring).size = ring.length := by
  simp [bucketOf]

theorem getElem?_bucketOf (index : α → Nat) (pre run post : List α) {position : Nat}
    (inside : position < run.length) :
    (bucketOf index (pre ++ run ++ post))[pre.length + position]? = some (index run[position]) := by
  simp [bucketOf, List.getElem?_append, inside]

/-! ## Sinks -/

/-- The values in front of the first missing one. -/
def leading : List (Option α) → List α
  | some value :: rest => value :: leading rest
  | _ => []

theorem leading_map_some (values : List α) : leading (values.map some) = values := by
  induction values with
  | nil => rfl
  | cons value rest ih => rw [List.map_cons, leading, ih]

namespace Sink

/-- The sink with more points behind those it holds. -/
def append (sink : Sink) (spots : List Spot) : Sink :=
  { sink with spots := sink.spots ++ spots.toArray }

@[simp] theorem append_nil (sink : Sink) : sink.append [] = sink := by
  simp [append]

@[simp] theorem append_append (sink : Sink) (left right : List Spot) :
    (sink.append left).append right = sink.append (left ++ right) := by
  simp [append]

@[simp] theorem size_append (sink : Sink) (spots : List Spot) :
    (sink.append spots).size = sink.size + spots.length := by
  simp [append, size]

@[simp] theorem capacity_append (sink : Sink) (spots : List Spot) :
    (sink.append spots).capacity = sink.capacity := rfl

theorem push?_of_lt {sink : Sink} (room : sink.size < sink.capacity) (spot : Spot) :
    sink.push? spot = some (sink.append [spot]) := by
  rw [push?, if_pos room]
  simp [append]

theorem push?_of_le {sink : Sink} (full : sink.capacity ≤ sink.size) (spot : Spot) :
    sink.push? spot = none :=
  if_neg (Nat.not_lt_of_le full)

/-- A sink takes the points in front of the first missing one, as far as it has room, and tells
whether these were all. -/
theorem pushAll_eq (sink : Sink) (spots : List (Option Spot)) :
    sink.pushAll spots =
      (sink.append ((leading spots).take (sink.capacity - sink.size)),
        decide (none ∉ spots ∧ spots.length ≤ sink.capacity - sink.size)) := by
  induction spots generalizing sink with
  | nil => simp [pushAll, leading]
  | cons spot rest ih =>
    cases spot with
    | none => simp [pushAll, leading]
    | some spot =>
      rcases Nat.lt_or_ge sink.size sink.capacity with room | full
      · have left : sink.capacity - sink.size = sink.capacity - (sink.append [spot]).size + 1 := by
          rw [size_append, List.length_singleton]
          omega
        rw [pushAll, push?_of_lt room]
        simp only
        rw [ih, append_append, capacity_append, left, leading, List.take_succ_cons,
          List.singleton_append]
        simp
      · have left : sink.capacity - sink.size = 0 := by omega
        rw [pushAll, push?_of_le full, left]
        simp

/-- A sink with room takes all points. -/
theorem pushAll_eq_append (sink : Sink) (spots : List Spot)
    (room : sink.size + spots.length ≤ sink.capacity) :
    sink.pushAll (spots.map some) = (sink.append spots, true) := by
  have fits : spots.length ≤ sink.capacity - sink.size := by omega
  rw [pushAll_eq, leading_map_some, List.take_of_length_le fits]
  simp [fits]

end Sink

/-! ## Sorters with room -/

/-- The points of records, as they are written. -/
def pointsOf (transform : Option Transform) (get : α → Return) (records : List α) : List Spot :=
  records.map fun record => Spot.ofReturn transform (get record)

theorem length_pointsOf (transform : Option Transform) (get : α → Return) (records : List α) :
    (pointsOf transform get records).length = records.length :=
  List.length_map _

theorem pointsOf_append (transform : Option Transform) (get : α → Return) (left right : List α) :
    pointsOf transform get (left ++ right) =
      pointsOf transform get left ++ pointsOf transform get right :=
  List.map_append

namespace Sorter

/-- The sorter with more points behind those that its sinks hold. -/
def append (sorter : Sorter) (accepted rejected : List Spot) : Sorter :=
  { sorter with
    accepted := sorter.accepted.append accepted
    rejected := sorter.rejected.map fun sink => sink.append rejected }

@[simp] theorem append_nil (sorter : Sorter) : sorter.append [] [] = sorter := by
  simp [append]

@[simp] theorem append_append (sorter : Sorter) (a b c d : List Spot) :
    (sorter.append a b).append c d = sorter.append (a ++ c) (b ++ d) := by
  simp [append, Function.comp_def]

/-- Points are written through the same transform as before. -/
theorem transform_append (sorter : Sorter) (accepted rejected : List Spot) :
    (sorter.append accepted rejected).transform = sorter.transform := rfl

theorem mem_rejected_append {sorter : Sorter} {accepted rejected : List Spot} {sink : Sink} :
    sink ∈ (sorter.append accepted rejected).rejected ↔
      ∃ before ∈ sorter.rejected, before.append rejected = sink := by
  simp [append]

/-- Each sink can take so many points more. -/
def HasRoom (sorter : Sorter) (points : Nat) : Prop :=
  sorter.accepted.size + points ≤ sorter.accepted.capacity ∧
    ∀ sink ∈ sorter.rejected, sink.size + points ≤ sink.capacity

theorem HasRoom.mono {sorter : Sorter} {fewer points : Nat} (room : sorter.HasRoom points)
    (le : fewer ≤ points) : sorter.HasRoom fewer := by
  refine ⟨by have := room.1; omega, fun sink held => ?_⟩
  have := room.2 sink held
  omega

/-- Points that are taken use up as much room as they are. -/
theorem HasRoom.append {sorter : Sorter} {accepted rejected : List Spot} {points : Nat}
    (room : sorter.HasRoom (accepted.length + rejected.length + points)) :
    (sorter.append accepted rejected).HasRoom points := by
  obtain ⟨room_accepted, room_rejected⟩ := room
  refine ⟨?_, fun sink held => ?_⟩
  · simp only [Sorter.append, Sink.size_append, Sink.capacity_append]
    omega
  · obtain ⟨before, held_before, rfl⟩ := mem_rejected_append.mp held
    have := room_rejected before held_before
    rw [Sink.size_append, Sink.capacity_append]
    omega

variable {returns : Array Return} {ring : Array Nat} {walk : Walk} {sorter : Sorter}
  {spots : List Spot}

theorem emit_cluster (listed : spotsOf sorter.transform returns ring walk = spots.map some)
    (room : sorter.HasRoom spots.length) :
    sorter.emit returns ring walk .cluster = (sorter.append spots [], true) := by
  obtain ⟨transform, accepted, rejected⟩ := sorter
  simp only [emit, listed, Sink.pushAll_eq_append _ _ room.1]
  simp [append]

theorem emit_noise (listed : spotsOf sorter.transform returns ring walk = spots.map some)
    (room : sorter.HasRoom spots.length) :
    sorter.emit returns ring walk .noise = (sorter.append [] spots, true) := by
  obtain ⟨transform, accepted, rejected⟩ := sorter
  cases rejected with
  | none => simp [emit, append]
  | some sink =>
    simp only [emit, listed, Sink.pushAll_eq_append _ _ (room.2 sink rfl)]
    simp [append]

end Sorter

/-! ## One run -/

section Run

variable {returns : Array Return} {get : α → Return} {index : α → Nat}

/-- A run of a ring lists its points. -/
theorem Sorter.spotsOf_run (reads : ∀ record, returns[index record]? = some (get record))
    (transform : Option Transform) (pre run post : List α) (filled : run ≠ []) :
    Sorter.spotsOf transform returns (bucketOf index (pre ++ run ++ post))
        (Walk.ofRun pre.length run) = (pointsOf transform get run).map some := by
  have inside : (Walk.ofRun pre.length run).last < (bucketOf index (pre ++ run ++ post)).size := by
    have : 0 < run.length := List.length_pos_of_ne_nil filled
    simp only [Walk.ofRun, size_bucketOf, List.length_append]
    omega
  rw [Sorter.spotsOf, Walk.positionsWithin_of_last_lt _ _ inside, Walk.positions,
    Walk.size_ofRun filled]
  apply List.ext_getElem
  · simp [pointsOf]
  · intro position below _
    have within : position < run.length := by simpa using below
    have first : (Walk.ofRun pre.length run).first = pre.length := rfl
    rw [List.getElem_map, List.getElem_range', Nat.one_mul, first,
      getElem?_bucketOf index pre run post within, Option.bind_some, reads]
    simp [pointsOf]

/-- A run of a ring gets its verdict. -/
theorem Criterion.judge?_run (reads : ∀ record, returns[index record]? = some (get record))
    (c : Criterion) (pre run post : List α) (filled : run ≠ [])
    (short : run.length < sizeBound) :
    c.judge? returns (bucketOf index (pre ++ run ++ post)) (Walk.ofRun pre.length run) =
      some (c.verdict get run) := by
  have pos : 0 < run.length := List.length_pos_of_ne_nil filled
  have first : (bucketOf index (pre ++ run ++ post))[(Walk.ofRun pre.length run).first]? =
      some (index (run.head filled)) := by
    rw [List.head_eq_getElem]
    exact getElem?_bucketOf index pre run post pos
  have last : (bucketOf index (pre ++ run ++ post))[(Walk.ofRun pre.length run).last]? =
      some (index (run.getLast filled)) := by
    have place : (Walk.ofRun pre.length run).last = pre.length + (run.length - 1) := by
      simp only [Walk.ofRun]
      omega
    rw [List.getLast_eq_getElem, place]
    exact getElem?_bucketOf index pre run post (by omega)
  simp only [Criterion.judge?, Walk.size?_ofRun filled short, first, last, reads,
    Criterion.verdict, List.head?_eq_some_head filled, List.getLast?_eq_some_getLast filled,
    Option.bind_eq_bind, Option.bind_some]
  by_cases many : c.points ≤ run.length
  · simp [many, Criterion.judge]
  · simp [many]

end Run

/-! ## Many runs -/

namespace Progress

/-- The progress after more runs: their points stand behind those taken before, and every
count is raised by what they add to it. -/
def extend (progress : Progress) (c : Criterion) (get : α → Return) (evaluated : Nat)
    (runs : List (List α)) : Progress :=
  let accepted := c.judged get runs .cluster
  let rejected := c.judged get runs .noise
  let ⟨sorter, statistics⟩ := progress
  { sorter := sorter.append (pointsOf sorter.transform get accepted.flatten)
      (pointsOf sorter.transform get rejected.flatten)
    statistics := { statistics with
      evaluated := statistics.evaluated + evaluated
      walks := statistics.walks + runs.length
      clusters := statistics.clusters + accepted.length
      accepted := statistics.accepted + accepted.flatten.length
      rejected := statistics.rejected + rejected.flatten.length } }

variable {c : Criterion} {get : α → Return} {progress : Progress}

theorem extend_nil : progress.extend c get 0 [] = progress := by
  simp [extend, Criterion.judged, pointsOf]

/-- Records can be counted before their runs are known. -/
theorem extend_count (evaluated : Nat) :
    progress.extend c get evaluated [] = ⟨progress.sorter,
      { progress.statistics with evaluated := progress.statistics.evaluated + evaluated }⟩ := by
  simp [extend, Criterion.judged, pointsOf]

/-- Runs can be added in portions. -/
theorem extend_extend (first second : Nat) (left right : List (List α)) :
    (progress.extend c get first left).extend c get second right =
      progress.extend c get (first + second) (left ++ right) := by
  simp [extend, Criterion.judged, Sorter.transform_append, pointsOf_append, Nat.add_assoc]

/-- Each run uses up as much room as it has records. -/
theorem hasRoom_extend {evaluated points : Nat} {runs : List (List α)}
    (room : progress.sorter.HasRoom (runs.flatten.length + points)) :
    (progress.extend c get evaluated runs).sorter.HasRoom points := by
  refine Sorter.HasRoom.append ?_
  rw [length_pointsOf, length_pointsOf, c.length_judged_add]
  exact room

variable {returns : Array Return} {index : α → Nat}

/-- The step: one walk of a ring adds its run. -/
theorem walkAll_cons (c : Criterion) (progress : Progress)
    (reads : ∀ record, returns[index record]? = some (get record))
    (pre run post : List α) (rest : List Walk) (filled : run ≠ [])
    (short : run.length < sizeBound) (room : progress.sorter.HasRoom run.length) :
    walkAll c returns (bucketOf index (pre ++ run ++ post)) (Walk.ofRun pre.length run :: rest)
        progress =
      walkAll c returns (bucketOf index (pre ++ run ++ post)) rest
        (progress.extend c get 0 [run]) := by
  obtain ⟨sorter, statistics⟩ := progress
  have listed := Sorter.spotsOf_run reads sorter.transform pre run post filled
  have room : sorter.HasRoom (pointsOf sorter.transform get run).length := by
    rw [length_pointsOf]
    exact room
  rw [walkAll, Criterion.judge?_run reads c pre run post filled short]
  simp only [Option.bind_eq_bind, Option.bind_some]
  cases decided : c.verdict get run with
  | cluster =>
    rw [Sorter.emit_cluster listed room]
    simp [extend, Criterion.judged, decided, Statistics.addWalk, Walk.size_ofRun filled, pointsOf]
  | noise =>
    rw [Sorter.emit_noise listed room]
    simp [extend, Criterion.judged, decided, Statistics.addWalk, Walk.size_ofRun filled, pointsOf]

/-- The walks of a ring add its runs. -/
theorem walkAll_runs (c : Criterion) (progress : Progress)
    (reads : ∀ record, returns[index record]? = some (get record))
    (pre : List α) (runs : List (List α)) (filled : ∀ run ∈ runs, run ≠ [])
    (short : runs.flatten.length < sizeBound)
    (room : progress.sorter.HasRoom runs.flatten.length) :
    walkAll c returns (bucketOf index (pre ++ runs.flatten))
        (Walk.consecutive pre.length (runs.map List.length)) progress =
      some (progress.extend c get 0 runs) := by
  induction runs generalizing pre progress with
  | nil => rw [extend_nil]; rfl
  | cons run rest ih =>
    rw [List.flatten_cons, List.length_append] at short room
    have filled_run := filled run List.mem_cons_self
    have step := walkAll_cons c progress reads pre run rest.flatten
      (Walk.consecutive (pre.length + run.length) (rest.map List.length)) filled_run (by omega)
      (room.mono (by omega))
    have room_rest : (progress.extend c get 0 [run]).sorter.HasRoom rest.flatten.length :=
      hasRoom_extend (by simpa using room)
    have next := ih (progress.extend c get 0 [run]) (pre ++ run)
      (fun run held => filled run (List.mem_cons_of_mem _ held))
      (by omega) room_rest
    rw [List.length_append] at next
    rw [List.map_cons, Walk.consecutive, List.flatten_cons, ← List.append_assoc]
    refine step.trans (next.trans ?_)
    rw [extend_extend, Nat.add_zero, List.singleton_append]

/-! ## Rings -/

theorem ringReturns?_bucketOf (reads : ∀ record, returns[index record]? = some (get record))
    (ring : List α) (two : 2 ≤ ring.length) :
    ringReturns? returns (bucketOf index ring).toList = some (ring.map get) := by
  have long : ¬ (bucketOf index ring).toList.length < 2 := by
    rw [Array.length_toList, size_bucketOf]
    omega
  rw [ringReturns?, if_neg long]
  clear long two
  induction ring with
  | nil => rfl
  | cons record rest ih =>
    simp only [bucketOf, List.map_cons] at ih ⊢
    rw [List.mapM_cons, reads, ih]
    rfl

/-- A ring of two or more records adds its longest runs. -/
theorem ring_eq (p : Parameters) (reads : ∀ record, returns[index record]? = some (get record))
    (ring : List α) (two : 2 ≤ ring.length) (short : ring.length < sizeBound)
    (room : progress.sorter.HasRoom ring.length) :
    progress.ring p returns (bucketOf index ring) =
      some (progress.extend p.criterion get ring.length (ring.splitBy (p.links get))) := by
  have long : ¬ (bucketOf index ring).size < 2 := by
    rw [size_bucketOf]
    omega
  have cut : walks p.distanceRatio (ring.map get) =
      Walk.consecutive 0 ((ring.splitBy (p.links get)).map List.length) := by
    have many : ¬ (ring.map get).length < 2 := by
      rw [List.length_map]
      omega
    rw [walks, runs, if_neg many, ← map_splitBy (continues p.distanceRatio) get ring, List.map_map]
    congr 2
    funext run
    exact List.length_map _
  have whole : (ring.splitBy (p.links get)).flatten = ring := List.flatten_splitBy _ ring
  have walked := walkAll_runs p.criterion (progress.extend p.criterion get ring.length []) reads []
    (ring.splitBy (p.links get)) (fun run held => List.ne_nil_of_mem_splitBy held)
    (by rw [whole]; exact short) (hasRoom_extend (by rw [whole]; simpa using room))
  rw [List.nil_append, whole, extend_extend, Nat.add_zero, List.nil_append, extend_count] at walked
  rw [Progress.ring, if_neg long, ringReturns?_bucketOf reads ring two]
  simp only [Option.bind_eq_bind, Option.bind_some, size_bucketOf]
  rw [cut]
  exact walked

/-- All rings add the runs of those that have two records or more. -/
theorem rings_eq (p : Parameters) (reads : ∀ record, returns[index record]? = some (get record))
    (buckets : List (List α))
    (short : (buckets.filter fun ring => 2 ≤ ring.length).flatten.length < sizeBound)
    (room : progress.sorter.HasRoom
      (buckets.filter fun ring => 2 ≤ ring.length).flatten.length) :
    rings p returns (buckets.map (bucketOf index)) progress =
      some (progress.extend p.criterion get
        (buckets.filter fun ring => 2 ≤ ring.length).flatten.length
        ((buckets.filter fun ring => 2 ≤ ring.length).flatMap
          fun ring => ring.splitBy (p.links get))) := by
  induction buckets generalizing progress with
  | nil => simp [rings, extend_nil]
  | cons bucket rest ih =>
    rw [List.map_cons, rings]
    by_cases two : 2 ≤ bucket.length
    · rw [List.filter_cons_of_pos (by simpa using two)] at short room ⊢
      rw [List.flatten_cons, List.length_append] at short room ⊢
      have whole : (bucket.splitBy (p.links get)).flatten = bucket := List.flatten_splitBy _ bucket
      have room_rest : (progress.extend p.criterion get bucket.length
          (bucket.splitBy (p.links get))).sorter.HasRoom
            (rest.filter fun ring => 2 ≤ ring.length).flatten.length :=
        hasRoom_extend (by rw [whole]; exact room)
      rw [ring_eq p reads bucket two (by omega) (room.mono (by omega))]
      simp only [Option.bind_eq_bind, Option.bind_some]
      rw [ih (by omega) room_rest, extend_extend, List.flatMap_cons]
    · rw [List.filter_cons_of_neg (by simpa using two)] at short room ⊢
      have left_alone : progress.ring p returns (bucketOf index bucket) = some progress := by
        rw [Progress.ring, if_pos (by rw [size_bucketOf]; omega)]
      rw [left_alone]
      exact ih short room

end Progress

/-! ## A whole scan -/

/-- The counts that the selection accounts for. -/
def Statistics.ofSelection (p : Parameters) (get : α → Return) (records : List α) :
    Statistics where
  input := records.length
  unplaced := {
    skipped := records.countP fun record => p.maxRings.toNat ≤ (get record).ring
    dropped := overflow get p.maxRings.toNat p.maxPointsPerRing.toNat records }
  evaluated := (p.evaluated get records).length
  walks := (p.segments get records).length
  clusters := (p.criterion.judged get (p.segments get records) .cluster).length
  accepted := (p.selected get records .cluster).length
  rejected := (p.selected get records .noise).length

/-- A sink with room for all records that holds those with a verdict. -/
def Sink.ofSelection (p : Parameters) (order : ByteOrder) (transform : Option Transform)
    (get : α → Return) (records : List α) (verdict : Verdict) : Sink :=
  (Sink.empty records.length order).append
    (pointsOf transform get (p.selected get records verdict))

/-- The sorter that has sorted all records. -/
def Sorter.ofSelection (p : Parameters) (order : ByteOrder) (transform : Option Transform)
    (get : α → Return) (records : List α) : Sorter where
  transform := transform
  accepted := .ofSelection p order transform get records .cluster
  rejected :=
    if p.publishNoisePoints then some (.ofSelection p order transform get records .noise)
    else none

/-- A scan is placed as a whole: its rings hold their first records, and the rest is counted. -/
theorem Rings.unplaced_build (p : Parameters) (returns : Array Return) :
    (Rings.build p.maxRings.toNat p.maxPointsPerRing.toNat returns).unplaced =
      (Statistics.ofSelection p (returnAt returns) (recordsOf returns)).unplaced := by
  have holds := Rings.build_holds p.maxRings.toNat p.maxPointsPerRing.toNat returns
  rw [Statistics.ofSelection, ← holds.skipped_eq, ← holds.dropped_eq]

namespace Sorter

/-- A sorter whose sinks hold nothing yet. -/
def fresh (points : Nat) (order : ByteOrder) (withRejected : Bool)
    (transform : Option Transform) : Sorter where
  transform := transform
  accepted := .empty points order
  rejected := if withRejected then some (.empty points order) else none

variable (points : Nat) (order : ByteOrder) (withRejected : Bool) (transform : Option Transform)

theorem start?_eq_fresh (fits : points * spotStep.toNat ≤ maxBuffer) :
    start? points order withRejected transform =
      some (fresh points order withRejected transform) := by
  rw [start?, Sink.start?, if_neg (Nat.not_lt_of_le fits)]
  rfl

theorem eq_empty_of_mem_fresh {sink : Sink}
    (held : sink ∈ (fresh points order withRejected transform).rejected) :
    sink = .empty points order := by
  simp only [fresh] at held
  split at held
  · exact (Option.some.inj held).symm
  · cases held

theorem hasRoom_fresh : (fresh points order withRejected transform).HasRoom points := by
  refine ⟨by simp [fresh, Sink.empty, Sink.size], fun sink held => ?_⟩
  rw [eq_empty_of_mem_fresh points order withRejected transform held]
  simp [Sink.empty, Sink.size]

end Sorter

/-- The runs of all rings, added to a fresh sorter and to counts that stand at zero, are the
selection. -/
theorem Progress.extend_fresh (p : Parameters) (order : ByteOrder) (transform : Option Transform)
    (get : α → Return) (records : List α) :
    Progress.extend ⟨.fresh records.length order p.publishNoisePoints transform,
        .start records.length (Statistics.ofSelection p get records).unplaced⟩
      p.criterion get (p.evaluated get records).length (p.segments get records) =
    ⟨.ofSelection p order transform get records, .ofSelection p get records⟩ := by
  simp only [extend, Sorter.fresh, Sorter.append, Sorter.ofSelection, Sink.ofSelection,
    Statistics.ofSelection, Statistics.start, Parameters.selected, Nat.zero_add]
  split <;> rfl

/-- The buckets of a scan list the records that its rings keep. -/
theorem Rings.buckets_eq_bucketOf (p : Parameters) (returns : Array Return) :
    (Rings.build p.maxRings.toNat p.maxPointsPerRing.toNat returns).rings.buckets.toList =
      ((List.range p.maxRings.toNat).map
        (p.kept (returnAt returns) (recordsOf returns))).map (bucketOf Fin.val) := by
  rw [Rings.buckets_build, List.map_map]
  rfl

theorem reads_returnAt (returns : Array Return) (record : Fin returns.size) :
    returns[record.val]? = some (returnAt returns record) :=
  Array.getElem?_eq_getElem record.isLt

/-- The first rings of a scan that has room in a buffer add the runs of those among them that
keep two records or more. -/
theorem Progress.rings_take (p : Parameters) (order : ByteOrder) (transform : Option Transform)
    (returns : Array Return) (fits : returns.size * spotStep.toNat ≤ maxBuffer)
    (unplaced : Unplaced) (done : Nat) :
    let get := returnAt returns
    let walked := (((List.range p.maxRings.toNat).map (p.kept get (recordsOf returns))).take
      done).filter fun ring => 2 ≤ ring.length
    let start : Progress := ⟨.fresh returns.size order p.publishNoisePoints transform,
      .start returns.size unplaced⟩
    walked.flatten.length ≤ returns.size ∧
      rings p returns ((Rings.build p.maxRings.toNat p.maxPointsPerRing.toNat
          returns).rings.buckets.toList.take done) start =
        some (start.extend p.criterion get walked.flatten.length
          (walked.flatMap fun ring => ring.splitBy (p.links get))) := by
  intro get walked start
  have few : walked.flatten.length ≤ returns.size := by
    have first : walked.Sublist (p.walkedRings get (recordsOf returns)) :=
      (List.take_sublist _ _).filter _
    have all := p.length_evaluated_le get (recordsOf returns) (List.nodup_finRange _)
    rw [List.length_finRange] at all
    exact first.flatten.length_le.trans all
  have short : walked.flatten.length < sizeBound := by
    have bound : sizeBound = 18446744073709551616 := rfl
    have step : spotStep.toNat = 16 := rfl
    rw [step, maxBuffer] at fits
    omega
  have room : start.sorter.HasRoom walked.flatten.length :=
    (Sorter.hasRoom_fresh returns.size order p.publishNoisePoints transform).mono few
  rw [Rings.buckets_eq_bucketOf, ← List.map_take]
  exact ⟨few, rings_eq p (reads_returnAt returns) _ short room⟩

/-- Sorting a scan that has room in a buffer comes to its end, and then the sinks hold the
selected records and the counts are those of the selection. -/
theorem Snapshot.sort?_eq (s : Snapshot) (order : ByteOrder) (transform : Option Transform)
    (returns : Array Return) (fits : returns.size * spotStep.toNat ≤ maxBuffer) :
    s.sort? order transform returns =
      (Rings.build s.parameters.maxRings.toNat s.parameters.maxPointsPerRing.toNat returns,
       some ⟨.ofSelection s.parameters order transform (returnAt returns) (recordsOf returns),
         .ofSelection s.parameters (returnAt returns) (recordsOf returns)⟩) := by
  have count : (recordsOf returns).length = returns.size := List.length_finRange
  have walked := (Progress.rings_take s.parameters order transform returns fits
    (Statistics.ofSelection s.parameters (returnAt returns) (recordsOf returns)).unplaced
    s.parameters.maxRings.toNat).2
  have selection := Progress.extend_fresh s.parameters order transform (returnAt returns)
    (recordsOf returns)
  rw [List.take_of_length_le (by rw [Rings.buckets_eq_bucketOf]; simp),
    List.take_of_length_le (by simp)] at walked
  rw [count] at selection
  rw [Snapshot.sort?, Sorter.start?_eq_fresh _ _ _ _ fits]
  simp only [Option.bind_eq_bind, Option.bind_some]
  rw [Rings.unplaced_build, walked]
  exact congrArg (fun progress => (_, some progress)) selection

end LidarSieve
