import LidarSieve.Proofs.Outcome
/-!
# Sorting stays in bounds

From a position of a walk to the octets of a field it takes three look-ups: the ring lists an
index, the index has a record, the record has the field.  None of them leaves its range, and no
sink is handed more points than it was made for.  `Snapshot.StaysInBounds` says so for one scan,
and `Snapshot.staysInBounds` proves it for every scan of fewer than `2 ^ 28` records: sorting
and writing the clouds always come to their end.
-/
set_option autoImplicit false

namespace LidarSieve

/-! ## Walks lie in their ring -/

/-- The walks of consecutive runs do not end before they start, and none ends behind the last
run. -/
theorem Walk.bounds_of_mem_consecutive {α : Type} {start : Nat} {runs : List (List α)} {walk : Walk}
    (filled : ∀ run ∈ runs, run ≠ []) (mem : walk ∈ consecutive start (runs.map List.length)) :
    walk.first ≤ walk.last ∧ walk.last < start + runs.flatten.length := by
  induction runs generalizing start with
  | nil => cases mem
  | cons run rest ih =>
    have pos : 0 < run.length := List.length_pos_of_ne_nil (filled run List.mem_cons_self)
    rw [List.flatten_cons, List.length_append]
    rw [List.map_cons, consecutive, List.mem_cons] at mem
    rcases mem with rfl | mem
    · simp only
      omega
    · have behind := ih (fun run held => filled run (List.mem_cons_of_mem _ held)) mem
      omega

/-- The walks of a ring lie in the ring. -/
theorem walks_bounds {ratio : Binary.Single} {ring : List Return} {walk : Walk}
    (mem : walk ∈ walks ratio ring) : walk.first ≤ walk.last ∧ walk.last < ring.length := by
  unfold walks runs at mem
  split at mem
  · cases mem
  · have bounds := Walk.bounds_of_mem_consecutive
      (fun run held => List.ne_nil_of_mem_splitBy held) mem
    rw [Nat.zero_add, List.flatten_splitBy] at bounds
    exact bounds

/-! ## Rings list records -/

section Rings

variable (p : Parameters) (returns : Array Return) {bucket : Array Nat}

/-- Each bucket lists records of the scan. -/
theorem Rings.exists_of_mem_build (mem : bucket ∈
      (Rings.build p.maxRings.toNat p.maxPointsPerRing.toNat returns).rings.buckets) :
    ∃ records : List (Fin returns.size), bucket = bucketOf Fin.val records := by
  rw [← Array.mem_toList_iff, Rings.buckets_build] at mem
  obtain ⟨ring, -, rfl⟩ := List.mem_map.mp mem
  exact ⟨p.kept (returnAt returns) (recordsOf returns) ring, rfl⟩

theorem Rings.index_lt_of_mem_build (mem : bucket ∈
      (Rings.build p.maxRings.toNat p.maxPointsPerRing.toNat returns).rings.buckets)
    {index : Nat} (listed : index ∈ bucket) : index < returns.size := by
  obtain ⟨records, rfl⟩ := Rings.exists_of_mem_build p returns mem
  rw [bucketOf, List.mem_toArray] at listed
  obtain ⟨record, -, rfl⟩ := List.mem_map.mp listed
  exact record.isLt

/-- The returns of a bucket are found, and its walks lie in it. -/
theorem Rings.walks_of_mem_build (mem : bucket ∈
      (Rings.build p.maxRings.toNat p.maxPointsPerRing.toNat returns).rings.buckets) :
    ∃ members, ringReturns? returns bucket.toList = some members ∧
      ∀ walk ∈ walks p.distanceRatio members,
        walk.first ≤ walk.last ∧ walk.last < bucket.size := by
  obtain ⟨records, rfl⟩ := Rings.exists_of_mem_build p returns mem
  rcases Nat.lt_or_ge records.length 2 with alone | two
  · have short : (bucketOf Fin.val records).toList.length < 2 := by
      rw [Array.length_toList, size_bucketOf]
      exact alone
    exact ⟨[], by rw [ringReturns?, if_pos short], fun walk mem => nomatch mem⟩
  · refine ⟨_, Progress.ringReturns?_bucketOf (reads_returnAt returns) records two,
      fun walk held => ?_⟩
    have bounds := walks_bounds held
    rw [List.length_map] at bounds
    rw [size_bucketOf]
    exact bounds

end Rings

/-! ## Sinks hold no more than there is -/

/-- Each sink was made for so many points and holds as many as are counted for its verdict, and
the counts of both verdicts together do not exceed that number. -/
structure Progress.WithinRoom (points : Nat) (progress : Progress) : Prop where
  accepted_capacity : progress.sorter.accepted.capacity = points
  accepted_size : progress.sorter.accepted.size = progress.statistics.accepted
  rejected_capacity : ∀ sink ∈ progress.sorter.rejected, sink.capacity = points
  rejected_size : ∀ sink ∈ progress.sorter.rejected, sink.size = progress.statistics.rejected
  counts_le : progress.statistics.accepted + progress.statistics.rejected ≤ points

namespace Progress

theorem withinRoom_fresh (points : Nat) (order : ByteOrder) (withRejected : Bool)
    (transform : Option Transform) (unplaced : Unplaced) :
    WithinRoom points ⟨.fresh points order withRejected transform, .start points unplaced⟩ where
  accepted_capacity := rfl
  accepted_size := rfl
  rejected_capacity sink held := by
    rw [Sorter.eq_empty_of_mem_fresh points order withRejected transform held]
    rfl
  rejected_size sink held := by
    rw [Sorter.eq_empty_of_mem_fresh points order withRejected transform held]
    rfl
  counts_le := by simp [Statistics.start]

/-- More runs keep the sinks within their room, if there is room for their records. -/
theorem WithinRoom.extend {α : Type} {points : Nat} {progress : Progress}
    (within : progress.WithinRoom points) (c : Criterion) (get : α → Return) (evaluated : Nat)
    (runs : List (List α))
    (room : progress.statistics.accepted + progress.statistics.rejected + runs.flatten.length ≤
      points) :
    (progress.extend c get evaluated runs).WithinRoom points := by
  have split := c.length_judged_add get runs
  refine ⟨within.accepted_capacity, ?_, ?_, ?_, ?_⟩
  · simp [Progress.extend, Sorter.append, within.accepted_size, length_pointsOf]
  · intro sink held
    obtain ⟨before, held_before, rfl⟩ := Sorter.mem_rejected_append.mp held
    exact within.rejected_capacity before held_before
  · intro sink held
    obtain ⟨before, held_before, rfl⟩ := Sorter.mem_rejected_append.mp held
    simp [Progress.extend, within.rejected_size before held_before, length_pointsOf]
  · simp only [Progress.extend]
    omega

end Progress

/-! ## A whole scan -/

/-- The buckets into which a scan is sorted. -/
def Snapshot.buckets (s : Snapshot) (scan : Scan) : Array (Array Nat) :=
  (Rings.build s.parameters.maxRings.toNat s.parameters.maxPointsPerRing.toNat
    scan.returns).rings.buckets

/-- The progress before the first ring of a scan is walked, if there is room for its points. -/
def Snapshot.begin? (s : Snapshot) (cloud : Cloud) (transform : Option Transform) (scan : Scan) :
    Option Progress := do
  let sorter ← Sorter.start? scan.length (.ofFlag cloud.bigEndian) s.parameters.publishNoisePoints
    transform
  return ⟨sorter, .start scan.length (Rings.build s.parameters.maxRings.toNat
    s.parameters.maxPointsPerRing.toNat scan.returns).unplaced⟩

/-- What it means that nothing leaves its range while a scan is sorted and written. -/
structure Snapshot.StaysInBounds (s : Snapshot) (cloud : Cloud) (transform : Option Transform)
    (scan : Scan) : Prop where
  /-- Rings list records of the scan. -/
  indices : ∀ bucket ∈ s.buckets scan, ∀ index ∈ bucket, index < scan.length
  /-- The returns of a ring are found, and its walks lie in it. -/
  walks : ∀ bucket ∈ s.buckets scan, ∃ members,
    ringReturns? scan.returns bucket.toList = some members ∧
      ∀ walk ∈ LidarSieve.walks s.parameters.distanceRatio members,
        walk.first ≤ walk.last ∧ walk.last < bucket.size
  /-- A record lies in the buffer, its fields lie in it, and each is read in full. -/
  fields : ∀ index < scan.length,
    index * scan.layout.step + scan.layout.step ≤ scan.data.size ∧
      ∀ field ∈ scan.layout.fields, field.1 + field.2 ≤ scan.layout.step ∧
        ((scan.record index).slice field.1 field.2).length = field.2
  /-- Nothing else is read for a return. -/
  returns : ∀ index < scan.length,
    scan.return? index = some (scan.layout.read (scan.record index) 0)
  /-- Sorting starts, and after any number of rings no sink holds more points than it was made
  for, which is as many as the scan has records, and no point was turned away. -/
  sinks : ∃ start, s.begin? cloud transform scan = some start ∧
    (s.sort? (.ofFlag cloud.bigEndian) transform scan.returns).2 =
      Progress.rings s.parameters scan.returns (s.buckets scan).toList start ∧
    ∀ done, ∃ progress,
      Progress.rings s.parameters scan.returns ((s.buckets scan).toList.take done) start =
          some progress ∧
        progress.WithinRoom scan.length
  /-- All rings are sorted and both clouds are written. -/
  written : ∃ progress clouds,
    (s.sort? (.ofFlag cloud.bigEndian) transform scan.returns).2 = some progress ∧
      progress.sorter.finish? cloud.header cloud.dense = some clouds
  /-- The grid alone can be given up. -/
  failures : ∀ failure, (s.filter cloud transform).1 = .error failure →
    s.parameters.publishNoisePoints = true ∧ s.grid.evaluate? cloud.header scan.returns = none

/-- After any number of rings the sinks are within their room. -/
theorem Progress.withinRoom_rings (s : Snapshot) (cloud : Cloud) (transform : Option Transform)
    (scan : Scan) (few : scan.length < 2 ^ 28) :
    ∃ start, s.begin? cloud transform scan = some start ∧
      (s.sort? (.ofFlag cloud.bigEndian) transform scan.returns).2 =
        rings s.parameters scan.returns (s.buckets scan).toList start ∧
      ∀ done, ∃ progress,
        rings s.parameters scan.returns ((s.buckets scan).toList.take done) start =
            some progress ∧
          progress.WithinRoom scan.length := by
  rw [← scan.size_returns] at few ⊢
  have fits := fits_of_few few
  have room := Sorter.start?_eq_fresh scan.returns.size (.ofFlag cloud.bigEndian)
    s.parameters.publishNoisePoints transform fits
  have started : s.begin? cloud transform scan = some
      ⟨.fresh scan.returns.size (.ofFlag cloud.bigEndian) s.parameters.publishNoisePoints transform,
        .start scan.returns.size (Rings.build s.parameters.maxRings.toNat
          s.parameters.maxPointsPerRing.toNat scan.returns).unplaced⟩ := by
    rw [Snapshot.begin?, ← scan.size_returns, room]
    rfl
  refine ⟨_, started, by rw [Snapshot.sort?, room]; rfl, fun done => ?_⟩
  obtain ⟨le, walked⟩ := rings_take s.parameters (.ofFlag cloud.bigEndian) transform
    scan.returns fits _ done
  refine ⟨_, walked, (withinRoom_fresh _ _ _ _ _).extend _ _ _ _ ?_⟩
  rw [flatten_flatMap_splitBy]
  simpa [Statistics.start] using le

/-- Whatever the settings and the transform: a scan of fewer than `2 ^ 28` records is sorted and
written without leaving any range. -/
theorem Snapshot.staysInBounds (s : Snapshot) (cloud : Cloud) (transform : Option Transform)
    (scan : Scan) (opened : Scan.ofCloud cloud = .ok scan) (few : scan.length < 2 ^ 28) :
    s.StaysInBounds cloud transform scan := by
  have count := scan.size_returns
  have few_returns : scan.returns.size < 2 ^ 28 := count ▸ few
  have fits : scan.layout.Fits := Layout.fits_of_ofCloud (Scan.layout_of_ofCloud opened)
  refine ⟨?_, ?_, ?_, ?_, Progress.withinRoom_rings s cloud transform scan few, ?_, ?_⟩
  · intro bucket mem index listed
    rw [← count]
    exact Rings.index_lt_of_mem_build s.parameters scan.returns mem listed
  · intro bucket mem
    exact Rings.walks_of_mem_build s.parameters scan.returns mem
  · intro index inside
    refine ⟨scan.record_end_le inside, fun field mem => ⟨fits field mem, ?_⟩⟩
    rw [scan.slice_record index (fits field mem)]
    exact scan.length_slice inside (fits field mem)
  · intro index inside
    rw [Scan.return?, if_pos inside, scan.read_record fits]
  · have sorted := s.sort?_eq (.ofFlag cloud.bigEndian) transform scan.returns
      (fits_of_few few_returns)
    have finished := Sorter.finish?_ofSelection s.parameters cloud transform
      (returnAt scan.returns) (List.nodup_finRange _)
      (by rw [List.length_finRange]; exact few_returns)
    exact ⟨_, _, congrArg Prod.snd sorted, finished⟩
  · intro failure failed
    rw [s.filter_of_opened opened] at failed
    exact s.grid_of_filterReturns_error cloud transform scan.returns few_returns failed

theorem sampleCloud_staysInBounds :
    Scan.ofCloud sampleCloud = .ok sampleScan ∧ sampleScan.length < 2 ^ 28 ∧
      sampleSnapshot.StaysInBounds sampleCloud none sampleScan :=
  ⟨ofCloud_sampleCloud, by decide,
    sampleSnapshot.staysInBounds sampleCloud none sampleScan ofCloud_sampleCloud (by decide)⟩

end LidarSieve
