import Mathlib.Data.Set.List
import LidarSieve.Proofs.Outcome
/-!
# Collecting points

A sink is kept as a list of points.  The buffer behind it is a `Tape`: octets that are there from
the beginning, a running offset, and a push that writes the octets of a point at the offset if they
end inside the buffer, and otherwise leaves everything as it is.  The two agree push by push
(`Tape.push_tape`), so that a run of pushes, some of which may find the tape full, leaves on it the
octets of the points that were taken and blanks behind them.

Handing over a walk is such a run, cut short at the first point that is missing or finds the sink
full (`Sink.pushAll_eq`).  `Sorter.collects` puts both together.
-/
set_option autoImplicit false

namespace LidarSieve

/-! ## Writing into a buffer -/

/-- Writes octets one after the other over those of a buffer, from `start` on. -/
def Octets.overwrite (buffer : Octets) (start : Nat) : List UInt8 → Octets
  | [] => buffer
  | octet :: rest => overwrite (buffer.setIfInBounds start octet) (start + 1) rest

/-- What is written inside a buffer takes the place of as many octets, and all others stay. -/
theorem Octets.toList_overwrite (buffer : Octets) (start : Nat) (octets : List UInt8)
    (fits : start + octets.length ≤ buffer.size) :
    (buffer.overwrite start octets).toList =
      buffer.toList.take start ++ octets ++ buffer.toList.drop (start + octets.length) := by
  induction octets generalizing buffer start with
  | nil => simp [overwrite]
  | cons octet rest ih =>
    rw [List.length_cons] at fits
    have inside : start < buffer.toList.length := by
      rw [Array.length_toList]
      omega
    have front : (buffer.toList.take start ++ [octet]).length = start + 1 := by
      rw [List.length_append, List.length_take_of_le (Nat.le_of_lt inside), List.length_singleton]
    have written : (buffer.setIfInBounds start octet).toList =
        (buffer.toList.take start ++ [octet]) ++ buffer.toList.drop (start + 1) := by
      rw [Array.toList_setIfInBounds, List.set_eq_take_append_cons_drop, if_pos inside]
      simp
    rw [overwrite, ih _ _ (by rw [Array.size_setIfInBounds]; omega), written,
      List.take_left' front, ← List.drop_drop, List.drop_left' front, List.drop_drop,
      List.length_cons, Nat.add_assoc, Nat.add_comm 1]
    simp

/-! ## Tapes -/

/-- A buffer for points that is written from its start. -/
@[ext] structure Tape where
  octets : Octets
  /-- Where the next point goes. -/
  offset : Nat
  order : ByteOrder

namespace Tape

/-- A tape for a number of points, with nothing on it. -/
def blank (capacity : Nat) (order : ByteOrder) : Tape :=
  ⟨Array.replicate (capacity * spotStep.toNat) 0, 0, order⟩

/-- How many points stand on the tape. -/
def size (tape : Tape) : Nat := tape.offset / spotStep.toNat

/-- No point stands on the tape. -/
def isEmpty (tape : Tape) : Bool := tape.offset == 0

/-- Writes a point if its octets end on the tape; the flag tells whether they do. -/
def push (tape : Tape) (spot : Spot) : Tape × Bool :=
  if tape.offset + spotStep.toNat ≤ tape.octets.size then
    (⟨tape.octets.overwrite tape.offset (spot.octets tape.order), tape.offset + spotStep.toNat,
      tape.order⟩, true)
  else (tape, false)

/-- Tries to write points one after the other; each flag tells of one of them. -/
def attempt (tape : Tape) : List Spot → Tape × List Bool
  | [] => (tape, [])
  | spot :: rest =>
    let (next, taken) := tape.push spot
    let (last, flags) := attempt next rest
    (last, taken :: flags)

/-- The written part of the tape as a cloud of one row. -/
def toCloud? (tape : Tape) (header : Header) (dense : Bool) : Option Cloud :=
  let written := tape.octets.extract 0 tape.offset
  Cloud.ofRow? header tape.order.isBig spotFields spotStep (written.size / spotStep.toNat) written
    dense

end Tape

/-- The tape of a sink: the octets of its points, and blanks for those that it has room for. -/
def Sink.tape (sink : Sink) : Tape where
  octets := (sink.spots.toList.flatMap (Spot.octets sink.order) ++
    List.replicate ((sink.capacity - sink.size) * spotStep.toNat) 0).toArray
  offset := sink.size * spotStep.toNat
  order := sink.order

namespace Sink

/-- Tries to push points one after the other; each flag tells of one of them. -/
def attempt (sink : Sink) : List Spot → Sink × List Bool
  | [] => (sink, [])
  | spot :: rest =>
    match sink.push? spot with
    | some next => ((attempt next rest).1, true :: (attempt next rest).2)
    | none => ((attempt sink rest).1, false :: (attempt sink rest).2)

/-! ## The tape of a sink -/

/-- The sink has room for the points that it holds. -/
def Within (sink : Sink) : Prop := sink.size ≤ sink.capacity

/-- The octets of the points of a sink. -/
def packed (sink : Sink) : List UInt8 := sink.spots.toList.flatMap (Spot.octets sink.order)

theorem length_packed (sink : Sink) : sink.packed.length = sink.size * 16 := by
  rw [packed, length_flatMap_pack (Spot.length_octets sink.order), Array.length_toList]
  rfl

theorem packed_append (sink : Sink) (spot : Spot) :
    (sink.append [spot]).packed = sink.packed ++ spot.octets sink.order := by
  simp [packed, append]

/-- The tape holds the points of the sink, and blanks behind them. -/
theorem toList_tape (sink : Sink) : sink.tape.octets.toList =
    sink.packed ++ List.replicate ((sink.capacity - sink.size) * 16) 0 := rfl

theorem size_tape {sink : Sink} (within : sink.Within) :
    sink.tape.octets.size = sink.capacity * 16 := by
  have whole : sink.size + (sink.capacity - sink.size) = sink.capacity := Nat.add_sub_cancel' within
  rw [← Array.length_toList, toList_tape, List.length_append, List.length_replicate, length_packed,
    ← Nat.add_mul, whole]

theorem tape_empty (capacity : Nat) (order : ByteOrder) :
    (empty capacity order).tape = .blank capacity order := by
  simp [tape, empty, size, Tape.blank]

/-- The step: a push on the tape of a sink is a push into the sink. -/
theorem push_tape {sink : Sink} (within : sink.Within) (spot : Spot) :
    sink.tape.push spot =
      match sink.push? spot with
      | some next => (next.tape, true)
      | none => (sink.tape, false) := by
  have ends : sink.tape.offset + spotStep.toNat ≤ sink.tape.octets.size ↔
      sink.size < sink.capacity := by
    rw [size_tape within]
    change sink.size * 16 + 16 ≤ sink.capacity * 16 ↔ _
    omega
  rcases Nat.lt_or_ge sink.size sink.capacity with room | full
  · have fits : sink.size * 16 + (spot.octets sink.order).length ≤ sink.tape.octets.size := by
      rw [Spot.length_octets]
      exact ends.mpr room
    have written := Octets.toList_overwrite sink.tape.octets (sink.size * 16)
      (spot.octets sink.order) fits
    rw [toList_tape, Spot.length_octets, List.take_left' sink.length_packed, ← List.drop_drop,
      List.drop_left' sink.length_packed, List.drop_replicate] at written
    have blanks : (sink.capacity - sink.size) * 16 - 16 =
        (sink.capacity - (sink.append [spot]).size) * 16 := by
      rw [size_append, List.length_singleton]
      omega
    rw [blanks, ← packed_append] at written
    rw [push?_of_lt room, Tape.push, if_pos (ends.mpr room)]
    refine Prod.ext (Tape.ext (Array.ext' ?_) ?_ rfl) rfl
    · exact written
    · change sink.size * 16 + 16 = (sink.append [spot]).size * 16
      rw [size_append, List.length_singleton, Nat.succ_mul]
  · rw [push?_of_le full, Tape.push, if_neg fun fits => Nat.not_lt_of_le full (ends.mp fits)]

/-! ## Runs of pushes -/

/-- The run: pushes that are tried on the tape of a sink are tried on the sink. -/
theorem attempt_tape (spots : List Spot) {sink : Sink} (within : sink.Within) :
    sink.tape.attempt spots = ((sink.attempt spots).1.tape, (sink.attempt spots).2) ∧
      (sink.attempt spots).1.Within := by
  induction spots generalizing sink with
  | nil => exact ⟨rfl, within⟩
  | cons spot rest ih =>
    rw [Tape.attempt, attempt, push_tape within]
    rcases Nat.lt_or_ge sink.size sink.capacity with room | full
    · have within_next : (sink.append [spot]).Within := by
        rw [Within, size_append, capacity_append, List.length_singleton]
        exact room
      obtain ⟨same, kept⟩ := ih within_next
      simp only [push?_of_lt room, same]
      exact ⟨trivial, kept⟩
    · obtain ⟨same, kept⟩ := ih within
      simp only [push?_of_le full, same]
      exact ⟨trivial, kept⟩

/-- As many pushes are taken as there is room for, and no later one. -/
theorem attempt_flags (sink : Sink) (spots : List Spot) :
    (sink.attempt spots).2 =
      spots.mapIdx fun place _ => decide (sink.size + place < sink.capacity) := by
  induction spots generalizing sink with
  | nil => rfl
  | cons spot rest ih =>
    rw [attempt, List.mapIdx_cons]
    rcases Nat.lt_or_ge sink.size sink.capacity with room | full
    · simp only [push?_of_lt room, ih, size_append, capacity_append, List.length_singleton]
      simp [room, Nat.add_assoc, Nat.add_comm 1]
    · have never (place : Nat) : ¬ sink.size + place < sink.capacity := by omega
      simp only [push?_of_le full, ih, never, decide_false]

end Sink

/-- The points whose push was taken. -/
def takenOf (spots : List Spot) (flags : List Bool) : List Spot :=
  ((spots.zip flags).filter (·.2)).map (·.1)

/-- As many points are taken as there are flags that say so. -/
theorem length_takenOf {spots : List Spot} {flags : List Bool}
    (same : flags.length = spots.length) : (takenOf spots flags).length = flags.count true := by
  have second : (spots.zip flags).map Prod.snd = flags :=
    List.map_snd_zip (Nat.le_of_eq same)
  rw [takenOf, List.length_map, ← List.countP_eq_length_filter, ← second, List.count, List.countP_map,
    second]
  refine List.countP_congr fun pair _ => ?_
  simp

namespace Sink

/-- A sink holds the points that it has taken behind those that it held. -/
theorem attempt_eq_append (sink : Sink) (spots : List Spot) :
    (sink.attempt spots).1 = sink.append (takenOf spots (sink.attempt spots).2) := by
  induction spots generalizing sink with
  | nil => simp [attempt, takenOf]
  | cons spot rest ih =>
    rw [attempt]
    rcases Nat.lt_or_ge sink.size sink.capacity with room | full
    · simp only [push?_of_lt room]
      rw [ih, append_append]
      rfl
    · simp only [push?_of_le full]
      exact ih sink

/-- The written part of the tape of a sink makes the cloud of the sink. -/
theorem toCloud?_tape (sink : Sink) (header : Header) (dense : Bool) :
    sink.tape.toCloud? header dense = sink.toCloud? header dense := by
  have written : sink.tape.octets.extract 0 sink.tape.offset = sink.packed.toArray := by
    apply Array.ext'
    change (sink.tape.octets.extract 0 (sink.size * 16)).toList = sink.packed
    rw [Array.toList_extract, toList_tape, List.extract_eq_take_drop, List.drop_zero, Nat.sub_zero,
      List.take_left' sink.length_packed]
  have count : sink.packed.toArray.size / spotStep.toNat = sink.size := by
    rw [List.size_toArray, length_packed]
    exact Nat.mul_div_cancel _ (by decide)
  simp only [Tape.toCloud?, written, count]
  rfl

end Sink

/-! ## What a run leaves on a tape -/

/-- What tape and flags say after a run of pushes onto a blank tape. -/
structure Tape.Collects (capacity : Nat) (order : ByteOrder) (spots : List Spot) (tape : Tape)
    (flags : List Bool) : Prop where
  /-- The pushes that are taken are the first ones, as many as there is room for. -/
  flags_eq : flags = spots.mapIdx fun place _ => decide (place < capacity)
  size_eq : tape.size = flags.count true
  size_le : tape.size ≤ capacity
  isEmpty_iff : tape.isEmpty = true ↔ tape.size = 0
  /-- The next push is taken exactly if there is room, and otherwise changes no octet. -/
  push_taken : ∀ spot, (tape.push spot).2 = true ↔ tape.size < capacity
  push_refused : ∀ spot, (tape.push spot).2 = false → (tape.push spot).1 = tape
  /-- The tape can be made into a cloud of the points that were taken. -/
  written : ∀ header dense, ∃ cloud, tape.toCloud? header dense = some cloud ∧
    cloud.header = header ∧ cloud.dense = dense ∧ cloud.bigEndian = order.isBig ∧
    cloud.height = 1 ∧ cloud.width.toNat = tape.size ∧ cloud.rowStep.toNat = cloud.data.size ∧
    cloud.data.size = 16 * tape.size ∧ cloud.spots = .ok (takenOf spots flags)

namespace Sink

theorem size_tape_eq (sink : Sink) : sink.tape.size = sink.size :=
  Nat.mul_div_cancel _ (by decide)

theorem isEmpty_tape_eq (sink : Sink) : sink.tape.isEmpty = sink.isEmpty := by
  change (sink.spots.size * 16 == 0) = decide (sink.spots.size = 0)
  rw [Bool.eq_iff_iff, beq_iff_eq, decide_eq_true_iff]
  omega

/-- The cloud of a sink of few points. -/
theorem exists_toCloud? (sink : Sink) (few : sink.size < 2 ^ 28) (header : Header) (dense : Bool) :
    ∃ cloud, sink.toCloud? header dense = some cloud ∧
      cloud.header = header ∧ cloud.dense = dense ∧ cloud.bigEndian = sink.order.isBig ∧
      cloud.height = 1 ∧ cloud.width.toNat = sink.size ∧ cloud.rowStep.toNat = cloud.data.size ∧
      cloud.data.size = 16 * sink.size ∧ cloud.spots = .ok sink.spots.toList := by
  have step : spotStep.toNat = 16 := rfl
  have fits : sink.size * spotStep.toNat < UInt32.size := by
    rw [step, UInt32.size]
    omega
  have count : sink.spots.toList.length = sink.size := Array.length_toList
  have word : (UInt32.ofNat sink.spots.toList.length).toNat = sink.size := by
    rw [count]
    exact UInt32.toNat_ofNat_of_lt' (by rw [UInt32.size]; omega)
  have data := Cloud.size_data_ofSpots header sink.order sink.spots.toList dense
  rw [count, Nat.mul_comm] at data
  refine ⟨_, sink.toCloud?_eq header dense fits, rfl, rfl, rfl, rfl, word, ?_, data, ?_⟩
  · rw [data]
    change (UInt32.ofNat sink.spots.toList.length * spotStep).toNat = 16 * sink.size
    rw [UInt32.toNat_mul, word, step]
    omega
  · exact Cloud.spots_ofSpots header sink.order sink.spots.toList dense
      (by rw [count, UInt32.size]; omega)

end Sink

/-- The run onto a blank tape, read off the sink. -/
theorem Tape.collects_attempt {capacity : Nat} (few : capacity < 2 ^ 28) (order : ByteOrder)
    (spots : List Spot) :
    Collects capacity order spots ((blank capacity order).attempt spots).1
      ((blank capacity order).attempt spots).2 := by
  have fresh : (Sink.empty capacity order).Within := Nat.zero_le _
  obtain ⟨same, within⟩ := Sink.attempt_tape spots fresh
  rw [Sink.tape_empty] at same
  rw [same]
  have flags := (Sink.empty capacity order).attempt_flags spots
  have held := (Sink.empty capacity order).attempt_eq_append spots
  generalize (Sink.empty capacity order).attempt spots = run at *
  obtain ⟨sink, taken⟩ := run
  simp only at *
  have capacity_eq : sink.capacity = capacity := by
    rw [held]
    rfl
  have order_eq : sink.order = order := by
    rw [held]
    rfl
  have spots_eq : sink.spots.toList = takenOf spots taken := by
    rw [held]
    simp [Sink.append, Sink.empty]
  have size_le : sink.size ≤ capacity := capacity_eq ▸ within
  refine ⟨?_, ?_, ?_, ?_, ?_, ?_, ?_⟩
  · rw [flags]
    simp [Sink.empty, Sink.size]
  · rw [Sink.size_tape_eq, Sink.size, ← Array.length_toList, spots_eq]
    exact length_takenOf (by rw [flags, List.length_mapIdx])
  · rw [Sink.size_tape_eq]
    exact size_le
  · rw [Sink.size_tape_eq, isEmpty, beq_iff_eq]
    change sink.size * 16 = 0 ↔ _
    omega
  · intro spot
    rw [Sink.push_tape within, Sink.size_tape_eq, ← capacity_eq]
    rcases Nat.lt_or_ge sink.size sink.capacity with room | full
    · simp [Sink.push?_of_lt room, room]
    · simp [Sink.push?_of_le full, full]
  · intro spot refused
    rw [Sink.push_tape within] at refused ⊢
    rcases Nat.lt_or_ge sink.size sink.capacity with room | full
    · simp [Sink.push?_of_lt room] at refused
    · rw [Sink.push?_of_le full]
  · intro header dense
    rw [sink.toCloud?_tape, Sink.size_tape_eq, ← spots_eq, ← order_eq]
    exact sink.exists_toCloud? (by omega) header dense

/-! ## Handing over a walk -/

/-- The returns of a walk in order; one is missing where the ring lists no record of the scan. -/
def Walk.returnsIn (walk : Walk) (returns : Array Return) (ring : Array Nat) :
    List (Option Return) :=
  walk.positions.map fun position => ring[position]?.bind (returns[·]?)

/-- How many points the sink can still take. -/
def Sink.room (sink : Sink) : Nat := sink.capacity - sink.size

namespace Sorter

/-- The points of a walk that come before a missing one. -/
def reached (sorter : Sorter) (returns : Array Return) (ring : Array Nat) (walk : Walk) :
    List Spot :=
  (leading (walk.returnsIn returns ring)).map (Spot.ofReturn sorter.transform)

/-- What handing over a walk does to the sinks. -/
structure HandsOver (sorter : Sorter) (returns : Array Return) (ring : Array Nat) (walk : Walk) :
    Prop where
  /-- The sink of accepted points takes those of the walk until it is full, and the other sink
  stays as it is. -/
  cluster : sorter.emit returns ring walk .cluster =
    (⟨sorter.transform,
        sorter.accepted.append ((sorter.reached returns ring walk).take sorter.accepted.room),
        sorter.rejected⟩,
      decide (none ∉ walk.returnsIn returns ring ∧ walk.size ≤ sorter.accepted.room))
  /-- So does the sink of rejected points, if there is one. -/
  noise : ∀ sink, sorter.rejected = some sink → sorter.emit returns ring walk .noise =
    (⟨sorter.transform, sorter.accepted,
        some (sink.append ((sorter.reached returns ring walk).take sink.room))⟩,
      decide (none ∉ walk.returnsIn returns ring ∧ walk.size ≤ sink.room))
  let_go : sorter.rejected = none → sorter.emit returns ring walk .noise = (sorter, true)
  /-- A ring of records of the scan misses no return, so that all points of the walk are reached. -/
  complete : (∀ index ∈ ring, index < returns.size) → ∃ members : List Return,
    walk.returnsIn returns ring = members.map some ∧
      sorter.reached returns ring walk = members.map (Spot.ofReturn sorter.transform)

variable {returns : Array Return} {ring : Array Nat} {walk : Walk}

theorem leading_map {α β : Type} (f : α → β) (values : List (Option α)) :
    leading (values.map (Option.map f)) = (leading values).map f := by
  induction values with
  | nil => rfl
  | cons value rest ih =>
    cases value with
    | none => rfl
    | some value => rw [List.map_cons, Option.map_some, leading, leading, ih, List.map_cons]

/-- The points of a walk inside its ring are those of its returns. -/
theorem spotsOf_eq (transform : Option Transform) (inside : walk.last < ring.size) :
    spotsOf transform returns ring walk =
      (walk.returnsIn returns ring).map (Option.map (Spot.ofReturn transform)) := by
  rw [spotsOf, walk.positionsWithin_of_last_lt _ inside, Walk.returnsIn, List.map_map]
  rfl

/-- What a sink takes of a walk. -/
theorem pushAll_spotsOf (sorter : Sorter) (sink : Sink) (returns : Array Return)
    (inside : walk.last < ring.size) :
    sink.pushAll (spotsOf sorter.transform returns ring walk) =
      (sink.append ((sorter.reached returns ring walk).take sink.room),
        decide (none ∉ walk.returnsIn returns ring ∧ walk.size ≤ sink.room)) := by
  have missing : none ∈ (walk.returnsIn returns ring).map
      (Option.map (Spot.ofReturn sorter.transform)) ↔ none ∈ walk.returnsIn returns ring := by
    simp
  have count : (walk.returnsIn returns ring).length = walk.size := by
    rw [Walk.returnsIn, List.length_map, Walk.positions, List.length_range']
  rw [spotsOf_eq _ inside, Sink.pushAll_eq, leading_map, List.length_map, count]
  simp only [missing]
  rfl

/-- A walk inside a ring of records of the scan has all its returns. -/
theorem exists_returnsIn (inside : walk.last < ring.size)
    (listed : ∀ index ∈ ring, index < returns.size) :
    ∃ members : List Return, walk.returnsIn returns ring = members.map some := by
  have present : walk.returnsIn returns ring ∈ Set.range (List.map some) := by
    rw [Set.range_list_map]
    intro found mem
    obtain ⟨position, among, rfl⟩ := List.mem_map.mp mem
    have bounds := List.mem_range'_1.mp among
    have within : position < ring.size := by
      unfold Walk.size at bounds
      omega
    have record := listed ring[position] (Array.getElem_mem within)
    refine ⟨returns[ring[position]], ?_⟩
    rw [Array.getElem?_eq_getElem within, Option.bind_some, Array.getElem?_eq_getElem record]
  obtain ⟨members, all⟩ := present
  exact ⟨members, all.symm⟩

theorem handsOver (sorter : Sorter) (inside : walk.last < ring.size) :
    sorter.HandsOver returns ring walk := by
  refine ⟨?_, fun sink held => ?_, fun discards => ?_, fun listed => ?_⟩
  · have taken := sorter.pushAll_spotsOf sorter.accepted returns inside
    obtain ⟨transform, accepted, rejected⟩ := sorter
    simp only [emit]
    rw [taken]
  · have taken := sorter.pushAll_spotsOf sink returns inside
    obtain ⟨transform, accepted, rejected⟩ := sorter
    simp only at held
    subst held
    simp only [emit]
    rw [taken]
  · obtain ⟨transform, accepted, rejected⟩ := sorter
    simp only at discards
    subst discards
    rfl
  · obtain ⟨members, all⟩ := exists_returnsIn inside listed
    refine ⟨members, all, ?_⟩
    rw [reached, all, leading_map_some]

/-- Collecting points never goes wrong:

* a run of pushes onto a tape for fewer than `2 ^ 28` points takes the first ones, leaves the others
  out without a trace, and can be made into a cloud of those taken (`Tape.Collects`);
* a sink makes the same run: it has as many points, and its tape and its cloud are those of the
  run;
* a walk inside its ring goes to the sink of its verdict until that one is full, and to no other
  (`Sorter.HandsOver`). -/
theorem collects :
    (∀ capacity < 2 ^ 28, ∀ (order : ByteOrder) (transform : Option Transform)
        (tries : List Return),
      let spots := tries.map (Spot.ofReturn transform)
      let run := (Tape.blank capacity order).attempt spots
      Tape.Collects capacity order spots run.1 run.2 ∧
        ∃ start, Sink.start? capacity order = some start ∧ start.tape = .blank capacity order ∧
          (start.attempt spots).1.tape = run.1 ∧ (start.attempt spots).2 = run.2 ∧
          (start.attempt spots).1.size = run.1.size ∧
          (start.attempt spots).1.isEmpty = run.1.isEmpty ∧
          ∀ header dense,
            (start.attempt spots).1.toCloud? header dense = run.1.toCloud? header dense) ∧
    ∀ (sorter : Sorter) (returns : Array Return) (ring : Array Nat) (walk : Walk),
      walk.last < ring.size → sorter.HandsOver returns ring walk := by
  refine ⟨fun capacity few order transform tries => ?_, ?_⟩
  · have fresh : (Sink.empty capacity order).Within := Nat.zero_le _
    obtain ⟨same, -⟩ := Sink.attempt_tape (tries.map (Spot.ofReturn transform)) fresh
    rw [Sink.tape_empty] at same
    refine ⟨Tape.collects_attempt few order _, .empty capacity order, ?_,
      Sink.tape_empty capacity order, ?_⟩
    · rw [Sink.start?, if_neg (Nat.not_lt_of_le (fits_of_few few))]
    · rw [same]
      exact ⟨rfl, rfl, (Sink.size_tape_eq _).symm, (Sink.isEmpty_tape_eq _).symm,
        fun header dense => (Sink.toCloud?_tape _ header dense).symm⟩
  · intro sorter returns ring walk inside
    exact sorter.handsOver inside

/-- A sorter with room for two accepted points and for no rejected ones. -/
def narrowSorter : Sorter := fresh 2 .little false none

/-- Of three points that are tried two are taken, and of a walk of three points as well. -/
theorem collects_threePoints :
    ((Tape.blank 2 .little).attempt ((sampleScan.returns.toList.take 3).map (Spot.ofReturn none))).2 =
        [true, true, false] ∧
      ((Tape.blank 2 .little).attempt
        ((sampleScan.returns.toList.take 3).map (Spot.ofReturn none))).1.size = 2 ∧
      (narrowSorter.emit sampleScan.returns #[0, 2, 4] ⟨0, 2⟩ .cluster).2 = false ∧
      (narrowSorter.emit sampleScan.returns #[0, 2, 4] ⟨0, 2⟩ .noise) = (narrowSorter, true) := by
  obtain ⟨runs, walks⟩ := collects
  obtain ⟨collected, -⟩ := runs 2 (by decide) .little none (sampleScan.returns.toList.take 3)
  have handed := walks narrowSorter sampleScan.returns #[0, 2, 4] ⟨0, 2⟩ (by decide)
  have flags := collected.flags_eq
  have taken : ((sampleScan.returns.toList.take 3).map (Spot.ofReturn none)).mapIdx
      (fun place _ => decide (place < 2)) = [true, true, false] := by
    decide +kernel
  rw [taken] at flags
  refine ⟨flags, ?_, ?_, handed.let_go rfl⟩
  · rw [collected.size_eq, flags]
    rfl
  · rw [handed.cluster]
    decide +kernel

end Sorter

end LidarSieve
