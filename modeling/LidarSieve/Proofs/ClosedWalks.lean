import LidarSieve.Proofs.Accuracy
import LidarSieve.Proofs.Outcome
import LidarSieve.Proofs.Validity
/-!
# Closed walks

A walk is closed if it ends at the place where it began; a walk of one return is.  What is computed
as its squared length is exactly zero if the place is a point, and no number if one of the
coordinates is not finite (`Criterion.cancelled_squaredSpan`).  Neither is as long as an object, so
a closed walk of few returns is meant to be noise wherever it is.

But lengths are compared as squares, and a square is rounded to zero from `2 ^ -75` metres
downwards (`Binary.Number.isZero_mul_self_iff_value_le`).  Zero is not less than such a square: a
closed walk at a point is an object then, and so is an isolated return
(`Parameters.judges_closed_walks`).
-/
set_option autoImplicit false

namespace LidarSieve

open LidarSieve.Binary LidarSieve.Binary.Number

namespace Binary.Number

/-! ## Words that cancel each other -/

section Cancelling

variable {x y : Single}

/-- The same word, or two zeros. -/
def Coincides (x y : Single) : Prop := x = y ∨ x.isZero = true ∧ y.isZero = true

/-- What is left where words cancel each other: a zero, or no number if they are not finite. -/
def Cancelled (finite : Bool) (x : Single) : Prop :=
  if finite then x.isZero = true else x.isNaN = true

theorem isFinite_of_isZero (zero : x.isZero = true) : x.isFinite = true := by
  have zeroMagnitude : x.magnitude = 0 := of_decide_eq_true zero
  have room : 0 < single.infinity := by decide
  refine decide_eq_true ?_
  rw [zeroMagnitude]
  exact room

theorem quanta_of_isZero (zero : x.isZero = true) : x.quanta = 0 := by
  have zeroMagnitude : x.magnitude = 0 := of_decide_eq_true zero
  unfold quanta
  rw [zeroMagnitude, Format.quanta_zero]
  split <;> rfl

/-- An infinity less itself is no number. -/
theorem isNaN_sub_self (infinite : x.isFinite = false) : (x - x).isNaN = true := by
  rcases x.kinds with nan | bounded | finite
  · by_contra number
    have operand := (isNaN_of_isNaN_add (Bool.eq_false_of_not_eq_true number)).1
    rw [nan] at operand
    cases operand
  · rw [eq_infinity_of_isInfinite bounded]
    cases x.negative <;> rfl
  · rw [infinite] at finite
    cases finite

theorem cancelled_sub (same : x.Coincides y) : Cancelled x.isFinite (y - x) := by
  cases finite : x.isFinite with
  | true =>
    have alike : y.isFinite = true ∧ y.quanta = x.quanta := by
      rcases same with rfl | ⟨zero, zero'⟩
      · exact ⟨finite, rfl⟩
      · exact ⟨isFinite_of_isZero zero', (quanta_of_isZero zero').trans (quanta_of_isZero zero).symm⟩
    change (y - x).isZero = true
    rw [sub_eq_add_neg, add_of_isFinite alike.1 (isFinite_neg.trans finite), quanta_neg, alike.2,
      Int.add_right_neg]
    rfl
  | false =>
    change (y - x).isNaN = true
    rcases same with rfl | ⟨zero, -⟩
    · exact isNaN_sub_self finite
    · rw [isFinite_of_isZero zero] at finite
      cases finite

theorem Cancelled.mul_self {finite : Bool} (cancelled : Cancelled finite x) :
    Cancelled finite (x * x) := by
  cases finite with
  | true =>
    have zero : x.isZero = true := cancelled
    have zeroMagnitude : x.magnitude = 0 := of_decide_eq_true zero
    have finite := isFinite_of_isZero zero
    refine decide_eq_true ?_
    rw [mul_of_isFinite finite finite, zeroMagnitude, Format.quanta_zero, Nat.mul_zero]
    exact Format.round_eq_zero single.unit_pos
  | false =>
    by_contra number
    have operand := isNaN_of_isNaN_mul (Bool.eq_false_of_not_eq_true number)
    exact Bool.false_ne_true (operand.symm.trans cancelled)

theorem Cancelled.add {finite finite' : Bool} (left : Cancelled finite x)
    (right : Cancelled finite' y) : Cancelled (finite && finite') (x + y) := by
  cases both : finite && finite' with
  | true =>
    obtain ⟨rfl, rfl⟩ := Bool.and_eq_true_iff.mp both
    have zero : x.isZero = true := left
    have zero' : y.isZero = true := right
    change (x + y).isZero = true
    rw [add_of_isFinite (isFinite_of_isZero zero) (isFinite_of_isZero zero'),
      quanta_of_isZero zero, quanta_of_isZero zero']
    rfl
  | false =>
    by_contra number
    obtain ⟨operand, operand'⟩ := isNaN_of_isNaN_add (Bool.eq_false_of_not_eq_true number)
    rcases Bool.and_eq_false_iff.mp both with rfl | rfl
    · exact Bool.false_ne_true (operand.symm.trans left)
    · exact Bool.false_ne_true (operand'.symm.trans right)

end Cancelling

/-! ## Squares that are rounded to zero -/

section Squares

variable {t s : Single} (finite : t.isFinite = true)

include finite

/-- A square is not greater than what cancelling leaves only where both are zero. -/
theorem mul_self_le_iff {bounded : Bool} (cancelled : Cancelled bounded s) :
    t * t ≤ s ↔ bounded = true ∧ (t * t).isZero = true := by
  cases bounded with
  | false =>
    have nan : s.isNaN = true := cancelled
    simp [le_iff, nan]
  | true =>
    have zero : s.isZero = true := cancelled
    have zeroMagnitude : s.magnitude = 0 := of_decide_eq_true zero
    have key : s.key = 0 := by
      unfold key
      rw [zeroMagnitude]
      split <;> rfl
    have number := isNaN_of_isFinite (isFinite_of_isZero zero)
    rw [le_iff, number, key, isZero, decide_eq_true_iff, mul_of_isFinite finite finite,
      bne_self_eq_false, isNaN_rounded]
    simp [Number.key, rounded]

/-- A square is rounded to zero if the exact one is at most half a quantum. -/
theorem isZero_mul_self_iff :
    (t * t).isZero = true ↔
      2 * (single.quanta t.magnitude * single.quanta t.magnitude) ≤ single.unit := by
  have some_finite : 0 < single.infinity := by decide
  rw [mul_of_isFinite finite finite, ← Format.round_eq_zero_iff single.unit_pos some_finite]
  exact decide_eq_true_iff

/-- This is so up to `2 ^ -75`. -/
theorem isZero_mul_self_iff_value_le (zero_le : 0 ≤ t) :
    (t * t).isZero = true ↔ t.value ≤ 1 / 2 ^ 75 := by
  have unit : single.unit = 2 ^ 149 := rfl
  have value : t.value = single.quanta t.magnitude / 2 ^ 149 := by
    have quanta := quanta_of_nonneg zero_le
    rw [value_of_quanta quanta]
    rfl
  have bound : (single.quanta t.magnitude : ℚ) / 2 ^ 149 ≤ 1 / 2 ^ 75 ↔
      single.quanta t.magnitude ≤ 2 ^ 74 := by
    rw [div_le_iff₀ (by positivity), ← Nat.cast_le (α := ℚ)]
    norm_num
  have squares : single.quanta t.magnitude * single.quanta t.magnitude ≤ 2 ^ 74 * 2 ^ 74 ↔
      single.quanta t.magnitude ≤ 2 ^ 74 := Nat.mul_self_le_mul_self_iff
  rw [isZero_mul_self_iff finite, unit, value, bound, ← squares]
  omega

end Squares

end Binary.Number

/-! ## Places -/

namespace Return

/-- The position of the return is a point: none of its coordinates is an infinity or no number. -/
def isPlaced (r : Return) : Bool := r.x.isFinite && r.y.isFinite && r.z.isFinite

/-- The returns came from the same place. -/
structure SamePlace (a b : Return) : Prop where
  x : a.x.Coincides b.x
  y : a.y.Coincides b.y
  z : a.z.Coincides b.z

theorem samePlace_self (r : Return) : r.SamePlace r := ⟨.inl rfl, .inl rfl, .inl rfl⟩

end Return

namespace Criterion

variable {first last : Return}

/-- The squared length of a closed walk is zero at a point, and no number elsewhere. -/
theorem cancelled_squaredSpan (same : first.SamePlace last) :
    Cancelled first.isPlaced (squaredSpan first last) :=
  ((cancelled_sub same.x).mul_self.add (cancelled_sub same.y).mul_self).add
    (cancelled_sub same.z).mul_self

/-- The length of a closed walk reaches that of an object only at a point, and only if the square
of the object's length is rounded to zero. -/
theorem isLong_iff_of_samePlace (c : Criterion) (finite : c.length.isFinite = true)
    (zero_le : 0 ≤ c.length) (same : first.SamePlace last) :
    c.isLong first last = true ↔ first.isPlaced = true ∧ c.length.value ≤ 1 / 2 ^ 75 :=
  (mul_self_le_iff finite (cancelled_squaredSpan same)).trans
    (and_congr_right fun _ => isZero_mul_self_iff_value_le finite zero_le)

/-- The verdict on a walk that ends where it began, and has too few returns for an object. -/
def standstill (c : Criterion) (start : Return) : Verdict :=
  if start.isPlaced = true ∧ c.length.value ≤ 1 / 2 ^ 75 then .cluster else .noise

theorem standstill_eq_cluster_iff (c : Criterion) (start : Return) :
    c.standstill start = .cluster ↔ start.isPlaced = true ∧ c.length.value ≤ 1 / 2 ^ 75 := by
  unfold standstill
  split
  · rename_i fooled
    exact iff_of_true rfl fooled
  · rename_i sound
    exact iff_of_false nofun sound

theorem judge_of_samePlace (c : Criterion) (finite : c.length.isFinite = true)
    (zero_le : 0 ≤ c.length) (same : first.SamePlace last) {size : Nat} (few : size < c.points) :
    c.judge size first last = c.standstill first := by
  have long := c.isLong_iff_of_samePlace finite zero_le same
  unfold judge standstill
  simp only [Bool.or_eq_true, decide_eq_true_eq, Nat.not_le_of_lt few, false_or, long]

end Criterion

/-! ## Walks -/

/-- The walk of a ring is one of the scan that begins with a return and ends at its place. -/
structure Walk.IsClosed (scan : Scan) (ring : Array Nat) (walk : Walk) (start : Return) : Prop where
  first_le_last : walk.first ≤ walk.last
  starts : ring[walk.first]?.bind scan.return? = some start
  returns : ∃ stop, ring[walk.last]?.bind scan.return? = some stop ∧ start.SamePlace stop

/-- A walk of one return is closed. -/
theorem Walk.isClosed_point {scan : Scan} {ring : Array Nat} {position : Nat} {start : Return}
    (found : ring[position]?.bind scan.return? = some start) :
    (Walk.mk position position).IsClosed scan ring start :=
  ⟨Nat.le_refl position, found, start, found, start.samePlace_self⟩

theorem Criterion.judge?_of_isClosed (c : Criterion) (finite : c.length.isFinite = true)
    (zero_le : 0 ≤ c.length) {scan : Scan} {ring : Array Nat} {walk : Walk} {start : Return}
    (closed : walk.IsClosed scan ring start) (few : walk.size < c.points)
    (sized : c.points ≤ sizeBound) :
    c.judge? scan.returns ring walk = some (c.standstill start) := by
  obtain ⟨le, starts, stop, stops, same⟩ := closed
  have counted : walk.size? = some walk.size := if_pos ⟨le, few.trans_le sized⟩
  obtain ⟨first, at_first, read_first⟩ := Option.bind_eq_some_iff.mp starts
  obtain ⟨last, at_last, read_last⟩ := Option.bind_eq_some_iff.mp stops
  rw [← scan.getElem?_returns] at read_first read_last
  unfold judge?
  simp only [counted, at_first, read_first, at_last, read_last, Option.bind_eq_bind,
    Option.bind_some, if_neg (Nat.not_le_of_lt few)]
  exact congrArg some (c.judge_of_samePlace finite zero_le same few)

/-! ## Runs -/

section Runs

variable {α : Type} (get : α → Return)

theorem Criterion.verdict_of_samePlace (c : Criterion) (finite : c.length.isFinite = true)
    (zero_le : 0 ≤ c.length) {run : List α} {first last : α} (head : first ∈ run.head?)
    (tail : last ∈ run.getLast?) (same : (get first).SamePlace (get last))
    (few : run.length < c.points) : c.verdict get run = c.standstill (get first) := by
  have head : run.head? = some first := head
  have tail : run.getLast? = some last := tail
  unfold verdict
  rw [head, tail]
  exact c.judge_of_samePlace finite zero_le same few

/-- A record is in one run only. -/
theorem eq_of_mem_of_nodup_flatten {runs : List (List α)} (nodup : runs.flatten.Nodup)
    {run other : List α} (mem : run ∈ runs) (mem' : other ∈ runs) {record : α}
    (held : record ∈ run) (held' : record ∈ other) : run = other := by
  by_contra differ
  have apart := (List.nodup_flatten.mp nodup).2
  have : Std.Symm (List.Disjoint (α := α)) := ⟨fun _ _ disjoint => disjoint.symm⟩
  exact apart.forall mem mem' differ held held'

/-- So it is selected exactly with the run that it is in. -/
theorem Parameters.mem_selected_iff (p : Parameters) {records : List α} (nodup : records.Nodup)
    {run : List α} (mem : run ∈ p.segments get records) {record : α} (held : record ∈ run)
    (verdict : Verdict) :
    record ∈ p.selected get records verdict ↔ p.criterion.verdict get run = verdict := by
  have once : (p.segments get records).flatten.Nodup := by
    rw [p.flatten_segments]
    exact p.evaluated_nodup get records nodup
  unfold selected Criterion.judged
  simp only [List.mem_flatten, List.mem_filter, beq_iff_eq]
  constructor
  · rintro ⟨other, ⟨mem', verdict'⟩, held'⟩
    rw [eq_of_mem_of_nodup_flatten once mem mem' held held']
    exact verdict'
  · intro judged
    exact ⟨run, ⟨mem, judged⟩, held⟩

end Runs

/-! ## Closed walks under valid parameters -/

/-- Under valid parameters, a closed walk of fewer returns than an object has is noise, unless it
is at a point and an object may be as short as `2 ^ -75` metres.  This holds

* of any such walk in a ring of records of a scan,
* of any walk of one return, if an object has two returns or more,
* and of what a filtered scan yields: the cloud of points holds the records of a closed run of too
  few, and isolated records, in no other case. -/
theorem Parameters.judges_closed_walks (p : Parameters) (valid : p.validate = .ok ()) :
    (∀ (scan : Scan) (ring : Array Nat) (walk : Walk) (start : Return),
      walk.IsClosed scan ring start → walk.size < p.numPointsThreshold.toNat →
        p.criterion.judge? scan.returns ring walk = some
          (if start.isPlaced = true ∧ p.objectLengthThreshold.value ≤ 1 / 2 ^ 75 then .cluster
            else .noise)) ∧
    (∀ (scan : Scan) (ring : Array Nat) (position : Nat) (start : Return),
      ring[position]?.bind scan.return? = some start → 2 ≤ p.numPointsThreshold.toNat →
        p.criterion.judge? scan.returns ring ⟨position, position⟩ = some
          (if start.isPlaced = true ∧ p.objectLengthThreshold.value ≤ 1 / 2 ^ 75 then .cluster
            else .noise)) ∧
    ∀ (version : Nat) (cloud : Cloud) (transform : Option Transform) (outcome : Outcome),
      ((Snapshot.ofParameters version p).filter cloud transform).1 = .ok outcome →
        ∃ scan, Scan.ofCloud cloud = .ok scan ∧
          let get := returnAt scan.returns
          let records := recordsOf scan.returns
          ∃ runs accepted, (∀ cut, p.IsSegmentation get records cut ↔ cut = runs) ∧
            outcome.points = .ofSpots (cloud.header.moved transform) (.ofFlag cloud.bigEndian)
              (pointsOf transform get accepted) cloud.dense ∧
            accepted.Sublist runs.flatten ∧
            (∀ run ∈ runs, ∀ first ∈ run.head?, ∀ last ∈ run.getLast?,
              (get first).SamePlace (get last) → run.length < p.numPointsThreshold.toNat →
                ∀ record ∈ run, record ∈ accepted ↔
                  (get first).isPlaced = true ∧ p.objectLengthThreshold.value ≤ 1 / 2 ^ 75) ∧
            ∀ record, [record] ∈ runs → 2 ≤ p.numPointsThreshold.toNat →
              (record ∈ accepted ↔
                (get record).isPlaced = true ∧ p.objectLengthThreshold.value ≤ 1 / 2 ^ 75) := by
  obtain ⟨finite, zero_le⟩ := length_of_valid valid
  have sized : p.numPointsThreshold.toNat ≤ sizeBound := p.numPointsThreshold.toNat_lt.le
  refine ⟨?_, ?_, ?_⟩
  · intro scan ring walk start closed few
    exact p.criterion.judge?_of_isClosed finite zero_le closed few sized
  · intro scan ring position start found many
    have one : (Walk.mk position position).size = 1 := Nat.add_sub_cancel_left position 1
    exact p.criterion.judge?_of_isClosed finite zero_le (Walk.isClosed_point found)
      (by rw [one]; exact many) sized
  · intro version cloud transform outcome filtered
    obtain ⟨scan, visibility, opened, -, rfl⟩ :=
      (Snapshot.ofParameters version p).eq_ofSelection_of_filter cloud transform filtered
    refine ⟨scan, opened, ?_⟩
    intro get records
    have nodup : records.Nodup := List.nodup_finRange _
    have settled : ∀ run ∈ p.segments get records, ∀ first ∈ run.head?, ∀ last ∈ run.getLast?,
        (get first).SamePlace (get last) → run.length < p.numPointsThreshold.toNat →
          ∀ record ∈ run, record ∈ p.selected get records .cluster ↔
            (get first).isPlaced = true ∧ p.objectLengthThreshold.value ≤ 1 / 2 ^ 75 := by
      intro run mem first head last tail same few record held
      rw [p.mem_selected_iff get nodup mem held,
        p.criterion.verdict_of_samePlace get finite zero_le head tail same few]
      exact p.criterion.standstill_eq_cluster_iff (get first)
    refine ⟨p.segments get records, p.selected get records .cluster, p.isSegmentation_iff get records,
      rfl, ?_, settled, ?_⟩
    · rw [p.flatten_segments]
      exact p.selected_sublist get records .cluster
    · intro record mem many
      exact settled [record] mem record rfl record rfl (get record).samePlace_self many record
        List.mem_cons_self

/-- The last record of the small scan is alone in its run, and is not among the points. -/
theorem sampleCloud_without_isolated :
    sampleSnapshot.parameters.validate = .ok () ∧
      sampleScan.return? 6 = some ⟨6, 0, 0, 4, 1, 9000, 1⟩ ∧
      sampleSnapshot.parameters.criterion.judge? sampleScan.returns #[0, 2, 4, 6] ⟨3, 3⟩ =
        some .noise ∧
      ∃ outcome, (sampleSnapshot.filter sampleCloud none).1 = .ok outcome ∧
        ∃ accepted : List (Fin sampleScan.returns.size),
          outcome.points = .ofSpots sampleCloud.header .little
            (pointsOf none (returnAt sampleScan.returns) accepted) true ∧
          ∀ record ∈ accepted, record.val ≠ 6 := by
  have valid : sampleSnapshot.parameters.validate = .ok () := by decide +kernel
  obtain ⟨finite, zero_le⟩ := Parameters.length_of_valid valid
  have long : ¬ sampleSnapshot.parameters.objectLengthThreshold.value ≤ 1 / 2 ^ 75 := by
    rw [← isZero_mul_self_iff_value_le finite zero_le]
    decide +kernel
  have last : sampleScan.return? 6 = some ⟨6, 0, 0, 4, 1, 9000, 1⟩ := by decide +kernel
  obtain ⟨-, points, filters⟩ := Parameters.judges_closed_walks sampleSnapshot.parameters valid
  have judged := points sampleScan #[0, 2, 4, 6] 3 _ last (by decide)
  rw [if_neg fun fooled => long fooled.2] at judged
  obtain ⟨outcome, filtered⟩ := sampleSnapshot.exists_outcome ofCloud_sampleCloud none (by decide)
    (fun _ => by decide)
  refine ⟨valid, last, judged, outcome, filtered, ?_⟩
  obtain ⟨scan, opened, runs, accepted, cut, written, -, -, isolated⟩ :=
    filters 0 sampleCloud none outcome filtered
  obtain rfl : sampleScan = scan := Except.ok.inj (ofCloud_sampleCloud.symm.trans opened)
  obtain rfl := (cut _).mp ((Parameters.isSegmentation_iff _ _ _ _).mpr rfl)
  refine ⟨accepted, written, fun record mem same => ?_⟩
  have alone : [record] ∈ sampleSnapshot.parameters.segments (returnAt sampleScan.returns)
      (recordsOf sampleScan.returns) := by
    obtain rfl : record = ⟨6, by decide⟩ := Fin.ext same
    decide +kernel
  exact long ((isolated record alone (by decide)).mp mem).2

/-! ## An object length that is too short to be squared -/

/-- Valid settings under which an object is longer than zero. -/
def faintParameters : Parameters :=
  { Parameters.standard with objectLengthThreshold := Number.ofDecimal false ⟨1, -30⟩ }

/-- And yet the isolated record of the small scan is taken for an object and written as a point. -/
theorem faintParameters_accept_isolated :
    faintParameters.validate = .ok () ∧ 0 < faintParameters.objectLengthThreshold ∧
      2 ≤ faintParameters.numPointsThreshold.toNat ∧
      faintParameters.criterion.judge? sampleScan.returns #[0, 2, 4, 6] ⟨3, 3⟩ = some .cluster ∧
      (∃ record, [record] ∈ faintParameters.segments (returnAt sampleScan.returns)
          (recordsOf sampleScan.returns) ∧
        returnAt sampleScan.returns record = ⟨6, 0, 0, 4, 1, 9000, 1⟩) ∧
      ∃ outcome spots,
        ((Snapshot.ofParameters 0 faintParameters).filter sampleCloud none).1 = .ok outcome ∧
        outcome.points.spots = .ok spots ∧ ⟨6, 0, 0, 4⟩ ∈ spots := by
  refine ⟨by decide +kernel, by decide +kernel, by decide, by decide +kernel,
    ⟨⟨6, by decide⟩, by decide +kernel, by decide +kernel⟩, ?_⟩
  have filtered := (Snapshot.ofParameters 0 faintParameters).filterReturns_eq sampleCloud none
    sampleScan.returns (by rw [Scan.size_returns]; decide)
  have quiet : ¬ (Snapshot.ofParameters 0 faintParameters).parameters.publishNoisePoints = true :=
    by decide
  rw [if_neg quiet] at filtered
  refine ⟨_, _, (congrArg Prod.fst (Snapshot.filter_of_opened _ ofCloud_sampleCloud none)).trans
    filtered, Cloud.spots_ofSpots _ _ _ _ ?_, ?_⟩
  · decide +kernel
  · decide +kernel

end LidarSieve
