import LidarSieve.Proofs.Neighbours
import LidarSieve.Proofs.Packing
/-!
# Turning a scan

Directions are given in hundredths of a degree from a place where the sensor starts to count, and a
step across this place is corrected by a turn.  For whole directions of one turn this is exact: words
of 24 bits are added without rounding (`Number.IsWhole.add`), and so the gap between two directions is
their difference modulo a turn (`azimuthGap_isWhole`).  Moving the place where counting starts changes
no difference, and therefore no walk (`Scan.walks_turned`).
-/
set_option autoImplicit false

namespace LidarSieve

open LidarSieve.Binary

/-! ## Whole words -/

namespace Binary.Number

/-- The word stands for a whole number. -/
structure IsWhole (x : Single) (n : Int) : Prop where
  finite : x.isFinite = true
  quanta_eq : x.quanta = n * single.unit

/-- Whole numbers of 24 bits have a word. -/
theorem isWhole_rounded (negative : Bool) {n : Nat} (small : n < 2 ^ 24) :
    IsWhole (rounded negative (n * single.unit) 1) (if negative then -n else n) := by
  obtain ⟨magnitude, bounded, value⟩ :
      ∃ magnitude, magnitude ≤ single.scale * single.fractions + n ∧
        single.quanta magnitude = n * single.unit :=
    Format.exists_quanta_eq single.scale small
  have room : single.scale * single.fractions + 2 ^ 24 ≤ single.infinity := by decide
  have finite : magnitude < single.infinity := by omega
  have exact_value : single.round (n * single.unit) 1 = magnitude := by
    rw [← value]
    exact Format.round_quanta finite.le
  constructor
  · apply decide_eq_true
    simp only [rounded, exact_value]
    exact finite
  · unfold quanta
    simp only [rounded, exact_value, value]
    cases negative <;> simp

theorem isWhole_ofNat {n : Nat} (small : n < 2 ^ 24) : IsWhole (ofNat n) n :=
  isWhole_rounded false small

theorem isWhole_ofQuanta (zeroSign : Bool) {n : Int} (small : n.natAbs < 2 ^ 24) :
    IsWhole (ofQuanta zeroSign (n * single.unit)) n := by
  have positive : (0 : Int) < single.unit := Int.natCast_pos.mpr single.unit_pos
  unfold ofQuanta
  by_cases zero : n = 0
  · subst zero
    rw [Int.zero_mul, if_pos rfl]
    constructor
    · cases zeroSign <;> rfl
    · cases zeroSign <;> rfl
  · have below : n * single.unit < 0 * single.unit ↔ n < 0 := Int.mul_lt_mul_right positive
    rw [Int.zero_mul] at below
    have sign : decide (n * single.unit < 0) = decide (n < 0) := decide_eq_decide.mpr below
    have word := isWhole_rounded (decide (n < 0)) small
    have value : (if decide (n < 0) = true then -(n.natAbs : Int) else n.natAbs) = n := by
      split_ifs with negative <;> simp only [decide_eq_true_eq] at negative <;> omega
    rw [value] at word
    rw [if_neg (Int.mul_ne_zero zero positive.ne'), sign, Int.natAbs_mul, Int.natAbs_natCast]
    exact word

namespace IsWhole

variable {x y : Single} {m n : Int} (left : x.IsWhole m) (right : y.IsWhole n)

include left

theorem neg : (-x).IsWhole (-m) := by
  constructor
  · exact isFinite_neg.trans left.finite
  · rw [quanta_neg, left.quanta_eq, Int.neg_mul]

include right

/-- Whole numbers are added without rounding, if their sum has 24 bits. -/
theorem add (small : (m + n).natAbs < 2 ^ 24) : (x + y).IsWhole (m + n) := by
  rw [add_of_isFinite left.finite right.finite, left.quanta_eq, right.quanta_eq, ← Int.add_mul]
  exact isWhole_ofQuanta _ small

theorem sub (small : (m - n).natAbs < 2 ^ 24) : (x - y).IsWhole (m - n) := by
  rw [sub_eq_add_neg, Int.sub_eq_add_neg]
  apply left.add right.neg
  rw [← Int.sub_eq_add_neg]
  exact small

/-- Words of whole numbers are ordered as the numbers. -/
theorem lt_iff : x < y ↔ m < n := by
  have positive : (0 : Int) < single.unit := Int.natCast_pos.mpr single.unit_pos
  rw [lt_iff_quanta_lt left.finite right.finite, left.quanta_eq, right.quanta_eq]
  exact Int.mul_lt_mul_right positive

end IsWhole

end Binary.Number

/-! ## Directions -/

/-- A full turn in whole hundredths of a degree. -/
def turn : Int := 36000

/-- The word is a direction of one turn and a whole number of hundredths of a degree. -/
structure IsDirection (x : Single) (a : Int) : Prop where
  whole : x.IsWhole a
  zero_le : 0 ≤ a
  lt_turn : a < turn

theorem isDirection_ofNat {n : Nat} (below : n < 36000) : IsDirection (Number.ofNat n) n :=
  ⟨Number.isWhole_ofNat (by omega), Int.natCast_nonneg n, Int.ofNat_lt.mpr below⟩

/-- The gap between two directions is their difference modulo a turn. -/
theorem azimuthGap_isWhole {current next : Single} {a b : Int} (from_a : IsDirection current a)
    (to_b : IsDirection next b) : (azimuthGap current next).IsWhole ((b - a) % turn) := by
  obtain ⟨current_whole, zero_le_a, a_lt⟩ := from_a
  obtain ⟨next_whole, zero_le_b, b_lt⟩ := to_b
  have zero_whole : (0 : Single).IsWhole 0 := Number.isWhole_ofNat (by decide)
  have turn_whole : fullTurn.IsWhole turn := Number.isWhole_ofNat (by decide)
  unfold turn at *
  have step : (next - current).IsWhole (b - a) := next_whole.sub current_whole (by omega)
  have back_iff : next - current < 0 ↔ b - a < 0 := step.lt_iff zero_whole
  unfold azimuthGap
  dsimp only
  split
  · rename_i back
    have negative : b - a < 0 := back_iff.mp back
    have across : (b - a) % 36000 = b - a + 36000 := by omega
    rw [across]
    exact step.add turn_whole (by omega)
  · rename_i forward
    have nonneg : ¬ b - a < 0 := fun negative => forward (back_iff.mpr negative)
    have inside : (b - a) % 36000 = b - a := by omega
    rw [inside]
    exact step

/-! ## Turned returns -/

/-- The second return has the range of the first one and lies `k` hundredths of a degree further
round. -/
structure Return.TurnedBy (k : Int) (r turned : Return) : Prop where
  distance_eq : turned.distance = r.distance
  direction : ∃ a, IsDirection r.azimuth a ∧ IsDirection turned.azimuth ((a + k) % turn)

/-- Returns that are turned by the same amount continue each other as before. -/
theorem Return.TurnedBy.continues_eq {k : Int} {current current' next next' : Return}
    (turned : current.TurnedBy k current') (turned' : next.TurnedBy k next') (ratio : Single) :
    continues ratio current' next' = continues ratio current next := by
  obtain ⟨distance, a, before, after⟩ := turned
  obtain ⟨distance', b, before', after'⟩ := turned'
  have limit : azimuthLimit.IsWhole 100 := Number.isWhole_ofNat (by decide)
  have gap := azimuthGap_isWhole before before'
  have gap' := azimuthGap_isWhole after after'
  rw [← Int.sub_emod, Int.add_sub_add_right] at gap'
  rw [Bool.eq_iff_iff, continues_iff, continues_iff, distance, distance', gap.lt_iff limit,
    gap'.lt_iff limit]

/-! ## Turned rings -/

section Rings

variable {α β : Type} {related : α → β → Prop}

theorem rel_getElem? {left : List α} {right : List β} (paired : List.Forall₂ related left right)
    (i : Nat) : Option.Rel related left[i]? right[i]? := by
  induction paired generalizing i with
  | nil => exact .none
  | cons first _ ih =>
    cases i with
    | zero => exact .some first
    | succ i =>
      rw [List.getElem?_cons_succ, List.getElem?_cons_succ]
      exact ih i

/-- Records that correspond one by one are looked up alike. -/
theorem rel_mapM {left : Nat → Option α} {right : Nat → Option β}
    (paired : ∀ index, Option.Rel related (left index) (right index)) (ring : List Nat) :
    Option.Rel (List.Forall₂ related) (ring.mapM left) (ring.mapM right) := by
  induction ring with
  | nil => exact .some .nil
  | cons index rest ih =>
    rw [List.mapM_cons, List.mapM_cons]
    have first := paired index
    generalize left index = a at first ⊢
    generalize right index = b at first ⊢
    cases first with
    | none => exact .none
    | some first =>
      generalize rest.mapM left = before at ih ⊢
      generalize rest.mapM right = after at ih ⊢
      cases ih with
      | none => exact .none
      | some others => exact .some (.cons first others)

end Rings

/-- A ring of returns that are turned by the same amount has the walks it had. -/
theorem walks_of_turnedBy {k : Int} {ring turned : List Return}
    (paired : List.Forall₂ (Return.TurnedBy k) ring turned) (ratio : Single) :
    walks ratio turned = walks ratio ring := by
  apply walks_congr paired.length_eq.symm
  intro i j
  have at_i := rel_getElem? paired i
  have at_j := rel_getElem? paired j
  unfold RelatedAt
  generalize ring[i]? = a, turned[i]? = a' at at_i ⊢
  generalize ring[j]? = b, turned[j]? = b' at at_j ⊢
  cases at_i with
  | none => simp
  | some first =>
    cases at_j with
    | none => simp
    | some second => simp [first.continues_eq second ratio]

/-! ## Turned scans -/

/-- The second scan has as many records as the first one, and each is turned by `k`. -/
def Scan.TurnedBy (k : Int) (scan turned : Scan) : Prop :=
  ∀ index, Option.Rel (Return.TurnedBy k) (scan.return? index) (turned.return? index)

/-- Scans that are packed from records, each turned by `k`, are turned by `k`. -/
theorem Scan.turnedBy_packed {k : Int} {records turned : List SensorRecord}
    (paired : List.Forall₂ (fun r turned => r.toReturn.TurnedBy k turned.toReturn) records turned)
    (bigEndian bigEndian' : Bool) :
    (Scan.packed bigEndian records).TurnedBy k (Scan.packed bigEndian' turned) := by
  intro index
  rcases Nat.lt_or_ge index records.length with inside | beyond
  · have inside' : index < turned.length := paired.length_eq ▸ inside
    rw [return?_packed bigEndian inside, return?_packed bigEndian' inside']
    exact .some (paired.get inside inside')
  · have beyond' : turned.length ≤ index := paired.length_eq ▸ beyond
    have absent : (packed bigEndian records).return? index = none :=
      if_neg (Nat.not_lt_of_le beyond)
    have absent' : (packed bigEndian' turned).return? index = none :=
      if_neg (Nat.not_lt_of_le beyond')
    rw [absent, absent']
    exact .none

/-- The records of a ring are found in both scans or in neither. -/
theorem Scan.TurnedBy.rel_ringReturns {k : Int} {scan turned : Scan} (paired : scan.TurnedBy k turned)
    (ring : List Nat) : Option.Rel (List.Forall₂ (Return.TurnedBy k))
      (ringReturns? scan.returns ring) (ringReturns? turned.returns ring) := by
  unfold ringReturns?
  split
  · exact .some .nil
  · apply rel_mapM
    intro index
    rw [scan.getElem?_returns, turned.getElem?_returns]
    exact paired index

/-- Between directions of one turn that are whole hundredths of a degree, the gap is the difference
modulo a turn, and not only nearly so.  A scan whose directions are such ones, turned by any whole
number of hundredths, has in every ring the walks that it had, under any ratio; a ring that lists
records of the scan has them, and a ring that lists others has no records in either. -/
theorem Scan.walks_turned :
    (∀ (current next : Single) (a b : Int), IsDirection current a → IsDirection next b →
      (azimuthGap current next).IsWhole ((b - a) % turn)) ∧
    ∀ (k : Int) (scan turned : Scan), scan.TurnedBy k turned →
      ∀ (ratio : Single) (ring : List Nat),
        (ringReturns? turned.returns ring).map (walks ratio) =
          (ringReturns? scan.returns ring).map (walks ratio) ∧
        ((∀ index ∈ ring, index < scan.length) →
          ∃ members, ringReturns? scan.returns ring = some members) := by
  refine ⟨fun current next a b => azimuthGap_isWhole, ?_⟩
  intro k scan turned paired ratio ring
  refine ⟨?_, scan.exists_ringReturns? ring⟩
  have found := paired.rel_ringReturns ring
  generalize ringReturns? scan.returns ring = members at found ⊢
  generalize ringReturns? turned.returns ring = members' at found ⊢
  cases found with
  | none => rfl
  | some members => exact congrArg some (walks_of_turnedBy members ratio)

/-- Returns of one ring in the given directions, all at the same range. -/
def recordsAt (directions : List Single) : List SensorRecord :=
  directions.map fun azimuth =>
    { x := 5, y := 0, z := 0, intensity := 0, ring := 0, azimuth := azimuth, distance := 5 }

/-- Three neighbours stay together when the place where counting starts is moved out from among
them, and the fourth return stays apart when that place is moved in front of it. -/
theorem Scan.walks_turned_across :
    IsDirection 35950 35950 ∧ IsDirection 30 30 ∧
      (azimuthGap 35950 30).IsWhole ((30 - 35950) % turn) ∧
      (packed false (recordsAt [35950, -0, 30, 5000])).TurnedBy (-5000)
        (packed true (recordsAt [30950, 31000, 31030, 0])) ∧
      (ringReturns? (packed true (recordsAt [30950, 31000, 31030, 0])).returns [0, 1, 2, 3]).map
        (walks Parameters.standard.distanceRatio) = some [⟨0, 2⟩, ⟨3, 3⟩] := by
  obtain ⟨gaps, turns⟩ := Scan.walks_turned
  have first : IsDirection 35950 35950 := isDirection_ofNat (n := 35950) (by decide)
  have zero : IsDirection (-0) 0 :=
    ⟨(Number.isWhole_ofNat (n := 0) (by decide)).neg, by decide, by decide⟩
  have second : IsDirection 30 30 := isDirection_ofNat (n := 30) (by decide)
  have paired : (packed false (recordsAt [35950, -0, 30, 5000])).TurnedBy (-5000)
      (packed true (recordsAt [30950, 31000, 31030, 0])) := by
    apply turnedBy_packed
    refine .cons ?_ (.cons ?_ (.cons ?_ (.cons ?_ .nil)))
    · exact ⟨rfl, 35950, first, isDirection_ofNat (n := 30950) (by decide)⟩
    · exact ⟨rfl, 0, zero, isDirection_ofNat (n := 31000) (by decide)⟩
    · exact ⟨rfl, 30, second, isDirection_ofNat (n := 31030) (by decide)⟩
    · exact ⟨rfl, 5000, isDirection_ofNat (n := 5000) (by decide),
        isDirection_ofNat (n := 0) (by decide)⟩
  refine ⟨first, second, gaps _ _ _ _ first second, paired, ?_⟩
  rw [(turns _ _ _ paired _ _).1]
  decide +kernel

end LidarSieve
