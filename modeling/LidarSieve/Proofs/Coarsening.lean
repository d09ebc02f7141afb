import LidarSieve.Proofs.Neighbours
/-!
# A greater ratio joins walks

Two returns that continue each other under a ratio do so under every greater one
(`continues_of_le`): the lesser of two similar ranges is positive, and a rounded product with a
positive factor does not shrink when the other factor grows.  So a greater ratio takes away ends of
walks and makes no new ones.  Every walk under the greater ratio is put together from whole walks
under the lesser one that follow each other, and there are no more of them
(`Scan.walks_refine_of_le`).
-/
set_option autoImplicit false

namespace LidarSieve

open LidarSieve.Binary

/-! ## Refinements -/

namespace Walk

/-- The coarse walks are put together from whole fine walks: the fine ones, left in their order,
fall into groups of one or more, one group for each coarse walk, and to go through the walks of a
group is to go through the positions of its coarse walk. -/
def Refines (fine coarse : List Walk) : Prop :=
  ∃ groups : List (List Walk), groups.flatten = fine ∧
    List.Forall₂ (fun group walk => group ≠ [] ∧ group.flatMap positions = walk.positions)
      groups coarse

theorem Refines.length_le {fine coarse : List Walk} (refines : Refines fine coarse) :
    coarse.length ≤ fine.length := by
  obtain ⟨groups, rfl, paired⟩ := refines
  induction paired with
  | nil => exact Nat.le_refl _
  | @cons group walk groups coarse first _ ih =>
    have some_walk : 0 < group.length := List.length_pos_of_ne_nil first.1
    rw [List.flatten_cons, List.length_append, List.length_cons]
    omega

theorem consecutive_append (start : Nat) (front back : List Nat) :
    consecutive start (front ++ back) =
      consecutive start front ++ consecutive (start + front.sum) back := by
  induction front generalizing start with
  | nil => rfl
  | cons size rest ih =>
    rw [List.cons_append, consecutive, consecutive, ih, List.sum_cons, Nat.add_assoc,
      List.cons_append]

theorem positions_of_pos (start : Nat) {size : Nat} (pos : 0 < size) :
    positions ⟨start, start + size - 1⟩ = List.range' start size := by
  have count : start + size - 1 + 1 - start = size := by omega
  rw [positions, Walk.size, count]

/-- Walks that follow each other go through all positions from the first of them on. -/
theorem flatMap_positions_consecutive (start : Nat) {sizes : List Nat}
    (pos : ∀ size ∈ sizes, 0 < size) :
    (consecutive start sizes).flatMap positions = List.range' start sizes.sum := by
  induction sizes generalizing start with
  | nil => rfl
  | cons size rest ih =>
    have behind := ih (start + size) fun other mem => pos other (List.mem_cons_of_mem _ mem)
    rw [consecutive, List.flatMap_cons, behind, positions_of_pos start (pos size List.mem_cons_self),
      List.range'_append_1, List.sum_cons]

variable {α : Type}

/-- The walks of runs are refined by the walks of the parts into which the runs are cut. -/
theorem refines_flatMap_splitBy (fine : α → α → Bool) (start : Nat) {runs : List (List α)}
    (filled : ∀ run ∈ runs, run ≠ []) :
    Refines (consecutive start ((runs.flatMap fun run => run.splitBy fine).map List.length))
      (consecutive start (runs.map List.length)) := by
  induction runs generalizing start with
  | nil => exact ⟨[], rfl, .nil⟩
  | cons run rest ih =>
    have some_run : 0 < run.length := List.length_pos_of_ne_nil (filled run List.mem_cons_self)
    obtain ⟨groups, flat, paired⟩ := ih (start + run.length) fun other mem =>
      filled other (List.mem_cons_of_mem _ mem)
    have parts : ∀ size ∈ (run.splitBy fine).map List.length, 0 < size := by
      intro size mem
      obtain ⟨part, held, rfl⟩ := List.mem_map.mp mem
      exact List.length_pos_of_ne_nil (List.ne_nil_of_mem_splitBy held)
    have total : ((run.splitBy fine).map List.length).sum = run.length := by
      rw [← List.length_flatten, List.flatten_splitBy]
    refine ⟨consecutive start ((run.splitBy fine).map List.length) :: groups, ?_, ?_⟩
    · rw [List.flatten_cons, flat, List.flatMap_cons, List.map_append, consecutive_append, total]
    · rw [List.map_cons, consecutive]
      have whole := flatMap_positions_consecutive start parts
      rw [total, ← positions_of_pos start some_run] at whole
      refine .cons ⟨?_, whole⟩ paired
      -- A group without walks would go through no position.
      intro noParts
      rw [noParts, positions_of_pos start some_run, List.flatMap_nil] at whole
      have counted := congrArg List.length whole
      rw [List.length_range', List.length_nil] at counted
      omega

end Walk

/-! ## Greater ratios -/

section Ratios

variable {ratio wider : Single} (one_le : 1 ≤ ratio) (le : ratio ≤ wider)
  (finite : wider.isFinite = true)

include one_le le finite

/-- Ranges that are similar under a ratio of at least one are so under every greater one. -/
theorem similar_of_le {a b : Single} (similar : a.maximum b < a.minimum b * ratio) :
    a.maximum b < a.minimum b * wider := by
  have zero_le : 0 ≤ ratio := Number.le_trans (by decide) one_le
  have ratio_finite := Number.isFinite_of_between zero_le le finite
  have ordered : (a.minimum b).key ≤ (a.maximum b).key := by
    rcases (ranges_of_similar ratio_finite one_le similar).1 with number | number
    · have between := Number.key_bounds_left (y := b) number
      exact between.1.trans between.2
    · have between := Number.key_bounds_right (x := a) number
      exact between.1.trans between.2
  obtain ⟨positive, bounded⟩ := key_bounds_of_lt_mul ratio_finite one_le similar ordered
  have number : (a.minimum b).isNaN = false :=
    Number.isNaN_of_isNaN_mul (Number.lt_iff.mp similar).2.1
  have low_finite : (a.minimum b).isFinite = true := by
    have magnitude := Number.key_eq_magnitude positive.le
    refine decide_eq_true ?_
    omega
  have low_zero_le : 0 ≤ a.minimum b := by
    rw [Number.le_iff, Number.key_zero]
    exact ⟨Number.isNaN_zero, number, positive.le⟩
  apply Number.lt_of_lt_of_le similar
  exact Number.mul_le_mul low_zero_le (Number.le_self number) low_finite zero_le le finite

theorem continues_of_le {current next : Return} (joined : continues ratio current next = true) :
    continues wider current next = true := by
  rw [Return.continues_iff] at joined ⊢
  exact ⟨similar_of_le one_le le finite joined.1, joined.2⟩

theorem walks_refine (ring : List Return) : Walk.Refines (walks ratio ring) (walks wider ring) := by
  unfold walks runs
  split
  · exact ⟨[], rfl, .nil⟩
  · have maximal := maximalRuns_splitBy (continues wider) ring
    have cut := maximal.splitBy_eq_flatMap fun current next (joined : continues ratio current next) =>
      continues_of_le one_le le finite joined
    rw [cut]
    exact Walk.refines_flatMap_splitBy (continues ratio) 0 maximal.ne_nil

end Ratios

/-- The records of a ring that lists records of the scan are found, and every walk of the ring under
a ratio is put together from whole walks under any lesser ratio of at least one, one behind the
other.  So there are no more walks when the ratio is raised. -/
theorem Scan.walks_refine_of_le (scan : Scan) {ratio wider : Single} (one_le : 1 ≤ ratio)
    (le : ratio ≤ wider) (finite : wider.isFinite = true) (ring : List Nat)
    (valid : ∀ index ∈ ring, index < scan.length) :
    ∃ members, ringReturns? scan.returns ring = some members ∧
      Walk.Refines (walks ratio members) (walks wider members) ∧
      (walks wider members).length ≤ (walks ratio members).length := by
  obtain ⟨members, found⟩ := scan.exists_ringReturns? ring valid
  have refines := walks_refine one_le le finite members
  exact ⟨members, found, refines, refines.length_le⟩

theorem Scan.walks_refine_of_sampleRing :
    (1 : Single) ≤ 1 ∧ (1 : Single) ≤ Parameters.standard.distanceRatio ∧
      Parameters.standard.distanceRatio.isFinite = true ∧
      (∀ index ∈ [0, 2, 4, 6], index < sampleScan.length) ∧
      ∃ members, ringReturns? sampleScan.returns [0, 2, 4, 6] = some members ∧
        walks 1 members = [⟨0, 0⟩, ⟨1, 1⟩, ⟨2, 2⟩, ⟨3, 3⟩] ∧
        walks Parameters.standard.distanceRatio members = [⟨0, 2⟩, ⟨3, 3⟩] ∧
        Walk.Refines [⟨0, 0⟩, ⟨1, 1⟩, ⟨2, 2⟩, ⟨3, 3⟩] [⟨0, 2⟩, ⟨3, 3⟩] := by
  have one_le : (1 : Single) ≤ 1 := by decide +kernel
  have le : (1 : Single) ≤ Parameters.standard.distanceRatio := by decide +kernel
  have finite : Parameters.standard.distanceRatio.isFinite = true := by decide +kernel
  have valid : ∀ index ∈ [0, 2, 4, 6], index < sampleScan.length := by decide
  obtain ⟨members, found, refines, -⟩ :=
    sampleScan.walks_refine_of_le one_le le finite [0, 2, 4, 6] valid
  have cuts : (ringReturns? sampleScan.returns [0, 2, 4, 6]).map
      (fun members => (walks 1 members, walks Parameters.standard.distanceRatio members)) =
        some ([⟨0, 0⟩, ⟨1, 1⟩, ⟨2, 2⟩, ⟨3, 3⟩], [⟨0, 2⟩, ⟨3, 3⟩]) := by
    decide +kernel
  rw [found, Option.map_some, Option.some_inj, Prod.mk.injEq] at cuts
  obtain ⟨fine, coarse⟩ := cuts
  rw [fine, coarse] at refines
  exact ⟨one_le, le, finite, valid, members, found, fine, coarse, refines⟩

end LidarSieve
