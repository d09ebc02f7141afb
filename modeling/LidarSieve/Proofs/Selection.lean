import Mathlib.Algebra.BigOperators.Group.Finset.Piecewise
import LidarSieve.Filter
import LidarSieve.Proofs.Runs
/-!
# What is selected from a scan

The rule by which records are accepted or rejected, without the arrays, counters and sinks
that carry it out: the records of each ring as far as the ring has room, the rings of two or
more records one after the other, their longest runs, and the verdict on each run.

The rule only looks at the return behind a record.  It is stated for records of any type with
a function `get` to their returns, so that it can be read for returns themselves and for the
indices under which a scan holds them; `segments_map` says that both readings agree.
-/
set_option autoImplicit false

namespace LidarSieve

variable {α β : Type}

/-! ## Rings -/

/-- The records of a ring, in the order of the scan. -/
def ofRing (get : α → Return) (records : List α) (ring : Nat) : List α :=
  records.filter fun record => (get record).ring == ring

/-- How many records find their ring full. -/
def overflow (get : α → Return) (count capacity : Nat) (records : List α) : Nat :=
  ∑ ring ∈ Finset.range count, ((ofRing get records ring).length - capacity)

theorem ofRing_concat (get : α → Return) (records : List α) (record : α) (ring : Nat) :
    ofRing get (records ++ [record]) ring =
      ofRing get records ring ++ if (get record).ring = ring then [record] else [] := by
  unfold ofRing
  rw [List.filter_append, List.filter_singleton]
  by_cases same : (get record).ring = ring
  · simp [same]
  · rw [if_neg same, beq_false_of_ne same]
    rfl

theorem ofRing_map (get : β → Return) (f : α → β) (records : List α) (ring : Nat) :
    ofRing get (records.map f) ring = (ofRing (get ∘ f) records ring).map f :=
  List.filter_map

/-- One more record overflows if it has a ring and the ring is full. -/
theorem overflow_concat (get : α → Return) (count capacity : Nat) (records : List α)
    (record : α) :
    overflow get count capacity (records ++ [record]) =
      overflow get count capacity records +
        if (get record).ring < count ∧ capacity ≤ (ofRing get records (get record).ring).length
        then 1 else 0 := by
  have step : ∀ ring, (ofRing get (records ++ [record]) ring).length - capacity =
      ((ofRing get records ring).length - capacity) +
        if ring = (get record).ring then
          if capacity ≤ (ofRing get records (get record).ring).length then 1 else 0
        else 0 := by
    intro ring
    rw [ofRing_concat, List.length_append]
    by_cases same : ring = (get record).ring
    · subst same
      simp only [if_true, List.length_singleton]
      split <;> omega
    · rw [if_neg same, if_neg (Ne.symm same)]
      simp
  unfold overflow
  rw [Finset.sum_congr rfl fun ring _ => step ring, Finset.sum_add_distrib, Finset.sum_ite_eq']
  congr 1
  simp only [Finset.mem_range]
  split <;> split <;> simp_all

/-! ## The selection -/

/-- What makes a run an object. -/
def Parameters.criterion (p : Parameters) : Criterion :=
  ⟨p.numPointsThreshold.toNat, p.objectLengthThreshold⟩

/-- The verdict on a run, from its length and its first and last record. -/
def Criterion.verdict (c : Criterion) (get : α → Return) (run : List α) : Verdict :=
  match run.head?, run.getLast? with
  | some first, some last => c.judge run.length (get first) (get last)
  | _, _ => .noise

/-- The runs with a verdict. -/
def Criterion.judged (c : Criterion) (get : α → Return) (runs : List (List α))
    (verdict : Verdict) : List (List α) :=
  runs.filter fun run => c.verdict get run == verdict

namespace Parameters

/-- The second record continues the run of the first. -/
def links (p : Parameters) (get : α → Return) (a b : α) : Bool :=
  continues p.distanceRatio (get a) (get b)

/-- The records of a ring that find room in it: the first ones. -/
def kept (p : Parameters) (get : α → Return) (records : List α) (ring : Nat) : List α :=
  (ofRing get records ring).take p.maxPointsPerRing.toNat

/-- The rings that keep two or more records, in ascending order. -/
def walkedRings (p : Parameters) (get : α → Return) (records : List α) : List (List α) :=
  ((List.range p.maxRings.toNat).map (p.kept get records)).filter fun ring => 2 ≤ ring.length

/-- The records that are judged, ring after ring. -/
def evaluated (p : Parameters) (get : α → Return) (records : List α) : List α :=
  (p.walkedRings get records).flatten

/-- The longest runs of each ring, ring after ring. -/
def segments (p : Parameters) (get : α → Return) (records : List α) : List (List α) :=
  (p.walkedRings get records).flatMap fun ring => ring.splitBy (p.links get)

/-- The runs come from cutting each of the walked rings into its longest runs. -/
def IsSegmentation (p : Parameters) (get : α → Return) (records : List α)
    (runs : List (List α)) : Prop :=
  ∃ cuts, List.Forall₂ (MaximalRuns (p.links get)) (p.walkedRings get records) cuts ∧
    runs = cuts.flatten

/-- The records of the runs with a verdict. -/
def selected (p : Parameters) (get : α → Return) (records : List α) (verdict : Verdict) :
    List α :=
  (p.criterion.judged get (p.segments get records) verdict).flatten

end Parameters

/-- There is one way to cut the rings into their longest runs, and `segments` finds it. -/
theorem Parameters.isSegmentation_iff (p : Parameters) (get : α → Return) (records : List α)
    (runs : List (List α)) :
    p.IsSegmentation get records runs ↔ runs = p.segments get records := by
  have unique : ∀ {rings : List (List α)} {cuts : List (List (List α))},
      List.Forall₂ (MaximalRuns (p.links get)) rings cuts →
        cuts = rings.map fun ring => ring.splitBy (p.links get) := by
    intro rings cuts cut
    induction cut with
    | nil => rfl
    | cons maximal _ ih => rw [List.map_cons, ← maximal.eq_splitBy, ← ih]
  unfold Parameters.IsSegmentation Parameters.segments
  rw [List.flatMap_def]
  constructor
  · rintro ⟨cuts, cut, rfl⟩
    rw [unique cut]
  · rintro rfl
    refine ⟨_, ?_, rfl⟩
    rw [List.forall₂_map_right_iff]
    exact List.forall₂_same.mpr fun ring _ => maximalRuns_splitBy _ ring

/-! ## Nothing is lost and nothing is doubled -/

namespace Criterion

/-- Every run has one of the two verdicts. -/
theorem judged_append_perm (c : Criterion) (get : α → Return) (runs : List (List α)) :
    (c.judged get runs .cluster ++ c.judged get runs .noise).Perm runs := by
  have opposite : ∀ run, (c.verdict get run == .noise) = !(c.verdict get run == .cluster) := by
    intro run
    cases c.verdict get run <;> rfl
  unfold judged
  simp only [opposite]
  exact List.filter_append_perm _ runs

theorem length_judged_add (c : Criterion) (get : α → Return) (runs : List (List α)) :
    (c.judged get runs .cluster).flatten.length + (c.judged get runs .noise).flatten.length =
      runs.flatten.length := by
  rw [← List.length_append, ← List.flatten_append]
  exact (c.judged_append_perm get runs).flatten.length_eq

end Criterion

namespace Parameters

variable (p : Parameters) (get : α → Return) (records : List α)

theorem flatten_segments : (p.segments get records).flatten = p.evaluated get records :=
  flatten_flatMap_splitBy _ _

/-- Each record that is judged is accepted or rejected. -/
theorem selected_append_perm :
    (p.selected get records .cluster ++ p.selected get records .noise).Perm
      (p.evaluated get records) := by
  have perm := (p.criterion.judged_append_perm get (p.segments get records)).flatten
  rw [List.flatten_append, flatten_segments] at perm
  exact perm

/-- Records keep their order when they are selected. -/
theorem selected_sublist (verdict : Verdict) :
    (p.selected get records verdict).Sublist (p.evaluated get records) := by
  rw [← flatten_segments]
  exact List.filter_sublist.flatten

theorem kept_sublist (ring : Nat) : (p.kept get records ring).Sublist records :=
  (List.take_sublist _ _).trans List.filter_sublist

theorem ring_of_mem_kept {ring : Nat} {record : α} (mem : record ∈ p.kept get records ring) :
    (get record).ring = ring := by
  have held := List.mem_of_mem_take mem
  simpa using (List.mem_filter.mp held).2

/-- Rings keep different records, since a record has one ring. -/
theorem evaluated_nodup (nodup : records.Nodup) : (p.evaluated get records).Nodup := by
  have all : ((List.range p.maxRings.toNat).map (p.kept get records)).flatten.Nodup := by
    rw [List.nodup_flatten]
    constructor
    · intro ring mem
      obtain ⟨number, -, rfl⟩ := List.mem_map.mp mem
      exact (p.kept_sublist get records number).nodup nodup
    · refine List.pairwise_map.mpr (List.nodup_range.imp ?_)
      intro a b different record in_a in_b
      exact different ((p.ring_of_mem_kept get records in_a).symm.trans
        (p.ring_of_mem_kept get records in_b))
  exact List.filter_sublist.flatten.nodup all

theorem mem_of_mem_evaluated {record : α} (mem : record ∈ p.evaluated get records) :
    record ∈ records := by
  obtain ⟨ring, held, mem⟩ := List.mem_flatten.mp mem
  obtain ⟨number, -, rfl⟩ := List.mem_map.mp (List.mem_of_mem_filter held)
  exact (p.kept_sublist get records number).subset mem

/-- No more records are judged than there are. -/
theorem length_evaluated_le (nodup : records.Nodup) :
    (p.evaluated get records).length ≤ records.length :=
  ((p.evaluated_nodup get records nodup).subperm fun _ => p.mem_of_mem_evaluated get records)
    |>.length_le

end Parameters

/-! ## The selection depends on the returns of each ring alone -/

namespace Parameters

variable (p : Parameters)

theorem kept_map (get : β → Return) (f : α → β) (records : List α) (ring : Nat) :
    p.kept get (records.map f) ring = (p.kept (get ∘ f) records ring).map f := by
  unfold kept
  rw [ofRing_map, List.map_take]

theorem walkedRings_map (get : β → Return) (f : α → β) (records : List α) :
    p.walkedRings get (records.map f) = (p.walkedRings (get ∘ f) records).map (List.map f) := by
  unfold walkedRings
  have rings : p.kept get (records.map f) = List.map f ∘ p.kept (get ∘ f) records :=
    funext fun ring => p.kept_map get f records ring
  rw [rings, ← List.map_map, List.filter_map]
  simp [Function.comp_def]

theorem evaluated_map (get : β → Return) (f : α → β) (records : List α) :
    p.evaluated get (records.map f) = (p.evaluated (get ∘ f) records).map f := by
  unfold evaluated
  rw [walkedRings_map, List.map_flatten]

/-- Renaming the records renames the runs. -/
theorem segments_map (get : β → Return) (f : α → β) (records : List α) :
    p.segments get (records.map f) = (p.segments (get ∘ f) records).map (List.map f) := by
  unfold segments
  rw [walkedRings_map, List.flatMap_map, List.map_flatMap]
  congr 1
  funext ring
  exact (map_splitBy (p.links get) f ring).symm

end Parameters

theorem Criterion.verdict_map (c : Criterion) (get : β → Return) (f : α → β) (run : List α) :
    c.verdict get (run.map f) = c.verdict (get ∘ f) run := by
  unfold Criterion.verdict
  rw [List.head?_map, List.getLast?_map, List.length_map]
  cases run.head? <;> cases run.getLast? <;> rfl

theorem Criterion.judged_map (c : Criterion) (get : β → Return) (f : α → β)
    (runs : List (List α)) (verdict : Verdict) :
    c.judged get (runs.map (List.map f)) verdict =
      (c.judged (get ∘ f) runs verdict).map (List.map f) := by
  unfold Criterion.judged
  rw [List.filter_map]
  congr 2
  funext run
  exact congrArg (· == verdict) (c.verdict_map get f run)

theorem Parameters.selected_map (p : Parameters) (get : β → Return) (f : α → β)
    (records : List α) (verdict : Verdict) :
    p.selected get (records.map f) verdict = (p.selected (get ∘ f) records verdict).map f := by
  unfold Parameters.selected
  rw [p.segments_map, p.criterion.judged_map, List.map_flatten]

/-- Only the ratio and the number and the room of rings matter to the runs. -/
theorem Parameters.segments_eq_of_same {p q : Parameters}
    (ratio : p.distanceRatio = q.distanceRatio) (rings : p.maxRings = q.maxRings)
    (capacity : p.maxPointsPerRing = q.maxPointsPerRing) (get : α → Return) (records : List α) :
    p.segments get records = q.segments get records := by
  unfold segments walkedRings kept links
  rw [ratio, rings, capacity]

/-- Records in another order are cut into the same runs, if each ring keeps its order. -/
theorem Parameters.segments_congr (p : Parameters) (get : α → Return) {left right : List α}
    (same : ∀ ring, ofRing get left ring = ofRing get right ring) :
    p.segments get left = p.segments get right := by
  have kept : p.kept get left = p.kept get right := by
    funext ring
    unfold Parameters.kept
    rw [same]
  unfold Parameters.segments Parameters.walkedRings
  rw [kept]

theorem overflow_congr (get : α → Return) (count capacity : Nat) {left right : List α}
    (same : ∀ ring, ofRing get left ring = ofRing get right ring) :
    overflow get count capacity left = overflow get count capacity right := by
  unfold overflow
  simp only [same]

end LidarSieve
