import LidarSieve.Parameters.Rules
import LidarSieve.Proofs.Order
/-!
# Valid parameters

What the rules say of the reals among the parameters, as facts about words.  The bounds of the box,
the greatest range and `maxAzimuthDiff` have no rule that keeps them from being a not-a-number
(`Key.unguarded`); all other reals of valid parameters are numbers.
-/
set_option autoImplicit false

namespace LidarSieve

open LidarSieve.Binary LidarSieve.Binary.Number

/-- The parameters that may be a not-a-number. -/
def Key.unguarded : List Key := [xMin, xMax, yMin, yMax, zMin, zMax, maxDistance, maxAzimuthDiff]

namespace Parameters

variable {p : Parameters}

theorem ratio_of_valid (valid : p.validate = .ok ()) :
    p.distanceRatio.isFinite = true ∧ 1 ≤ p.distanceRatio := by
  rw [validate_eq_ok_iff] at valid
  have rule := valid _ List.mem_cons_self
  rw [Bool.and_eq_true] at rule
  exact rule

theorem length_of_valid (valid : p.validate = .ok ()) :
    p.objectLengthThreshold.isFinite = true ∧ 0 ≤ p.objectLengthThreshold := by
  rw [validate_eq_ok_iff] at valid
  have rule := valid _ (List.mem_cons_of_mem _ List.mem_cons_self)
  rw [Bool.and_eq_true] at rule
  exact rule

/-- Bounds of a box are not out of order. -/
theorem not_lt_of_valid (valid : p.validate = .ok ()) (axis : String)
    {low high : Parameters → Single} (rule : boundsRule axis low high ∈ rules) :
    ¬ high p < low p := by
  rw [validate_eq_ok_iff] at valid
  intro exceeds
  have kept := valid _ rule
  rw [boundsRule, Bool.not_eq_true'] at kept
  exact Bool.false_ne_true (kept.symm.trans exceeds)

/-- The bounds of a sector are directions of one turn and in order. -/
theorem degrees_of_valid (valid : p.validate = .ok ()) :
    0 ≤ p.minAzimuthDeg ∧ p.minAzimuthDeg < p.maxAzimuthDeg ∧ p.maxAzimuthDeg ≤ 360 := by
  rw [validate_eq_ok_iff] at valid
  have rule : (isDegree p.minAzimuthDeg && isDegree p.maxAzimuthDeg &&
      !p.maxAzimuthDeg.le p.minAzimuthDeg) = true := valid _ (List.getLast_mem (by decide))
  simp only [isDegree, Bool.and_eq_true, Bool.not_eq_true'] at rule
  obtain ⟨⟨⟨low, -⟩, -, high⟩, order⟩ := rule
  refine ⟨low, ?_, high⟩
  by_contra not_less
  have le := le_of_not_lt (le_iff.mp low).2.1 (le_iff.mp high).1 not_less
  exact Bool.false_ne_true (order.symm.trans le)

end Parameters

end LidarSieve
