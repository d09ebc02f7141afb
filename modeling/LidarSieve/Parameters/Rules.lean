import LidarSieve.Parameters.Basic
/-!
# Rules for parameters

Parameters are valid when they keep every rule.  The rules stand in one list; of the rules
that are broken, the first one is the complaint.
-/
set_option autoImplicit false

namespace LidarSieve

open LidarSieve.Binary

/-- Something that valid parameters have to be, and the words for those that are not. -/
structure Rule where
  holds : Parameters → Bool
  complaint : Parameters → String

namespace Parameters

/-- The greatest capacity of a ring. -/
def maxRingCapacity : Nat := 1048576

/-- The lower bound does not exceed the upper bound; bounds that are no numbers do not
exceed anything. -/
def boundsRule (axis : String) (low high : Parameters → Single) : Rule where
  holds p := !(high p).lt (low p)
  complaint p :=
    axis ++ "_min (" ++ (low p).plain ++ ") exceeds " ++ axis ++ "_max (" ++ (high p).plain ++ ")"

/-- A direction in degrees. -/
def isDegree (x : Single) : Bool := (0 : Single).le x && x.le 360

/-- The rules, in the order in which they are checked. -/
def rules : List Rule :=
  [{ holds := fun p => p.distanceRatio.isFinite && (1 : Single).le p.distanceRatio
     complaint := fun p =>
       "distance_ratio must be a finite value >= 1.0, got " ++ p.distanceRatio.plain },
   { holds := fun p =>
       p.objectLengthThreshold.isFinite && (0 : Single).le p.objectLengthThreshold
     complaint := fun p =>
       "object_length_threshold must be finite and >= 0, got " ++
         p.objectLengthThreshold.plain },
   { holds := fun p => p.maxRings != 0
     complaint := fun _ => "max_rings must be > 0" },
   { holds := fun p =>
       decide (1 ≤ p.maxPointsPerRing.toNat ∧ p.maxPointsPerRing.toNat ≤ maxRingCapacity)
     complaint := fun p =>
       "max_points_per_ring must be in 1..=" ++ toString maxRingCapacity ++ ", got " ++
         toString p.maxPointsPerRing },
   { holds := fun p => p.verticalBins != 0
     complaint := fun _ => "vertical_bins must be > 0" },
   boundsRule "x" xMin xMax,
   boundsRule "y" yMin yMax,
   boundsRule "z" zMin zMax,
   { holds := fun p =>
       isDegree p.minAzimuthDeg && isDegree p.maxAzimuthDeg &&
         !p.maxAzimuthDeg.le p.minAzimuthDeg
     complaint := fun p =>
       "azimuth sector [" ++ p.minAzimuthDeg.plain ++ ", " ++ p.maxAzimuthDeg.plain ++
         "] must satisfy 0 <= min < max <= 360" }]

/-- Every rule is kept. -/
def Valid (p : Parameters) : Prop := ∀ rule ∈ rules, rule.holds p = true

/-- Checks the rules; the first broken one is the fault. -/
def validate (p : Parameters) : Except Fault Unit :=
  match rules.find? (fun rule => !rule.holds p) with
  | none => .ok ()
  | some rule => .error (.invalidParameter (rule.complaint p))

theorem validate_eq_ok_iff (p : Parameters) : p.validate = .ok () ↔ p.Valid := by
  unfold validate Valid
  cases h : rules.find? (fun rule => !rule.holds p) with
  | none => simpa [List.find?_eq_none] using h
  | some rule =>
    have broken := List.find?_some h
    have mem := List.mem_of_find?_eq_some h
    constructor
    · intro impossible
      simp at impossible
    · intro valid
      have := valid rule mem
      simp [this] at broken

end Parameters

end LidarSieve
