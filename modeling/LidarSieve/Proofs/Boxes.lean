import LidarSieve.Proofs.Order
import LidarSieve.Region
import LidarSieve.Proofs.Validity
/-!
# The inside of a box

A box is put together from two opposite corners by the lesser and the greater of each pair of
coordinates.  Its inside is told without them: along every axis the point lies strictly between the
two coordinates, whichever of them is the greater (`Box.inside_spanning_iff`).  A coordinate that is
no number gives way to the other one, so that the lesser and the greater are the same word and
nothing lies between them.

The bounds of valid parameters are in order as far as they are numbers, and so the region of such
parameters is what its bounds say (`Region.accepts_box_iff`).
-/
set_option autoImplicit false

namespace LidarSieve

open LidarSieve.Binary

/-! ## Between two words -/

namespace Binary.Number

variable {f : Format} {x y z : Number f}

/-- The word lies strictly between two others, which may be given in either order. -/
def Between (x y z : Number f) : Prop := (x < z ∧ z < y) ∨ (y < z ∧ z < x)

theorem between_comm : Between x y z ↔ Between y x z := Or.comm

theorem not_between_of_isNaN (nan : x.isNaN = true ∨ y.isNaN = true) : ¬ Between x y z := by
  simp only [Between, lt_iff]
  rcases nan with nan | nan <;> simp [nan]

/-- Between two words that are not out of order lies what is above the first and below the second. -/
theorem between_iff_of_not_lt (ordered : ¬ y < x) : Between x y z ↔ x < z ∧ z < y := by
  constructor
  · rintro (between | ⟨above, below⟩)
    · exact between
    · exact absurd (lt_trans above below) ordered
  · exact Or.inl

/-- Between the lesser and the greater of two words lies what lies between the two. -/
theorem between_iff : x.minimum y < z ∧ z < x.maximum y ↔ Between x y z := by
  by_cases nan : x.isNaN = true ∨ y.isNaN = true
  · refine iff_of_false ?_ (not_between_of_isNaN nan)
    rw [minimum_eq_maximum nan]
    rintro ⟨above, below⟩
    exact not_lt_of_le (le_self (lt_iff.mp above).1) (lt_trans above below)
  · simp only [not_or, Bool.not_eq_true] at nan
    obtain ⟨left, right⟩ := nan
    obtain ⟨low_number, low⟩ := minimum_of_numbers left right
    obtain ⟨high_number, high⟩ := maximum_of_numbers left right
    unfold Between
    simp only [lt_iff, left, right, low_number, low, high_number, high, true_and]
    by_cases number : z.isNaN = false
    · simp only [number, true_and]
      omega
    · simp [number]

end Binary.Number

/-! ## Boxes -/

/-- One of the coordinates is no number. -/
def Triple.isNaN (t : Triple Single) : Bool := t.x.isNaN || t.y.isNaN || t.z.isNaN

/-- The pairs of coordinates are the same along every axis: the corners `c` and `d` are opposite
corners of the box that has the opposite corners `a` and `b`. -/
structure Box.SameCorners (a b c d : Triple Single) : Prop where
  x : (c.x = a.x ∧ d.x = b.x) ∨ (c.x = b.x ∧ d.x = a.x)
  y : (c.y = a.y ∧ d.y = b.y) ∨ (c.y = b.y ∧ d.y = a.y)
  z : (c.z = a.z ∧ d.z = b.z) ∨ (c.z = b.z ∧ d.z = a.z)

namespace Box

variable {a b c d p : Triple Single}

/-- The inside of a box lies between its corners along every axis. -/
theorem inside_spanning_iff (a b p : Triple Single) : (spanning a b).inside p = true ↔
    Number.Between a.x b.x p.x ∧ Number.Between a.y b.y p.y ∧ Number.Between a.z b.z p.z := by
  rw [← Number.between_iff, ← Number.between_iff, ← Number.between_iff]
  unfold inside spanning
  simp only [Bool.and_eq_true, and_assoc]
  exact Iff.rfl

theorem SameCorners.inside_eq (same : SameCorners a b c d) (p : Triple Single) :
    (spanning c d).inside p = (spanning a b).inside p := by
  have axis {u v u' v' w : Single} (pair : (u' = u ∧ v' = v) ∨ (u' = v ∧ v' = u)) :
      Number.Between u' v' w ↔ Number.Between u v w := by
    rcases pair with ⟨rfl, rfl⟩ | ⟨rfl, rfl⟩
    · exact Iff.rfl
    · exact Number.between_comm
  rw [Bool.eq_iff_iff, inside_spanning_iff, inside_spanning_iff, axis same.x, axis same.y,
    axis same.z]

/-- Nothing is inside a box with a corner of which a coordinate is no number. -/
theorem inside_of_isNaN (nan : a.isNaN = true ∨ b.isNaN = true) (p : Triple Single) :
    (spanning a b).inside p = false := by
  rw [Bool.eq_false_iff, ne_eq, inside_spanning_iff]
  rintro ⟨x, y, z⟩
  simp only [Triple.isNaN, Bool.or_eq_true] at nan
  rcases nan with ((nan | nan) | nan) | ((nan | nan) | nan)
  · exact Number.not_between_of_isNaN (.inl nan) x
  · exact Number.not_between_of_isNaN (.inl nan) y
  · exact Number.not_between_of_isNaN (.inl nan) z
  · exact Number.not_between_of_isNaN (.inr nan) x
  · exact Number.not_between_of_isNaN (.inr nan) y
  · exact Number.not_between_of_isNaN (.inr nan) z

end Box

/-! ## The box of parameters -/

/-- Four facts about the inside of boxes, for words of all kinds.  A point is inside the box of two
corners exactly if it lies strictly between their coordinates along every axis, in one order or the
other.  Any two opposite corners of a box give the same inside.  A corner with a coordinate that is
no number leaves the box empty.  And the box region of valid parameters accepts a return exactly if
its position is strictly within the bounds. -/
theorem Region.accepts_box_iff :
    (∀ a b p : Triple Single, (Box.spanning a b).inside p = true ↔
      Number.Between a.x b.x p.x ∧ Number.Between a.y b.y p.y ∧ Number.Between a.z b.z p.z) ∧
    (∀ a b c d : Triple Single, Box.SameCorners a b c d →
      ∀ p, (Box.spanning c d).inside p = (Box.spanning a b).inside p) ∧
    (∀ a b : Triple Single, a.isNaN = true ∨ b.isNaN = true →
      ∀ p, (Box.spanning a b).inside p = false) ∧
    ∀ p : Parameters, p.validate = .ok () → p.regionMode = .box →
      ∀ r : Return, (ofParameters p).accepts r = true ↔
        (p.xMin < r.x ∧ r.x < p.xMax) ∧ (p.yMin < r.y ∧ r.y < p.yMax) ∧
          (p.zMin < r.z ∧ r.z < p.zMax) := by
  refine ⟨Box.inside_spanning_iff, fun a b c d => Box.SameCorners.inside_eq,
    fun a b => Box.inside_of_isNaN, ?_⟩
  intro p valid mode r
  have along_x : ¬ p.xMax < p.xMin :=
    Parameters.not_lt_of_valid valid "x" (by simp [Parameters.rules])
  have along_y : ¬ p.yMax < p.yMin :=
    Parameters.not_lt_of_valid valid "y" (by simp [Parameters.rules])
  have along_z : ¬ p.zMax < p.zMin :=
    Parameters.not_lt_of_valid valid "z" (by simp [Parameters.rules])
  rw [ofParameters, mode, accepts, Box.inside_spanning_iff, Number.between_iff_of_not_lt along_x,
    Number.between_iff_of_not_lt along_y, Number.between_iff_of_not_lt along_z]

/-- Settings with a box for a region, one side of which ends in the negative zero. -/
def boxParameters : Parameters := { Parameters.standard with regionMode := .box, zMin := -0 }

/-- Settings that are just as valid, with a bound that is no number. -/
def openBoxParameters : Parameters := { boxParameters with yMax := Number.nan }

theorem Region.accepts_boxParameters :
    Box.SameCorners ⟨1, 2, -1⟩ ⟨-1, -2, 1⟩ ⟨-1, 2, 1⟩ ⟨1, -2, -1⟩ ∧
      (Box.spanning ⟨-1, 2, 1⟩ ⟨1, -2, -1⟩).inside ⟨0, -1, 0⟩ = true ∧
      (⟨1, Number.nan, -1⟩ : Triple Single).isNaN = true ∧
      (Box.spanning ⟨1, Number.nan, -1⟩ ⟨-1, -2, 1⟩).inside ⟨0, -1, 0⟩ = false ∧
      boxParameters.validate = .ok () ∧ openBoxParameters.validate = .ok () ∧
      boxParameters.regionMode = .box ∧ openBoxParameters.regionMode = .box ∧
      ∀ r : Return, r.x = 5 → r.y = 1 → r.z = 1 →
        (ofParameters boxParameters).accepts r = true ∧
          (ofParameters openBoxParameters).accepts r = false := by
  obtain ⟨between, corners, empty, accepts⟩ := Region.accepts_box_iff
  have same : Box.SameCorners ⟨1, 2, -1⟩ ⟨-1, -2, 1⟩ ⟨-1, 2, 1⟩ ⟨1, -2, -1⟩ :=
    ⟨.inr ⟨rfl, rfl⟩, .inl ⟨rfl, rfl⟩, .inr ⟨rfl, rfl⟩⟩
  have nan : (⟨1, Number.nan, -1⟩ : Triple Single).isNaN = true := by decide +kernel
  have valid : boxParameters.validate = .ok () := by decide +kernel
  have valid' : openBoxParameters.validate = .ok () := by decide +kernel
  refine ⟨same, ?_, nan, empty _ _ (.inl nan) _, valid, valid', rfl, rfl, ?_⟩
  · rw [corners _ _ _ _ same, between]
    exact ⟨.inr (by decide +kernel), .inr (by decide +kernel), .inl (by decide +kernel)⟩
  · intro r x y z
    constructor
    · rw [accepts boxParameters valid rfl r, x, y, z]
      decide +kernel
    · rw [Bool.eq_false_iff, ne_eq, accepts openBoxParameters valid' rfl r, x, y, z]
      decide +kernel

end LidarSieve
