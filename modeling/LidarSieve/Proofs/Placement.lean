import LidarSieve.Proofs.Selection
/-!
# What the rings hold

Placing the records of a scan one after the other leaves in each ring the first records of
that ring, as many as it has room for, and counts the others: those without a ring and those
that found theirs full.  One placed record keeps this (`Holds.place`), so a whole scan does
(`Rings.build_holds`).
-/
set_option autoImplicit false

namespace LidarSieve

variable {α : Type}

/-- The placement of records, each under its index: the buckets hold the first records of
their rings, and every other record is counted once. -/
structure Placement.Holds (get : α → Return) (index : α → Nat) (count capacity : Nat)
    (records : List α) (p : Placement) : Prop where
  size_eq : p.rings.buckets.size = count
  bucket_eq : ∀ ring < count, p.rings.buckets[ring]? =
    some (((ofRing get records ring).take capacity).map index).toArray
  skipped_eq : p.unplaced.skipped = records.countP fun record => count ≤ (get record).ring
  dropped_eq : p.unplaced.dropped = overflow get count capacity records

namespace Placement

variable {get : α → Return} {index : α → Nat} {count capacity : Nat} {records : List α}
  {p : Placement}

/-! ## One record -/

/-- Placing a record without a ring. -/
theorem Holds.place_beyond (holds : p.Holds get index count capacity records) (record : α)
    (beyond : count ≤ (get record).ring) :
    p.place capacity (index record) (get record).ring =
      { p with
        unplaced := { p.unplaced with skipped := p.unplaced.skipped + 1 }
        firstSkipped := p.firstSkipped.or (some (get record).ring) } := by
  have missing : p.rings.buckets[(get record).ring]? = none := by
    rw [Array.getElem?_eq_none_iff, holds.size_eq]
    exact beyond
  rw [place, missing]

/-- Placing a record whose ring is full. -/
theorem Holds.place_full (holds : p.Holds get index count capacity records) (record : α)
    (inside : (get record).ring < count)
    (full : capacity ≤ (ofRing get records (get record).ring).length) :
    p.place capacity (index record) (get record).ring =
      { p with
        unplaced := { p.unplaced with dropped := p.unplaced.dropped + 1 }
        firstDropped := p.firstDropped.or (some (get record).ring) } := by
  have full_bucket : capacity ≤
      (((ofRing get records (get record).ring).take capacity).map index).toArray.size := by
    simp [full]
  rw [place, holds.bucket_eq _ inside]
  simp only [if_pos full_bucket]

/-- Placing a record whose ring has room. -/
theorem Holds.place_room (holds : p.Holds get index count capacity records) (record : α)
    (inside : (get record).ring < count)
    (room : (ofRing get records (get record).ring).length < capacity) :
    p.place capacity (index record) (get record).ring =
      { p with rings := ⟨p.rings.buckets.modify (get record).ring (·.push (index record))⟩ } := by
  have room_bucket : ¬ capacity ≤
      (((ofRing get records (get record).ring).take capacity).map index).toArray.size := by
    simp [room]
  rw [place, holds.bucket_eq _ inside]
  simp only [if_neg room_bucket]

/-- A record without a ring is skipped. -/
theorem Holds.place_skipped (holds : p.Holds get index count capacity records) (record : α)
    (beyond : count ≤ (get record).ring) :
    (p.place capacity (index record) (get record).ring).Holds get index count capacity
      (records ++ [record]) := by
  rw [holds.place_beyond record beyond]
  refine ⟨holds.size_eq, ?_, ?_, ?_⟩
  · intro ring below
    have other : (get record).ring ≠ ring := by omega
    rw [ofRing_concat, if_neg other, List.append_nil]
    exact holds.bucket_eq ring below
  · simp [holds.skipped_eq, beyond]
  · simp [holds.dropped_eq, overflow_concat, Nat.not_lt_of_le beyond]

/-- A record that finds its ring full is dropped. -/
theorem Holds.place_dropped (holds : p.Holds get index count capacity records) (record : α)
    (inside : (get record).ring < count)
    (full : capacity ≤ (ofRing get records (get record).ring).length) :
    (p.place capacity (index record) (get record).ring).Holds get index count capacity
      (records ++ [record]) := by
  rw [holds.place_full record inside full]
  refine ⟨holds.size_eq, ?_, ?_, ?_⟩
  · intro ring below
    rw [ofRing_concat]
    split
    · rename_i same
      subst same
      rw [List.take_append_of_le_length full]
      exact holds.bucket_eq _ inside
    · rw [List.append_nil]
      exact holds.bucket_eq ring below
  · simp [holds.skipped_eq, inside]
  · simp [holds.dropped_eq, overflow_concat, inside, full]

/-- Any other record goes to the end of its ring. -/
theorem Holds.place_kept (holds : p.Holds get index count capacity records) (record : α)
    (inside : (get record).ring < count)
    (room : (ofRing get records (get record).ring).length < capacity) :
    (p.place capacity (index record) (get record).ring).Holds get index count capacity
      (records ++ [record]) := by
  rw [holds.place_room record inside room]
  refine ⟨by simp [holds.size_eq], ?_, ?_, ?_⟩
  · intro ring below
    rw [ofRing_concat, Array.getElem?_modify, holds.bucket_eq ring below]
    split
    · rename_i same
      subst same
      rw [List.take_of_length_le (Nat.le_of_lt room), List.take_of_length_le (by simp; omega)]
      simp
    · rw [List.append_nil]
  · simp [holds.skipped_eq, inside]
  · simp [holds.dropped_eq, overflow_concat, room]

theorem Holds.place (holds : p.Holds get index count capacity records) (record : α) :
    (p.place capacity (index record) (get record).ring).Holds get index count capacity
      (records ++ [record]) := by
  rcases Nat.lt_or_ge (get record).ring count with inside | beyond
  · rcases Nat.lt_or_ge (ofRing get records (get record).ring).length capacity with room | full
    · exact holds.place_kept record inside room
    · exact holds.place_dropped record inside full
  · exact holds.place_skipped record beyond

/-! ## All records -/

theorem start_holds (get : α → Return) (index : α → Nat) (count capacity : Nat) :
    (start count).Holds get index count capacity [] where
  size_eq := by simp [start, Rings.empty]
  bucket_eq ring below := by simp [start, Rings.empty, ofRing, below]
  skipped_eq := by simp [start]
  dropped_eq := by simp [start, overflow, ofRing]

theorem Holds.foldl (holds : p.Holds get index count capacity records) (more : List α) :
    (more.foldl (fun p record => p.place capacity (index record) (get record).ring) p).Holds
      get index count capacity (records ++ more) := by
  induction more generalizing records p with
  | nil => simpa using holds
  | cons record rest ih =>
    rw [List.foldl_cons, List.append_cons]
    exact ih (holds.place record)

theorem placeFrom_eq_foldl (capacity start : Nat) (returns : List Return) (p : Placement) :
    placeFrom capacity start returns p =
      (returns.zipIdx start).foldl (fun p x => p.place capacity x.2 x.1.ring) p := by
  induction returns generalizing start p with
  | nil => rfl
  | cons r rest ih => rw [placeFrom, List.zipIdx_cons, List.foldl_cons, ih]

end Placement

/-- The indices of the records of a scan, in order. -/
abbrev recordsOf (returns : Array Return) : List (Fin returns.size) :=
  List.finRange returns.size

/-- The return of a record. -/
abbrev returnAt (returns : Array Return) (record : Fin returns.size) : Return := returns[record]

theorem map_returnAt (returns : Array Return) :
    (recordsOf returns).map (returnAt returns) = returns.toList := by
  apply List.ext_getElem <;> simp

/-- A scan is placed record by record, each under its index. -/
theorem Rings.build_eq_foldl (count capacity : Nat) (returns : Array Return) :
    build count capacity returns = (recordsOf returns).foldl
      (fun p record => p.place capacity record.val (returnAt returns record).ring)
      (.start count) := by
  have zipped : returns.toList.zipIdx 0 =
      (recordsOf returns).map fun record => (returnAt returns record, record.val) := by
    apply List.ext_getElem <;> simp
  rw [build, Placement.placeFrom_eq_foldl, zipped, List.foldl_map]

/-- The rings of a scan hold its records. -/
theorem Rings.build_holds (count capacity : Nat) (returns : Array Return) :
    (Rings.build count capacity returns).Holds (returnAt returns) Fin.val count capacity
      (recordsOf returns) := by
  rw [build_eq_foldl]
  exact (Placement.start_holds (returnAt returns) Fin.val count capacity).foldl (recordsOf returns)

/-- The buckets, one for each ring in ascending order. -/
theorem Placement.Holds.toList_buckets {get : α → Return} {index : α → Nat} {count capacity : Nat}
    {records : List α} {p : Placement} (holds : p.Holds get index count capacity records) :
    p.rings.buckets.toList = (List.range count).map fun ring =>
      (((ofRing get records ring).take capacity).map index).toArray := by
  apply List.ext_getElem?
  intro ring
  rw [Array.getElem?_toList]
  rcases Nat.lt_or_ge ring count with below | beyond
  · rw [holds.bucket_eq ring below, List.getElem?_map, List.getElem?_range below]
    rfl
  · rw [Array.getElem?_eq_none (by rw [holds.size_eq]; exact beyond),
      List.getElem?_eq_none (by simpa using beyond)]

/-- The buckets of a scan list the records that its rings keep. -/
theorem Rings.buckets_build (p : Parameters) (returns : Array Return) :
    (Rings.build p.maxRings.toNat p.maxPointsPerRing.toNat returns).rings.buckets.toList =
      (List.range p.maxRings.toNat).map fun ring =>
        ((p.kept (returnAt returns) (recordsOf returns) ring).map Fin.val).toArray :=
  (Rings.build_holds p.maxRings.toNat p.maxPointsPerRing.toNat returns).toList_buckets

end LidarSieve
