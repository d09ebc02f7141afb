import LidarSieve.Sink
/-!
# Reading written points back

Records of one length that are packed one after the other are found again at the multiples of
that length, and a word of four octets reads back as it was written.  So a cloud of points,
read by its own field list and in its own byte order (`Cloud.spots`), gives the points that
were put into it.
-/
set_option autoImplicit false

namespace LidarSieve

open LidarSieve.Binary

/-! ## Packed records -/

theorem Octets.slice_toArray (octets : List UInt8) (start width : Nat) :
    Octets.slice octets.toArray start width = (octets.drop start).take width := by
  simp [Octets.slice]

section Packed

variable {α : Type} {step : Nat} {pack : α → List UInt8}

/-- Packed records take the octets of one record each. -/
theorem length_flatMap_pack (length_pack : ∀ record, (pack record).length = step)
    (records : List α) : (records.flatMap pack).length = records.length * step := by
  induction records with
  | nil => simp
  | cons record rest ih =>
    rw [List.flatMap_cons, List.length_append, length_pack, ih, List.length_cons, Nat.succ_mul,
      Nat.add_comm]

/-- Leaving out packed records leaves out their octets. -/
theorem drop_flatMap (length_pack : ∀ record, (pack record).length = step) (records : List α)
    (index : Nat) :
    (records.flatMap pack).drop (index * step) = (records.drop index).flatMap pack := by
  induction index generalizing records with
  | zero => simp
  | succ index ih =>
    cases records with
    | nil => simp
    | cons record rest =>
      have split : (index + 1) * step = (pack record).length + index * step := by
        rw [length_pack, Nat.succ_mul, Nat.add_comm]
      rw [List.flatMap_cons, split, List.drop_length_add_append, ih]
      rfl

/-- A slice inside one of the packed records is a part of that record. -/
theorem Octets.slice_flatMap (length_pack : ∀ record, (pack record).length = step)
    (records : List α) (index : Nat) (inside : index < records.length) (offset width : Nat)
    (fits : offset + width ≤ step) :
    Octets.slice (records.flatMap pack).toArray (index * step + offset) width =
      ((pack records[index]).drop offset).take width := by
  have whole : records.drop index = records[index] :: records.drop (index + 1) :=
    List.drop_eq_getElem_cons inside
  have reach : offset ≤ (pack records[index]).length := by
    rw [length_pack]
    omega
  have long : width ≤ ((pack records[index]).drop offset).length := by
    rw [List.length_drop, length_pack]
    omega
  rw [Octets.slice_toArray, ← List.drop_drop, drop_flatMap length_pack, whole, List.flatMap_cons,
    List.drop_append_of_le_length reach, List.take_append_of_le_length long]

end Packed

/-! ## Words of four octets -/

theorem single_bits : 2 * single.bound = Nat.pow 256 4 := by decide

/-- A written word reads back, whatever it stands for. -/
theorem ofBits_decode_encode (order : ByteOrder) (x : Single) :
    Number.ofBits (order.decode (order.encode 4 x.toBits)) = x := by
  have bits := x.toBits_lt
  rw [ByteOrder.decode_encode, ← single_bits, Nat.mod_eq_of_lt bits, Number.ofBits_toBits]

/-! ## Clouds of points -/

/-- The positions and intensities of the records of a cloud, each field read where the field
list of the cloud has it and in the byte order of the cloud. -/
def Cloud.spots (cloud : Cloud) : Except Fault (List Spot) := do
  let x ← Layout.offsetOf cloud "x" .float32
  let y ← Layout.offsetOf cloud "y" .float32
  let z ← Layout.offsetOf cloud "z" .float32
  let intensity ← Layout.offsetOf cloud "intensity" .float32
  let word (index offset : Nat) : Single :=
    (ByteOrder.ofFlag cloud.bigEndian).real cloud.data (index * cloud.pointStep.toNat + offset)
  return (List.range cloud.pointCount).map fun index =>
    ⟨word index x, word index y, word index z, word index intensity⟩

/-- Points written into a cloud of one row. -/
def Cloud.ofSpots (header : Header) (order : ByteOrder) (spots : List Spot) (dense : Bool) :
    Cloud where
  header := header
  height := 1
  width := UInt32.ofNat spots.length
  fields := spotFields
  bigEndian := order.isBig
  pointStep := spotStep
  rowStep := UInt32.ofNat spots.length * spotStep
  data := (spots.flatMap (Spot.octets order)).toArray
  dense := dense

theorem Spot.length_octets (order : ByteOrder) (spot : Spot) : (spot.octets order).length = 16 := by
  simp [Spot.octets, ByteOrder.length_encode]

theorem Cloud.size_data_ofSpots (header : Header) (order : ByteOrder) (spots : List Spot)
    (dense : Bool) : (ofSpots header order spots dense).data.size = spots.length * 16 := by
  simp only [ofSpots]
  rw [List.size_toArray, length_flatMap_pack (Spot.length_octets order)]

/-- A sink whose octets can be counted in a word makes a cloud. -/
theorem Sink.toCloud?_eq (sink : Sink) (header : Header) (dense : Bool)
    (fits : sink.size * spotStep.toNat < UInt32.size) :
    sink.toCloud? header dense = some (.ofSpots header sink.order sink.spots.toList dense) := by
  have step : spotStep.toNat = 16 := rfl
  have width : (UInt32.ofNat sink.size).toNat = sink.size :=
    UInt32.toNat_ofNat_of_lt' (by rw [step] at fits; omega)
  rw [← width] at fits
  rw [Sink.toCloud?, Cloud.ofRow?]
  simp only [if_pos fits]
  rfl

/-- Whatever cloud a sink makes, it is the one of its points. -/
theorem Sink.eq_ofSpots_of_toCloud? {sink : Sink} {header : Header} {dense : Bool} {cloud : Cloud}
    (written : sink.toCloud? header dense = some cloud) :
    cloud = .ofSpots header sink.order sink.spots.toList dense := by
  simp only [Sink.toCloud?, Cloud.ofRow?] at written
  split at written
  · cases written
    rfl
  · cases written

theorem drop_word {word : List UInt8} (four : word.length = 4) (rest : List UInt8) (count : Nat) :
    (word ++ rest).drop (count + 4) = rest.drop count := by
  rw [Nat.add_comm, ← four, List.drop_length_add_append]

/-- The words of a written point. -/
theorem real_spots (order : ByteOrder) (spots : List Spot) {index : Nat}
    (inside : index < spots.length) :
    let data := (spots.flatMap (Spot.octets order)).toArray
    order.real data (index * 16 + 0) = spots[index].x ∧
      order.real data (index * 16 + 4) = spots[index].y ∧
      order.real data (index * 16 + 8) = spots[index].z ∧
      order.real data (index * 16 + 12) = spots[index].intensity := by
  have slice := Octets.slice_flatMap (Spot.length_octets order) spots index inside
  have four (x : Single) : (order.encode 4 x.toBits).length = 4 := order.length_encode 4 x.toBits
  refine ⟨?_, ?_, ?_, ?_⟩
  all_goals
    rw [ByteOrder.real, slice _ 4 (by decide)]
    simp [Spot.octets, four, drop_word, List.take_of_length_le, ofBits_decode_encode]

/-- A cloud of points holds the points that were put into it, as far as its width counts them:
a width is a word, and more points than a word can count are not read back. -/
theorem Cloud.spots_ofSpots_take (header : Header) (order : ByteOrder) (spots : List Spot)
    (dense : Bool) :
    (Cloud.ofSpots header order spots dense).spots =
      .ok (spots.take (spots.length % UInt32.size)) := by
  have count : (Cloud.ofSpots header order spots dense).pointCount =
      spots.length % UInt32.size := by
    simp only [pointCount, ofSpots, UInt32.toNat_ofNat']
    exact Nat.mul_one _
  have read : (Cloud.ofSpots header order spots dense).spots =
      .ok ((List.range (spots.length % UInt32.size)).map fun index =>
        let data := (spots.flatMap (Spot.octets order)).toArray
        ⟨order.real data (index * 16 + 0), order.real data (index * 16 + 4),
         order.real data (index * 16 + 8), order.real data (index * 16 + 12)⟩) := by
    unfold Cloud.spots
    rw [count]
    simp only [ofSpots, ByteOrder.ofFlag_isBig]
    rfl
  have le : spots.length % UInt32.size ≤ spots.length := Nat.mod_le _ _
  rw [read]
  congr 1
  apply List.ext_getElem
  · simp [le]
  · intro index below _
    have inside : index < spots.length := by
      rw [List.length_map, List.length_range] at below
      omega
    obtain ⟨x, y, z, intensity⟩ := real_spots order spots inside
    simp only [List.getElem_map, List.getElem_range, List.getElem_take, x, y, z, intensity]

/-- A cloud of fewer points holds all of them. -/
theorem Cloud.spots_ofSpots (header : Header) (order : ByteOrder) (spots : List Spot)
    (dense : Bool) (few : spots.length < UInt32.size) :
    (Cloud.ofSpots header order spots dense).spots = .ok spots := by
  rw [Cloud.spots_ofSpots_take, Nat.mod_eq_of_lt few, List.take_length]

end LidarSieve
