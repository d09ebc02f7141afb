import LidarSieve.Sensor
import LidarSieve.Proofs.Spots
/-!
# Reading a record

A scan that was accepted has a layout whose fields lie inside a record, and a buffer that
holds its records and nothing else.  So each field of each record is read in full, and the
return of a record depends on the octets of that record alone (`Scan.read_record`).
-/
set_option autoImplicit false

namespace LidarSieve

open LidarSieve.Binary

/-! ## The layout of an accepted scan -/

theorem bind_eq_ok_iff {ε α β : Type} {x : Except ε α} {f : α → Except ε β} {b : β} :
    (x >>= f) = .ok b ↔ ∃ a, x = .ok a ∧ f a = .ok b := by
  cases x with
  | error fault => simp [bind, Except.bind]
  | ok a => simp [bind, Except.bind]

namespace Layout

/-- A field has an offset exactly if it is declared, with the kind of scalar that is needed,
and fits in the record. -/
theorem offsetOf_eq_ok_iff {cloud : Cloud} {name : String} {expected : Scalar} {offset : Nat} :
    offsetOf cloud name expected = .ok offset ↔
      ∃ field, cloud.field? name = some field ∧ field.kind = expected ∧
        field.offset.toNat + expected.size ≤ cloud.pointStep.toNat ∧
        offset = field.offset.toNat := by
  unfold offsetOf
  cases found : cloud.field? name with
  | none => simp
  | some field =>
    by_cases kind : field.kind = expected
    · by_cases outside : cloud.pointStep.toNat < field.offset.toNat + expected.size
      · simp [kind, outside, Nat.not_le_of_lt outside]
      · simp [kind, outside, Nat.le_of_not_lt outside, eq_comm]
    · simp [kind]

/-- The stride and the order of octets of a layout are the cloud's. -/
theorem header_of_ofCloud {cloud : Cloud} {layout : Layout} (found : ofCloud cloud = .ok layout) :
    layout.step = cloud.pointStep.toNat ∧ layout.order = .ofFlag cloud.bigEndian := by
  unfold ofCloud at found
  split at found
  · cases found
  · simp only [bind_eq_ok_iff] at found
    obtain ⟨x, -, y, -, z, -, intensity, -, ring, -, azimuth, -, distance, -, built⟩ := found
    cases built
    exact ⟨rfl, rfl⟩

/-- Offset and width of each field that a return is read from. -/
def fields (layout : Layout) : List (Nat × Nat) :=
  [(layout.x, 4), (layout.y, 4), (layout.z, 4), (layout.intensity, 4), (layout.ring, 2),
   (layout.azimuth, 4), (layout.distance, 4)]

/-- Every needed field ends inside the record. -/
def Fits (layout : Layout) : Prop := ∀ field ∈ layout.fields, field.1 + field.2 ≤ layout.step

theorem fits_of_ofCloud {cloud : Cloud} {layout : Layout} (found : ofCloud cloud = .ok layout) :
    layout.Fits := by
  have inside {name : String} {expected : Scalar} {offset : Nat}
      (declared : offsetOf cloud name expected = .ok offset) :
      offset + expected.size ≤ cloud.pointStep.toNat := by
    obtain ⟨field, -, -, fits, rfl⟩ := offsetOf_eq_ok_iff.mp declared
    exact fits
  unfold ofCloud at found
  split at found
  · cases found
  · simp only [bind_eq_ok_iff] at found
    obtain ⟨x, at_x, y, at_y, z, at_z, intensity, at_intensity, ring, at_ring, azimuth, at_azimuth,
      distance, at_distance, built⟩ := found
    cases built
    simpa [Fits, fields] using ⟨inside at_x, inside at_y, inside at_z, inside at_intensity,
      inside at_ring, inside at_azimuth, inside at_distance⟩

end Layout

/-! ## Records -/

namespace Scan

/-- A scan that was accepted has the layout that its cloud declares. -/
theorem layout_of_ofCloud {cloud : Cloud} {scan : Scan} (opened : ofCloud cloud = .ok scan) :
    Layout.ofCloud cloud = .ok scan.layout := by
  unfold ofCloud at opened
  cases found : Layout.ofCloud cloud with
  | error fault =>
    rw [found] at opened
    cases opened
  | ok layout =>
    rw [found] at opened
    simp only at opened
    split at opened
    · cases opened
    · split at opened
      · cases opened
        rfl
      · cases opened

/-- A cloud with a layout whose buffer is as long as it declares is accepted. -/
theorem ofCloud_eq_ok {cloud : Cloud} (scan : Scan)
    (layout : Layout.ofCloud cloud = .ok scan.layout) (data : cloud.data = scan.data)
    (count : cloud.pointCount = scan.length)
    (bounded : scan.length * scan.layout.step < sizeBound) : ofCloud cloud = .ok scan := by
  obtain ⟨found, buffer, length, size_data⟩ := scan
  simp only at layout data count bounded
  subst data count
  unfold ofCloud
  rw [layout]
  simp only
  rw [if_neg (Nat.not_le_of_lt bounded), dif_pos size_data]

/-- The octets of a record. -/
def record (scan : Scan) (index : Nat) : Octets :=
  scan.data.extract (index * scan.layout.step) (index * scan.layout.step + scan.layout.step)

/-- A record ends inside the buffer. -/
theorem record_end_le (scan : Scan) {index : Nat} (inside : index < scan.length) :
    index * scan.layout.step + scan.layout.step ≤ scan.data.size := by
  rw [scan.size_data, ← Nat.succ_mul]
  exact Nat.mul_le_mul_right _ inside

/-- A field inside the record is a slice of the record. -/
theorem slice_record (scan : Scan) (index : Nat) {offset width : Nat}
    (fits : offset + width ≤ scan.layout.step) :
    (scan.record index).slice offset width =
      scan.data.slice (index * scan.layout.step + offset) width := by
  unfold record Octets.slice
  rw [Array.extract_extract]
  congr 2
  omega

/-- A field inside the record is read in full. -/
theorem length_slice (scan : Scan) {index : Nat} (inside : index < scan.length)
    {offset width : Nat} (fits : offset + width ≤ scan.layout.step) :
    (scan.data.slice (index * scan.layout.step + offset) width).length = width := by
  have reach := scan.record_end_le inside
  unfold Octets.slice
  rw [Array.length_toList, Array.size_extract]
  omega

/-- The return of a record depends on the octets of that record alone. -/
theorem read_record (scan : Scan) (fits : scan.layout.Fits) (index : Nat) :
    scan.layout.read (scan.record index) 0 =
      scan.layout.read scan.data (index * scan.layout.step) := by
  have slice {offset width : Nat} (field : (offset, width) ∈ scan.layout.fields) :=
    scan.slice_record index (fits _ field)
  unfold Layout.read ByteOrder.real
  simp only [Nat.zero_add]
  rw [slice, slice, slice, slice, slice, slice, slice]
  all_goals simp [Layout.fields]

/-- Records that are packed into a scan one after the other are the records of the scan. -/
theorem record_packed {α : Type} {scan : Scan} {pack : α → List UInt8} {records : List α}
    (length_pack : ∀ record, (pack record).length = scan.layout.step)
    (data : scan.data = (records.flatMap pack).toArray) {index : Nat}
    (inside : index < records.length) : scan.record index = (pack records[index]).toArray := by
  have slice := Octets.slice_flatMap length_pack records index inside 0 scan.layout.step (by omega)
  rw [List.drop_zero, List.take_of_length_le (Nat.le_of_eq (length_pack _)), Nat.add_zero,
    ← data] at slice
  rw [← slice]
  rfl

end Scan

/-! ## Sensor records -/

theorem length_sensorOctets (order : ByteOrder) (record : SensorRecord) :
    (record.octets order).length = 48 := by
  simp [SensorRecord.octets, ByteOrder.length_encode]

end LidarSieve
