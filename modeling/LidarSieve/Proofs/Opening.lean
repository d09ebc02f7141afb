import LidarSieve.Proofs.Outcome
/-!
# Opening a cloud

Whether a cloud with a layout is opened as a scan is decided by one number, the octets that it
declares (`Cloud.declared`).  `Scan.ofCloud_by_size` goes through all that can happen: the number
is compared with the length of the buffer only if it is a size, and a cloud that declares more than
any size is given up instead of being refused.  What is opened can be read to its end: each record
lies in the buffer, and a return comes from the octets of its own record (`Scan.ReadsInside`).
-/
set_option autoImplicit false

namespace LidarSieve

/-! ## Sizes -/

/-- How many octets the cloud declares, counted without a bound. -/
def Cloud.declared (cloud : Cloud) : Nat :=
  cloud.width.toNat * cloud.height.toNat * cloud.pointStep.toNat

/-- The number of records is always a size. -/
theorem Cloud.pointCount_lt (cloud : Cloud) : cloud.pointCount < sizeBound := by
  have square : UInt32.size * UInt32.size = sizeBound := by decide
  rw [← square]
  exact Nat.mul_lt_mul'' cloud.width.toNat_lt cloud.height.toNat_lt

/-- The end of a declared field is always a size. -/
theorem Field.end_lt (field : Field) : field.offset.toNat + field.kind.size < sizeBound := by
  have offset_lt : field.offset.toNat < UInt32.size := field.offset.toNat_lt
  have size_le : field.kind.size ≤ 8 := by cases field.kind <;> decide
  unfold UInt32.size at offset_lt
  unfold sizeBound UInt64.size
  omega

namespace Scan

/-! ## Reading an opened scan -/

/-- Every record of the scan is there, and nothing else is read for its return. -/
structure ReadsInside (scan : Scan) : Prop where
  /-- A record ends inside the buffer. -/
  records : ∀ index < scan.length,
    index * scan.layout.step + scan.layout.step ≤ scan.data.size
  /-- A field ends inside the record, and is read in full. -/
  fields : ∀ index < scan.length, ∀ field ∈ scan.layout.fields,
    field.1 + field.2 ≤ scan.layout.step ∧
      ((scan.record index).slice field.1 field.2).length = field.2
  /-- There is a return for each record, and it is read from the octets of that record alone. -/
  returns : ∀ index < scan.length,
    scan.return? index = some (scan.layout.read (scan.record index) 0)
  /-- There is no other return. -/
  nothing_behind : ∀ index, scan.length ≤ index → scan.return? index = none

theorem readsInside {scan : Scan} (fits : scan.layout.Fits) : scan.ReadsInside where
  records _ inside := scan.record_end_le inside
  fields index inside field mem := by
    refine ⟨fits field mem, ?_⟩
    rw [scan.slice_record index (fits field mem)]
    exact scan.length_slice inside (fits field mem)
  returns index inside := by
    rw [return?, if_pos inside, scan.read_record fits]
  nothing_behind _ behind := if_neg (Nat.not_lt_of_le behind)

/-! ## Opening a cloud -/

variable {cloud : Cloud}

theorem declared_eq {layout : Layout} (found : Layout.ofCloud cloud = .ok layout) :
    cloud.pointCount * layout.step = cloud.declared := by
  rw [(Layout.header_of_ofCloud found).1]
  rfl

/-- What is wrong with the layout of a cloud is reported as it is. -/
theorem ofCloud_of_layout_error {fault : Fault} (failed : Layout.ofCloud cloud = .error fault) :
    ofCloud cloud = .error (.refused fault) := by
  unfold ofCloud
  rw [failed]

/-- A cloud that declares more octets than there are sizes is given up. -/
theorem ofCloud_of_sizeBound_le {layout : Layout} (found : Layout.ofCloud cloud = .ok layout)
    (large : sizeBound ≤ cloud.declared) : ofCloud cloud = .error .overrun := by
  rw [← declared_eq found] at large
  unfold ofCloud
  rw [found]
  exact if_pos large

/-- A cloud whose buffer has another size than it declares is refused for this. -/
theorem ofCloud_of_size_ne {layout : Layout} (found : Layout.ofCloud cloud = .ok layout)
    (small : cloud.declared < sizeBound) (ne : cloud.data.size ≠ cloud.declared) :
    ofCloud cloud = .error (.refused (.bufferLength cloud.declared cloud.data.size)) := by
  rw [← declared_eq found] at small ne ⊢
  unfold ofCloud
  rw [found]
  dsimp only
  rw [if_neg (Nat.not_le_of_lt small), dif_neg ne]

/-- A cloud whose buffer has the size that it declares is opened. -/
theorem ofCloud_of_size_eq {layout : Layout} (found : Layout.ofCloud cloud = .ok layout)
    (small : cloud.declared < sizeBound) (same : cloud.data.size = cloud.declared) :
    ∃ scan, ofCloud cloud = .ok scan := by
  rw [← declared_eq found] at small same
  exact ⟨⟨layout, cloud.data, cloud.pointCount, same⟩, ofCloud_eq_ok _ found rfl rfl small⟩

/-- What an opened scan takes over from its cloud. -/
theorem eq_of_ofCloud {scan : Scan} (opened : ofCloud cloud = .ok scan) :
    scan.data = cloud.data ∧ scan.length = cloud.pointCount ∧ cloud.declared < sizeBound ∧
      cloud.data.size = cloud.declared := by
  have found := layout_of_ofCloud opened
  have small : cloud.declared < sizeBound := by
    by_contra large
    rw [ofCloud_of_sizeBound_le found (Nat.le_of_not_lt large)] at opened
    cases opened
  have same : cloud.data.size = cloud.declared := by
    by_contra ne
    rw [ofCloud_of_size_ne found small ne] at opened
    cases opened
  have size_data := same.trans (declared_eq found).symm
  have bounded : cloud.pointCount * scan.layout.step < sizeBound := by
    rw [declared_eq found]
    exact small
  have taken := ofCloud_eq_ok ⟨scan.layout, cloud.data, cloud.pointCount, size_data⟩ found rfl rfl
    bounded
  have scan_eq := Except.ok.inj (opened.symm.trans taken)
  exact ⟨congrArg Scan.data scan_eq, congrArg Scan.length scan_eq, small, same⟩

/-- Nothing but the declared number of octets makes a cloud be given up. -/
theorem ofCloud_eq_overrun_iff : ofCloud cloud = .error .overrun ↔
    (∃ layout, Layout.ofCloud cloud = .ok layout) ∧ sizeBound ≤ cloud.declared := by
  constructor
  · intro given_up
    cases found : Layout.ofCloud cloud with
    | error fault =>
      rw [ofCloud_of_layout_error found] at given_up
      cases given_up
    | ok layout =>
      refine ⟨⟨layout, rfl⟩, ?_⟩
      by_contra large
      have small := Nat.lt_of_not_le large
      by_cases same : cloud.data.size = cloud.declared
      · obtain ⟨scan, opened⟩ := ofCloud_of_size_eq found small same
        rw [opened] at given_up
        cases given_up
      · rw [ofCloud_of_size_ne found small same] at given_up
        cases given_up
  · rintro ⟨⟨layout, found⟩, large⟩
    exact ofCloud_of_sizeBound_le found large

/-- The clouds that are opened. -/
theorem exists_ofCloud_iff : (∃ scan, ofCloud cloud = .ok scan) ↔
    (∃ layout, Layout.ofCloud cloud = .ok layout) ∧ cloud.declared < sizeBound ∧
      cloud.data.size = cloud.declared := by
  constructor
  · rintro ⟨scan, opened⟩
    obtain ⟨-, -, small, same⟩ := eq_of_ofCloud opened
    exact ⟨⟨scan.layout, layout_of_ofCloud opened⟩, small, same⟩
  · rintro ⟨⟨layout, found⟩, small, same⟩
    exact ofCloud_of_size_eq found small same

/-- Whatever a cloud declares and holds:

* the number of its records and the ends of its fields are sizes, and what is wrong with its layout
  is reported before its size is looked at;
* it is given up exactly if it has a layout and declares more octets than there are sizes;
* short of that, it is refused for the length of its buffer whenever this is not the declared one,
  and opened exactly if it is;
* every record of an opened scan, and every field of it, is read in full and from its own octets. -/
theorem ofCloud_by_size (cloud : Cloud) :
    cloud.pointCount < sizeBound ∧
    (∀ field ∈ cloud.fields, field.offset.toNat + field.kind.size < sizeBound) ∧
    (∀ fault, Layout.ofCloud cloud = .error fault → ofCloud cloud = .error (.refused fault)) ∧
    (ofCloud cloud = .error .overrun ↔
      (∃ layout, Layout.ofCloud cloud = .ok layout) ∧ sizeBound ≤ cloud.declared) ∧
    (∀ layout, Layout.ofCloud cloud = .ok layout → cloud.declared < sizeBound →
      cloud.data.size ≠ cloud.declared →
        ofCloud cloud = .error (.refused (.bufferLength cloud.declared cloud.data.size))) ∧
    ((∃ scan, ofCloud cloud = .ok scan) ↔
      (∃ layout, Layout.ofCloud cloud = .ok layout) ∧ cloud.declared < sizeBound ∧
        cloud.data.size = cloud.declared) ∧
    ∀ scan, ofCloud cloud = .ok scan →
      scan.data = cloud.data ∧ scan.length = cloud.pointCount ∧ scan.ReadsInside := by
  refine ⟨cloud.pointCount_lt, ?_, ?_, ofCloud_eq_overrun_iff, ?_, exists_ofCloud_iff, ?_⟩
  · intro field _
    exact field.end_lt
  · intro fault failed
    exact ofCloud_of_layout_error failed
  · intro layout found small ne
    exact ofCloud_of_size_ne found small ne
  · intro scan opened
    obtain ⟨data, length, -, -⟩ := eq_of_ofCloud opened
    exact ⟨data, length, readsInside (Layout.fits_of_ofCloud (layout_of_ofCloud opened))⟩

theorem ofCloud_sampleCloud_by_size :
    Scan.ofCloud sampleCloud = .ok sampleScan ∧ sampleCloud.data.size = sampleCloud.declared ∧
      sampleScan.ReadsInside := by
  obtain ⟨-, -, -, -, -, opened, reads⟩ := ofCloud_by_size sampleCloud
  exact ⟨ofCloud_sampleCloud, (opened.mp ⟨_, ofCloud_sampleCloud⟩).2.2,
    (reads _ ofCloud_sampleCloud).2.2⟩

/-- A cloud without octets that declares more records than any buffer holds. -/
def vastCloud : Cloud where
  header := ⟨"lidar", 0⟩
  height := 4294967295
  width := 4294967295
  fields := sensorFields
  bigEndian := false
  pointStep := sensorStep
  rowStep := 0
  data := #[]
  dense := true

/-- It has a layout, its buffer is not of the declared length, and it is not refused for that. -/
theorem ofCloud_vastCloud :
    Layout.ofCloud vastCloud = .ok ⟨48, 0, 4, 8, 12, 16, 20, 28, .little⟩ ∧
      vastCloud.data.size ≠ vastCloud.declared ∧
      Scan.ofCloud vastCloud = .error .overrun := by
  refine ⟨by decide +kernel, by decide +kernel, by decide +kernel⟩

end Scan
end LidarSieve
