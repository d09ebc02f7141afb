import LidarSieve.Proofs.Packing
/-!
# Dumps by their size

What becomes of a dump is decided by its size alone.  The number of its records is compared with the
bound of a word, but the octets of the row are a word as well, and they reach the bound first: from
`2 ^ 32` octets on a dump of whole records is given up before it is refused for its size
(`Cloud.ofDump_eq_overrun_iff`).  Below that the cloud describes the dump octet by octet
(`Cloud.Describes`), and it is accepted as a scan.
-/
set_option autoImplicit false

namespace LidarSieve

variable {header : Header} {bigEndian : Bool} {dump : Octets} {cloud : Cloud}

/-! ## The cloud of a dump -/

/-- The cloud is one row of sensor records that takes up the whole dump; all sizes are counted
without a bound. -/
structure Cloud.Describes (header : Header) (bigEndian : Bool) (dump : Octets) (cloud : Cloud) :
    Prop where
  header_eq : cloud.header = header
  height_eq : cloud.height = 1
  width_eq : cloud.width.toNat * 48 = dump.size
  fields_eq : cloud.fields = sensorFields
  bigEndian_eq : cloud.bigEndian = bigEndian
  pointStep_eq : cloud.pointStep = sensorStep
  rowStep_eq : cloud.rowStep.toNat = cloud.width.toNat * 48
  data_eq : cloud.data = dump
  dense_eq : cloud.dense = true

/-- The row that a dump of whole records is made into. -/
def Cloud.dumped (header : Header) (bigEndian : Bool) (dump : Octets) : Cloud where
  header := header
  height := 1
  width := UInt32.ofNat (dump.size / 48)
  fields := sensorFields
  bigEndian := bigEndian
  pointStep := sensorStep
  rowStep := UInt32.ofNat (dump.size / 48) * sensorStep
  data := dump
  dense := true

namespace Cloud

/-- The width of the row is the number of records, if this is a word. -/
theorem toNat_width_dumped (few : dump.size / 48 < UInt32.size) :
    (dumped header bigEndian dump).width.toNat = dump.size / 48 :=
  UInt32.toNat_ofNat_of_lt' few

/-- A row whose octets can be counted in a word describes its dump. -/
theorem describes_dumped (whole : dump.size % 48 = 0) (short : dump.size < UInt32.size) :
    (dumped header bigEndian dump).Describes header bigEndian dump where
  header_eq := rfl
  height_eq := rfl
  width_eq := by
    rw [toNat_width_dumped ((Nat.div_le_self _ _).trans_lt short)]
    exact Nat.div_mul_cancel (Nat.dvd_of_mod_eq_zero whole)
  fields_eq := rfl
  bigEndian_eq := rfl
  pointStep_eq := rfl
  rowStep_eq := by
    have few : dump.size / 48 < UInt32.size := (Nat.div_le_self _ _).trans_lt short
    have step : sensorStep.toNat = 48 := rfl
    have room : dump.size / 48 * 48 < UInt32.size := (Nat.div_mul_le_self _ _).trans_lt short
    change (UInt32.ofNat (dump.size / 48) * sensorStep).toNat =
      (UInt32.ofNat (dump.size / 48)).toNat * 48
    rw [UInt32.toNat_mul, UInt32.toNat_ofNat_of_lt' few, step]
    exact Nat.mod_eq_of_lt room
  data_eq := rfl
  dense_eq := rfl

/-! ## The size decides -/

theorem ofDump_of_partial (part : dump.size % 48 ≠ 0) :
    ofDump header bigEndian dump = .error (.refused (.partialRecord dump.size)) :=
  if_pos part

theorem ofDump_of_large (whole : dump.size % 48 = 0) (large : UInt32.size ≤ dump.size / 48) :
    ofDump header bigEndian dump = .error (.refused (.tooLarge dump.size)) := by
  have step : sensorStep.toNat = 48 := rfl
  unfold ofDump
  rw [step]
  dsimp only
  rw [if_neg (not_not.mpr whole), if_pos large]

/-- A dump of whole records that are not too many becomes a row, unless the octets of the row are
too many. -/
theorem ofDump_of_whole (whole : dump.size % 48 = 0) (few : dump.size / 48 < UInt32.size) :
    ofDump header bigEndian dump =
      if dump.size < UInt32.size then .ok (dumped header bigEndian dump)
      else .error .overrun := by
  have step : sensorStep.toNat = 48 := rfl
  have octets : dump.size / 48 * 48 = dump.size :=
    Nat.div_mul_cancel (Nat.dvd_of_mod_eq_zero whole)
  have made : ofSensorData? header bigEndian (dump.size / 48) dump =
      if dump.size < UInt32.size then some (dumped header bigEndian dump) else none := by
    unfold ofSensorData? ofRow?
    dsimp only
    rw [UInt32.toNat_ofNat_of_lt' few, step, octets]
    rfl
  unfold ofDump
  rw [step]
  dsimp only
  rw [if_neg (not_not.mpr whole), if_neg (Nat.not_le_of_lt few), made]
  split_ifs with short
  · rfl
  · rfl

/-- A dump of whole records is given up if its octets are not counted in a word, and its records
are. -/
theorem ofDump_eq_overrun_iff : ofDump header bigEndian dump = .error .overrun ↔
    dump.size % 48 = 0 ∧ UInt32.size ≤ dump.size ∧ dump.size / 48 < UInt32.size := by
  by_cases whole : dump.size % 48 = 0
  · rcases Nat.lt_or_ge (dump.size / 48) UInt32.size with few | large
    · rw [ofDump_of_whole whole few]
      split_ifs with short
      · exact iff_of_false (nomatch ·) fun limits => Nat.not_le_of_lt short limits.2.1
      · exact iff_of_true rfl ⟨whole, Nat.le_of_not_lt short, few⟩
    · rw [ofDump_of_large whole large]
      exact iff_of_false (nomatch ·) fun limits => Nat.not_le_of_lt limits.2.2 large
  · rw [ofDump_of_partial whole]
    exact iff_of_false (nomatch ·) fun limits => whole limits.1

/-- The dumps that become clouds, and the clouds that they become. -/
theorem ofDump_eq_ok_iff : ofDump header bigEndian dump = .ok cloud ↔
    dump.size % 48 = 0 ∧ dump.size < UInt32.size ∧ cloud = dumped header bigEndian dump := by
  by_cases whole : dump.size % 48 = 0
  · rcases Nat.lt_or_ge (dump.size / 48) UInt32.size with few | large
    · rw [ofDump_of_whole whole few]
      split_ifs with short
      · rw [Except.ok.injEq, eq_comm]
        exact ⟨fun same => ⟨whole, short, same⟩, fun known => known.2.2⟩
      · exact iff_of_false (nomatch ·) fun known => short known.2.1
    · rw [ofDump_of_large whole large]
      have long : UInt32.size ≤ dump.size := large.trans (Nat.div_le_self _ _)
      exact iff_of_false (nomatch ·) fun known => Nat.not_le_of_lt known.2.1 long
  · rw [ofDump_of_partial whole]
    exact iff_of_false (nomatch ·) fun known => whole known.1

/-- A cloud of a dump has the fields of sensor records, and its buffer holds its records. -/
theorem facts_of_ofDump (framed : ofDump header bigEndian dump = .ok cloud) :
    cloud.fields = sensorFields ∧ cloud.pointStep = sensorStep ∧
      cloud.data.size = cloud.pointCount * sensorStep.toNat ∧
      cloud.pointCount * sensorStep.toNat < UInt32.size := by
  obtain ⟨whole, short, rfl⟩ := ofDump_eq_ok_iff.mp framed
  have described : (dumped header bigEndian dump).Describes header bigEndian dump :=
    describes_dumped whole short
  have one : (1 : UInt32).toNat = 1 := rfl
  have step : sensorStep.toNat = 48 := rfl
  have count : (dumped header bigEndian dump).pointCount * sensorStep.toNat = dump.size := by
    rw [pointCount, described.height_eq, one, Nat.mul_one, step]
    exact described.width_eq
  exact ⟨rfl, rfl, count.symm, count.trans_lt short⟩

end Cloud

/-- So it is accepted, as a scan of few records. -/
theorem Scan.exists_of_ofDump (framed : Cloud.ofDump header bigEndian dump = .ok cloud) :
    ∃ scan, ofCloud cloud = .ok scan ∧ scan.length < 2 ^ 28 := by
  obtain ⟨fields, step, size, small⟩ := Cloud.facts_of_ofDump framed
  have octets : sensorStep.toNat = 48 := rfl
  rw [octets] at size small
  rw [UInt32.size] at small
  let scan : Scan := ⟨.sensor (.ofFlag cloud.bigEndian), cloud.data, cloud.pointCount, size⟩
  refine ⟨scan, ofCloud_eq_ok scan (Layout.ofCloud_of_sensorFields fields step) rfl rfl ?_, ?_⟩
  · change cloud.pointCount * 48 < sizeBound
    rw [sizeBound, UInt64.size]
    omega
  · change cloud.pointCount < 2 ^ 28
    omega

/-! ## Dumps of any size -/

/-- Whatever octets are given, and under whatever header and order:

* a dump whose last record is not complete is refused for that, and a dump of whole records is
  refused for its size if the number of its records is no word;
* a dump of fewer than `2 ^ 32` octets is refused or becomes a cloud;
* a dump is given up exactly if its records are whole, their number is a word, and their octets are
  `2 ^ 32` or more;
* a cloud that a dump becomes describes the dump and is accepted as a scan. -/
theorem Cloud.ofDump_by_size (header : Header) (bigEndian : Bool) (dump : Octets) :
    (dump.size % 48 ≠ 0 →
      ofDump header bigEndian dump = .error (.refused (.partialRecord dump.size))) ∧
    (dump.size % 48 = 0 → 2 ^ 32 ≤ dump.size / 48 →
      ofDump header bigEndian dump = .error (.refused (.tooLarge dump.size))) ∧
    (dump.size % 48 = 0 → dump.size < 2 ^ 32 →
      ∃ cloud, ofDump header bigEndian dump = .ok cloud) ∧
    (ofDump header bigEndian dump = .error .overrun ↔
      dump.size % 48 = 0 ∧ 2 ^ 32 ≤ dump.size ∧ dump.size / 48 < 2 ^ 32) ∧
    ∀ cloud, ofDump header bigEndian dump = .ok cloud →
      cloud.Describes header bigEndian dump ∧ ∃ scan, Scan.ofCloud cloud = .ok scan := by
  refine ⟨ofDump_of_partial, ofDump_of_large, ?_, ofDump_eq_overrun_iff, ?_⟩
  · intro whole short
    exact ⟨_, ofDump_eq_ok_iff.mpr ⟨whole, short, rfl⟩⟩
  · intro cloud framed
    obtain ⟨whole, short, rfl⟩ := ofDump_eq_ok_iff.mp framed
    obtain ⟨scan, opened, -⟩ := Scan.exists_of_ofDump framed
    exact ⟨describes_dumped whole short, scan, opened⟩

/-- One octet less than a record, two records, and a record too many for a word. -/
theorem Cloud.ofDump_of_zeros :
    (Array.replicate 47 (0 : UInt8)).size % 48 ≠ 0 ∧
      (Array.replicate 96 (0 : UInt8)).size % 48 = 0 ∧
      (Array.replicate 96 (0 : UInt8)).size < 2 ^ 32 ∧
      2 ^ 32 ≤ (Array.replicate 206158430208 (0 : UInt8)).size / 48 ∧
      ofDump ⟨"lidar", 0⟩ false (Array.replicate 47 0) =
        .error (.refused (.partialRecord 47)) ∧
      ofDump ⟨"lidar", 0⟩ false (Array.replicate 206158430208 0) =
        .error (.refused (.tooLarge 206158430208)) ∧
      ∃ cloud, ofDump ⟨"lidar", 0⟩ false (Array.replicate 96 0) = .ok cloud ∧
        cloud.Describes ⟨"lidar", 0⟩ false (Array.replicate 96 0) := by
  have part : (Array.replicate 47 (0 : UInt8)).size % 48 ≠ 0 := by
    rw [Array.size_replicate]
    decide
  have whole : (Array.replicate 96 (0 : UInt8)).size % 48 = 0 := by rw [Array.size_replicate]
  have short : (Array.replicate 96 (0 : UInt8)).size < 2 ^ 32 := by
    rw [Array.size_replicate]
    decide
  have many : (Array.replicate 206158430208 (0 : UInt8)).size % 48 = 0 := by
    rw [Array.size_replicate]
  have large : 2 ^ 32 ≤ (Array.replicate 206158430208 (0 : UInt8)).size / 48 := by
    rw [Array.size_replicate]
    decide
  have refused := (ofDump_by_size ⟨"lidar", 0⟩ false (Array.replicate 47 0)).1 part
  have refused_large :=
    (ofDump_by_size ⟨"lidar", 0⟩ false (Array.replicate 206158430208 0)).2.1 many large
  obtain ⟨-, -, made, -, describes⟩ := ofDump_by_size ⟨"lidar", 0⟩ false (Array.replicate 96 0)
  obtain ⟨cloud, framed⟩ := made whole short
  rw [Array.size_replicate] at refused refused_large
  exact ⟨part, whole, short, large, refused, refused_large, cloud, framed,
    (describes cloud framed).1⟩

/-- The shortest dump of whole records whose octets are not counted in a word: the number of its
records is one, and it is given up instead of being refused or described. -/
theorem Cloud.ofDump_longRow :
    (Array.replicate 4294967328 (0 : UInt8)).size % 48 = 0 ∧
      (Array.replicate 4294967328 (0 : UInt8)).size / 48 < 2 ^ 32 ∧
      ofDump ⟨"lidar", 0⟩ false (Array.replicate 4294967328 0) = .error .overrun := by
  have size : (Array.replicate 4294967328 (0 : UInt8)).size = 4294967328 := Array.size_replicate
  have whole : (Array.replicate 4294967328 (0 : UInt8)).size % 48 = 0 := by rw [size]
  have few : (Array.replicate 4294967328 (0 : UInt8)).size / 48 < 2 ^ 32 := by
    rw [size]
    decide
  refine ⟨whole, few, ofDump_eq_overrun_iff.mpr ⟨whole, ?_, few⟩⟩
  rw [size]
  decide

end LidarSieve
