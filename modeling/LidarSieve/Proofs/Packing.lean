import LidarSieve.Dump
import LidarSieve.Proofs.Outcome
/-!
# Packed sensor records read back

The packer writes the fields of a record one after the other, with gaps between some of them;
the reader takes their places from the field list of the cloud.  Both agree in either byte order:
the cloud of packed records is accepted, and its returns are those of the records
(`Scan.ofCloud_packed`, `Scan.return?_packed`).  A dump is the buffer of such a cloud and nothing
else, so reading it gives the cloud again (`Cloud.ofDump_packed`).
-/
set_option autoImplicit false

namespace LidarSieve

open LidarSieve.Binary

/-! ## One record -/

/-- What filtering knows of a sensor's record. -/
def SensorRecord.toReturn (record : SensorRecord) : Return where
  x := record.x
  y := record.y
  z := record.z
  intensity := record.intensity
  ring := record.ring.toNat
  azimuth := record.azimuth
  distance := record.distance

/-- Where a sensor's record has its fields. -/
def Layout.sensor (order : ByteOrder) : Layout where
  step := 48
  x := 0
  y := 4
  z := 8
  intensity := 12
  ring := 16
  azimuth := 20
  distance := 28
  order := order

theorem Layout.sensor_fits (order : ByteOrder) : (sensor order).Fits := by
  simp [Fits, fields, sensor]

/-- A cloud with the fields and the step of sensor records has their layout. -/
theorem Layout.ofCloud_of_sensorFields {cloud : Cloud} (fields : cloud.fields = sensorFields)
    (step : cloud.pointStep = sensorStep) :
    ofCloud cloud = .ok (sensor (.ofFlag cloud.bigEndian)) := by
  obtain ⟨header, height, width, declared, bigEndian, pointStep, rowStep, data, dense⟩ := cloud
  simp only at fields step
  subst fields step
  rfl

theorem drop_encode (order : ByteOrder) (word : Nat) {width count : Nat} (past : width ≤ count) :
    (order.encode width word).drop count = [] :=
  List.drop_of_length_le (by rw [ByteOrder.length_encode]; exact past)

/-- Reading the octets of a record gives its return. -/
theorem Layout.read_octets (order : ByteOrder) (record : SensorRecord) :
    (sensor order).read (record.octets order).toArray 0 = record.toReturn := by
  have ring : order.decode (order.encode 2 record.ring.toNat) = record.ring.toNat := by
    rw [ByteOrder.decode_encode]
    exact Nat.mod_eq_of_lt record.ring.toNat_lt
  -- A slice of the octets is empty on every field that ends before it.
  simp [read, sensor, ByteOrder.real, Octets.slice_toArray, SensorRecord.octets, List.drop_append,
    ByteOrder.length_encode, drop_encode, ofBits_decode_encode, ring, SensorRecord.toReturn]

/-! ## Packed records -/

/-- Where the octets of one record read as its return, so do those of many in a row. -/
theorem Scan.return?_of_pack {scan : Scan} (fits : scan.layout.Fits)
    {pack : SensorRecord → List UInt8}
    (length_pack : ∀ record, (pack record).length = scan.layout.step)
    (read : ∀ record, scan.layout.read (pack record).toArray 0 = record.toReturn)
    {records : List SensorRecord} (data : scan.data = (records.flatMap pack).toArray)
    (count : scan.length = records.length) {index : Nat} (inside : index < records.length) :
    scan.return? index = some records[index].toReturn := by
  rw [return?, if_pos (count ▸ inside), ← scan.read_record fits,
    record_packed length_pack data inside, read]

section Packed

variable (header : Header) (bigEndian : Bool) (records : List SensorRecord)

/-- The octets of all records. -/
def packedOctets : Octets := (records.flatMap (SensorRecord.octets (.ofFlag bigEndian))).toArray

theorem size_packedOctets : (packedOctets bigEndian records).size = records.length * 48 := by
  rw [packedOctets, List.size_toArray,
    length_flatMap_pack (length_sensorOctets (.ofFlag bigEndian))]

/-- The cloud of packed records. -/
def Cloud.packed : Cloud where
  header := header
  height := 1
  width := UInt32.ofNat records.length
  fields := sensorFields
  bigEndian := bigEndian
  pointStep := sensorStep
  rowStep := UInt32.ofNat records.length * sensorStep
  data := packedOctets bigEndian records
  dense := true

/-- The packed records, checked. -/
def Scan.packed : Scan where
  layout := .sensor (.ofFlag bigEndian)
  data := packedOctets bigEndian records
  length := records.length
  size_data := size_packedOctets bigEndian records

variable {records}

/-- Records whose octets can be counted in a word are packed into their cloud. -/
theorem Cloud.ofSensorRecords?_eq (few : 48 * records.length < UInt32.size) :
    Cloud.ofSensorRecords? header bigEndian records = some (.packed header bigEndian records) := by
  have step : sensorStep.toNat = 48 := rfl
  have width : (UInt32.ofNat records.length).toNat = records.length :=
    UInt32.toNat_ofNat_of_lt' (by omega)
  have room : (UInt32.ofNat records.length).toNat * sensorStep.toNat < UInt32.size := by
    rw [width, step]
    omega
  simp only [ofSensorRecords?, ofSensorData?, ofRow?, if_pos room]
  rfl

/-- The cloud of packed records is accepted. -/
theorem Scan.ofCloud_packed (few : 48 * records.length < UInt32.size) :
    ofCloud (.packed header bigEndian records) = .ok (packed bigEndian records) := by
  have count : (Cloud.packed header bigEndian records).pointCount = records.length := by
    rw [Cloud.pointCount]
    simp only [Cloud.packed]
    rw [UInt32.toNat_ofNat_of_lt' (by omega)]
    exact Nat.mul_one _
  have bounded : records.length * 48 < sizeBound := by
    have bound : sizeBound = 18446744073709551616 := rfl
    have word : UInt32.size = 4294967296 := rfl
    omega
  exact ofCloud_eq_ok (packed bigEndian records) (Layout.ofCloud_of_sensorFields rfl rfl) rfl count
    bounded

/-- The return of each packed record reads back. -/
theorem Scan.return?_packed {index : Nat} (inside : index < records.length) :
    (packed bigEndian records).return? index = some records[index].toReturn :=
  return?_of_pack (Layout.sensor_fits (.ofFlag bigEndian))
    (length_sensorOctets (.ofFlag bigEndian)) (Layout.read_octets (.ofFlag bigEndian)) rfl rfl
    inside

/-- The buffer of a cloud of packed records is a dump of it. -/
theorem Cloud.ofDump_packed (few : 48 * records.length < UInt32.size) :
    ofDump header bigEndian (packedOctets bigEndian records) =
      .ok (.packed header bigEndian records) := by
  have step : sensorStep.toNat = 48 := rfl
  have size := size_packedOctets bigEndian records
  have whole : (packedOctets bigEndian records).size % sensorStep.toNat = 0 := by
    rw [size, step, Nat.mul_mod_left]
  have count : (packedOctets bigEndian records).size / sensorStep.toNat = records.length := by
    rw [size, step, Nat.mul_div_cancel _ (by decide)]
  have made : ofSensorData? header bigEndian records.length (packedOctets bigEndian records) =
      some (.packed header bigEndian records) := Cloud.ofSensorRecords?_eq header bigEndian few
  have known : ¬ UInt32.size ≤ records.length := by omega
  simp only [ofDump, whole, count, ne_eq, not_true, if_false, if_neg known, made]

end Packed

/-! ## The way through a dump -/

/-- Sensor records whose octets can be counted in a word are packed into a cloud, in either byte
order.  The cloud is accepted; it has as many records as were packed, and each reads back with the
words it was packed with.  Its buffer, recorded as a dump and read at another time, gives the same
cloud but for the time, and so the same scan. -/
theorem SensorRecord.packed_reads_back (frame : String) (packed read : Int) (bigEndian : Bool)
    (records : List SensorRecord) (few : 48 * records.length < 2 ^ 32) :
    ∃ cloud scan, Cloud.ofSensorRecords? ⟨frame, packed⟩ bigEndian records = some cloud ∧
      Scan.ofCloud cloud = .ok scan ∧ scan.length = records.length ∧
      (∀ index (inside : index < records.length),
        scan.return? index = some {
          x := records[index].x
          y := records[index].y
          z := records[index].z
          intensity := records[index].intensity
          ring := records[index].ring.toNat
          azimuth := records[index].azimuth
          distance := records[index].distance }) ∧
      ∃ dumped, Cloud.ofDump ⟨frame, read⟩ bigEndian cloud.data = .ok dumped ∧
        dumped = { cloud with header := ⟨frame, read⟩ } ∧ Scan.ofCloud dumped = .ok scan := by
  refine ⟨.packed ⟨frame, packed⟩ bigEndian records, .packed bigEndian records,
    Cloud.ofSensorRecords?_eq _ bigEndian few, Scan.ofCloud_packed _ bigEndian few, rfl,
    fun index inside => Scan.return?_packed bigEndian inside,
    .packed ⟨frame, read⟩ bigEndian records, Cloud.ofDump_packed _ bigEndian few, rfl,
    Scan.ofCloud_packed _ bigEndian few⟩

theorem sampleRecords_read_back :
    48 * sampleRecords.length < 2 ^ 32 ∧
      ∃ cloud scan, Cloud.ofSensorRecords? ⟨"lidar", 0⟩ true sampleRecords = some cloud ∧
        Scan.ofCloud cloud = .ok scan ∧ scan.length = 7 ∧
        (scan.return? 3).map Return.ring = some 900 ∧
        ∃ dumped, Cloud.ofDump ⟨"lidar", 5⟩ true cloud.data = .ok dumped ∧
          Scan.ofCloud dumped = .ok scan := by
  refine ⟨by decide, ?_⟩
  obtain ⟨cloud, scan, made, opened, length, reads, dumped, read, -, reopened⟩ :=
    SensorRecord.packed_reads_back "lidar" 0 5 true sampleRecords (by decide)
  refine ⟨cloud, scan, made, opened, length, ?_, dumped, read, reopened⟩
  rw [reads 3 (by decide)]
  rfl

end LidarSieve
