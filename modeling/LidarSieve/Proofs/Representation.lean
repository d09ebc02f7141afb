import LidarSieve.Proofs.Packing
import LidarSieve.Proofs.Separation
/-!
# How a scan is laid out does not matter

Byte order, stride, places of the fields, further fields, octets between the fields and the shape
of the cloud are the publisher's choice.  Filtering only sees the words of the seven fields that
it reads: two scans that present the same words, record by record, are filtered to the same counts,
the same visibility and clouds of the same points (`Snapshot.filter_representation`).  The clouds
differ in their byte order alone, which is the one of the input.  A grid that has no buffer is the
matter of the settings: then both scans are given up.
-/
set_option autoImplicit false

namespace LidarSieve

open LidarSieve.Binary

/-! ## What a scan presents -/

/-- Words are told apart by their bit patterns. -/
theorem Binary.Number.toBits_injective {f : Format} :
    Function.Injective (Number.toBits (f := f)) := by
  intro x y same
  rw [← Number.ofBits_toBits x, same, Number.ofBits_toBits]

/-- The bit patterns of the words that are read for a return. -/
def Return.bits (r : Return) : List Nat :=
  [r.x.toBits, r.y.toBits, r.z.toBits, r.intensity.toBits, r.ring, r.azimuth.toBits,
   r.distance.toBits]

theorem Return.bits_injective : Function.Injective Return.bits := by
  intro a b same
  simp only [bits, List.cons.injEq, and_true] at same
  obtain ⟨x, y, z, intensity, ring, azimuth, distance⟩ := same
  cases a
  cases b
  simp only at x y z intensity ring azimuth distance
  rw [Return.mk.injEq]
  exact ⟨Number.toBits_injective x, Number.toBits_injective y, Number.toBits_injective z,
    Number.toBits_injective intensity, ring, Number.toBits_injective azimuth,
    Number.toBits_injective distance⟩

namespace Scan

/-- Two scans present the same words: they have as many records, and the bit patterns of the
needed fields are the same in each record. -/
structure SameBits (left right : Scan) : Prop where
  length_eq : left.length = right.length
  bits_eq : ∀ index < left.length,
    (left.return? index).map Return.bits = (right.return? index).map Return.bits

/-- Two scans that present the same words have the same returns. -/
theorem SameBits.returns_eq {left right : Scan} (same : left.SameBits right) :
    left.returns = right.returns := by
  apply Array.ext_getElem?
  intro index
  rw [getElem?_returns, getElem?_returns]
  by_cases inside : index < left.length
  · exact Option.map_injective Return.bits_injective (same.bits_eq index inside)
  · rw [return?, return?, if_neg inside, if_neg (same.length_eq ▸ inside)]

/-- Two scans of the same records present the same words. -/
theorem sameBits_of_return? {left right : Scan} (records : List SensorRecord)
    (count_left : left.length = records.length) (count_right : right.length = records.length)
    (read_left : ∀ index (inside : index < records.length),
      left.return? index = some records[index].toReturn)
    (read_right : ∀ index (inside : index < records.length),
      right.return? index = some records[index].toReturn) : left.SameBits right where
  length_eq := count_left.trans count_right.symm
  bits_eq index inside := by
    rw [read_left index (count_left ▸ inside), read_right index (count_left ▸ inside)]

/-- So do the same records, packed in the two byte orders. -/
theorem sameBits_packed (first second : Bool) (records : List SensorRecord) :
    (packed first records).SameBits (packed second records) :=
  sameBits_of_return? records rfl rfl (fun _ => return?_packed first)
    fun _ => return?_packed second

end Scan

/-! ## What a reader of an outcome sees -/

/-- Two clouds in given byte orders hold the same points, each read in its own order; nothing but
the order and the octets differs. -/
structure Cloud.SamePoints (first second : Bool) (left right : Cloud) : Prop where
  order_left : left.bigEndian = first
  order_right : right.bigEndian = second
  spots_eq : ∃ spots, left.spots = .ok spots ∧ right.spots = .ok spots
  rest : right = { left with bigEndian := right.bigEndian, data := right.data }

/-- Two outcomes in given byte orders tell their reader the same. -/
structure Outcome.SameContents (first second : Bool) (left right : Outcome) : Prop where
  statistics_eq : left.statistics = right.statistics
  visibility_eq : left.visibility = right.visibility
  version_eq : left.version = right.version
  points : left.points.SamePoints first second right.points
  noise : Option.Rel (Cloud.SamePoints first second) left.noise right.noise

/-- Two clouds are filtered alike.  Where the grid that is asked for has a buffer, or none is asked
for, both have an outcome, and these tell the same; where it has none, both are given up. -/
structure Snapshot.FiltersAlike (s : Snapshot) (transform : Option Transform)
    (left right : Cloud) : Prop where
  filtered (buffer : s.parameters.publishNoisePoints = true →
      s.parameters.verticalBins.toNat * sectors ≤ maxBuffer) :
    ∃ first second, (s.filter left transform).1 = .ok first ∧
      (s.filter right transform).1 = .ok second ∧
      first.SameContents left.bigEndian right.bigEndian second
  givenUp (publish : s.parameters.publishNoisePoints = true)
      (large : maxBuffer < s.parameters.verticalBins.toNat * sectors) :
    (s.filter left transform).1 = .error .overrun ∧
      (s.filter right transform).1 = .error .overrun

/-! ## The outcome -/

section Outcome

variable (s : Snapshot) (transform : Option Transform) {left right : Cloud}

/-- The same points, written in two byte orders. -/
theorem Cloud.samePoints_ofSpots (header : Header) (first second : Bool) (spots : List Spot)
    (dense : Bool) :
    SamePoints first second (.ofSpots header (.ofFlag first) spots dense)
      (.ofSpots header (.ofFlag second) spots dense) where
  order_left := ByteOrder.isBig_ofFlag first
  order_right := ByteOrder.isBig_ofFlag second
  spots_eq := ⟨_, spots_ofSpots_take _ _ _ _, spots_ofSpots_take _ _ _ _⟩
  rest := rfl

/-- The selection from the same returns tells the same, whatever clouds they were read from. -/
theorem Outcome.sameContents_ofSelection (header : right.header = left.header)
    (dense : right.dense = left.dense) (returns : Array Return)
    (visibility : Option Visibility) :
    SameContents left.bigEndian right.bigEndian
      (.ofSelection s left transform (returnAt returns) (recordsOf returns) visibility)
      (.ofSelection s right transform (returnAt returns) (recordsOf returns) visibility) where
  statistics_eq := rfl
  visibility_eq := rfl
  version_eq := rfl
  points := by
    simp only [ofSelection, Cloud.ofSelection, header, dense]
    exact Cloud.samePoints_ofSpots _ _ _ _ _
  noise := by
    simp only [ofSelection, Cloud.ofSelection, header, dense]
    split
    · exact .some (Cloud.samePoints_ofSpots _ _ _ _ _)
    · exact .none

/-- Clouds whose scans have the same returns are filtered alike. -/
theorem Snapshot.filtersAlike_of_returns_eq {first second : Scan}
    (opened_left : Scan.ofCloud left = .ok first) (opened_right : Scan.ofCloud right = .ok second)
    (header : right.header = left.header) (dense : right.dense = left.dense)
    (same : first.returns = second.returns) (few : first.length < 2 ^ 28) :
    s.FiltersAlike transform left right := by
  have few_right : second.length < 2 ^ 28 := by
    rw [← second.size_returns, ← same, first.size_returns]
    exact few
  constructor
  case filtered =>
    intro buffer
    obtain ⟨outcome, filtered_left⟩ := s.exists_outcome opened_left transform few buffer
    obtain ⟨other, filtered_right⟩ := s.exists_outcome opened_right transform few_right buffer
    refine ⟨outcome, other, filtered_left, filtered_right, ?_⟩
    obtain ⟨scan, visibility, reopened, reported, rfl⟩ :=
      s.eq_ofSelection_of_filter left transform filtered_left
    obtain rfl : first = scan := Except.ok.inj (opened_left.symm.trans reopened)
    obtain ⟨scan, also, reopened, rereported, rfl⟩ :=
      s.eq_ofSelection_of_filter right transform filtered_right
    obtain rfl : second = scan := Except.ok.inj (opened_right.symm.trans reopened)
    -- The visibility is that of the header and the returns, which are the same.
    rw [← same, header, reported] at rereported
    obtain rfl : visibility = also := Option.some.inj rereported
    rw [← same]
    exact Outcome.sameContents_ofSelection s transform header dense first.returns visibility
  case givenUp =>
    intro publish large
    exact ⟨s.filter_overrun opened_left transform few publish large,
      s.filter_overrun opened_right transform few_right publish large⟩

/-- Two clouds of the same frame, time and density whose scans present the same words, fewer than
`2 ^ 28` records of them, are filtered alike, whatever else differs.  So are the clouds of the same
records, packed in the two byte orders. -/
theorem Snapshot.filter_representation {first second : Scan}
    (opened_left : Scan.ofCloud left = .ok first) (opened_right : Scan.ofCloud right = .ok second)
    (header : right.header = left.header) (dense : right.dense = left.dense)
    (same : first.SameBits second) (few : first.length < 2 ^ 28) :
    s.FiltersAlike transform left right ∧
      ∀ (header : Header) (records : List SensorRecord), 48 * records.length < 2 ^ 32 →
        ∃ little big, Cloud.ofSensorRecords? header false records = some little ∧
          Cloud.ofSensorRecords? header true records = some big ∧
          s.FiltersAlike transform little big := by
  refine ⟨s.filtersAlike_of_returns_eq transform opened_left opened_right header dense
    same.returns_eq few, fun header records small => ?_⟩
  refine ⟨.packed header false records, .packed header true records,
    Cloud.ofSensorRecords?_eq header false small, Cloud.ofSensorRecords?_eq header true small, ?_⟩
  have count : (Scan.packed false records).length < 2 ^ 28 := by
    simp only [Scan.packed]
    omega
  exact s.filtersAlike_of_returns_eq transform (Scan.ofCloud_packed header false small)
    (Scan.ofCloud_packed header true small) rfl rfl
    (Scan.sameBits_packed false true records).returns_eq count

end Outcome

/-- That two scans present the same words does not suffice for an outcome: under settings whose grid
has no buffer, neither byte order of the small scan has one. -/
theorem packedRecords_without_outcomes :
    wideSnapshot.parameters.validate = .ok () ∧
      Scan.ofCloud (.packed ⟨"lidar", 0⟩ false sampleRecords) =
        .ok (.packed false sampleRecords) ∧
      Scan.ofCloud (.packed ⟨"lidar", 0⟩ true sampleRecords) = .ok (.packed true sampleRecords) ∧
      (Scan.packed false sampleRecords).SameBits (.packed true sampleRecords) ∧
      (Scan.packed false sampleRecords).length < 2 ^ 28 ∧
      ¬ ∃ first second,
        (wideSnapshot.filter (.packed ⟨"lidar", 0⟩ false sampleRecords) none).1 = .ok first ∧
        (wideSnapshot.filter (.packed ⟨"lidar", 0⟩ true sampleRecords) none).1 = .ok second ∧
        first.SameContents false true second := by
  have opened : Scan.ofCloud (.packed ⟨"lidar", 0⟩ false sampleRecords) =
      .ok (.packed false sampleRecords) := Scan.ofCloud_packed _ false (by decide)
  refine ⟨by decide +kernel, opened, Scan.ofCloud_packed _ true (by decide),
    Scan.sameBits_packed false true sampleRecords, by decide, ?_⟩
  rintro ⟨first, -, filtered, -⟩
  have given_up := wideSnapshot.filter_overrun opened none (by decide) rfl (by decide)
  rw [given_up] at filtered
  cases filtered

/-! ## The small scan, laid out in another way -/

/-- The octets of a record in another layout: most significant octets first, the needed fields in
another order, and further octets between them. -/
def SensorRecord.recodedOctets (r : SensorRecord) : List UInt8 :=
  [255, 255] ++ ByteOrder.big.encode 2 r.ring.toNat ++ ByteOrder.big.encode 4 r.distance.toBits ++
    ByteOrder.big.encode 4 r.azimuth.toBits ++ ByteOrder.big.encode 4 r.z.toBits ++
    ByteOrder.big.encode 4 r.x.toBits ++ ByteOrder.big.encode 4 r.intensity.toBits ++
    [1, 2, 3, 4] ++ ByteOrder.big.encode 4 r.y.toBits

/-- The small scan in that layout, as seven rows of one record; a field of a color and a second
field of the name `x` are declared as well. -/
def recodedCloud : Cloud where
  header := ⟨"lidar", 0⟩
  height := 7
  width := 1
  fields :=
    [{ name := "ring", offset := 2, kind := .uint16 },
     { name := "distance", offset := 4, kind := .float32 },
     { name := "azimuth", offset := 8, kind := .float32 },
     { name := "z", offset := 12, kind := .float32 },
     { name := "x", offset := 16, kind := .float32 },
     { name := "color", offset := 24, kind := .uint32, count := 3 },
     { name := "x", offset := 900, kind := .uint8 },
     { name := "intensity", offset := 20, kind := .float32 },
     { name := "y", offset := 28, kind := .float32 }]
  bigEndian := true
  pointStep := 32
  rowStep := 5
  data := (sampleRecords.flatMap SensorRecord.recodedOctets).toArray
  dense := true

/-- The small scan in that layout, checked. -/
def recodedScan : Scan where
  layout := ⟨32, 16, 28, 12, 20, 2, 8, 4, .big⟩
  data := recodedCloud.data
  length := 7
  size_data := by decide +kernel

theorem ofCloud_recodedCloud : Scan.ofCloud recodedCloud = .ok recodedScan :=
  Scan.ofCloud_eq_ok recodedScan (by decide +kernel) rfl (by decide +kernel) (by decide +kernel)

theorem length_recodedOctets (record : SensorRecord) : record.recodedOctets.length = 32 := by
  simp [SensorRecord.recodedOctets, ByteOrder.length_encode]

theorem read_recodedOctets (record : SensorRecord) :
    recodedScan.layout.read record.recodedOctets.toArray 0 = record.toReturn := by
  have ring : ByteOrder.big.decode (ByteOrder.big.encode 2 record.ring.toNat) =
      record.ring.toNat := by
    rw [ByteOrder.decode_encode]
    exact Nat.mod_eq_of_lt record.ring.toNat_lt
  simp [Layout.read, recodedScan, ByteOrder.real, Octets.slice_toArray,
    SensorRecord.recodedOctets, List.drop_append, ByteOrder.length_encode, drop_encode,
    List.take_of_length_le, ofBits_decode_encode, ring, SensorRecord.toReturn]

theorem sampleScan_eq_packed : sampleScan = .packed false sampleRecords := rfl

theorem sameBits_recodedScan : sampleScan.SameBits recodedScan := by
  have fits : recodedScan.layout.Fits := by simp [Layout.Fits, Layout.fields, recodedScan]
  have recoded (index : Nat) (inside : index < sampleRecords.length) :
      recodedScan.return? index = some sampleRecords[index].toReturn :=
    Scan.return?_of_pack fits length_recodedOctets read_recodedOctets rfl rfl inside
  rw [sampleScan_eq_packed]
  exact Scan.sameBits_of_return? sampleRecords rfl rfl (fun _ => Scan.return?_packed false) recoded

theorem filtersAlike_recodedCloud :
    Scan.ofCloud sampleCloud = .ok sampleScan ∧ Scan.ofCloud recodedCloud = .ok recodedScan ∧
      recodedCloud.header = sampleCloud.header ∧ recodedCloud.dense = sampleCloud.dense ∧
      sampleScan.SameBits recodedScan ∧ sampleScan.length < 2 ^ 28 ∧
      (∃ first second, (sampleSnapshot.filter sampleCloud none).1 = .ok first ∧
        (sampleSnapshot.filter recodedCloud none).1 = .ok second ∧
        first.SameContents false true second) ∧
      ∃ little big, Cloud.ofSensorRecords? ⟨"lidar", 0⟩ false sampleRecords = some little ∧
        Cloud.ofSensorRecords? ⟨"lidar", 0⟩ true sampleRecords = some big ∧
        sampleSnapshot.FiltersAlike none little big := by
  obtain ⟨alike, packed⟩ := sampleSnapshot.filter_representation none ofCloud_sampleCloud
    ofCloud_recodedCloud rfl rfl sameBits_recodedScan (by decide)
  exact ⟨ofCloud_sampleCloud, ofCloud_recodedCloud, rfl, rfl, sameBits_recodedScan, by decide,
    alike.filtered fun _ => by decide, packed ⟨"lidar", 0⟩ sampleRecords (by decide)⟩

end LidarSieve
