import Mathlib.Data.List.Sort
import LidarSieve.Proofs.Outcome
/-!
# The interleaving of rings does not matter

A sensor sends the records of its rings in packets, and how it weaves them into one scan is up
to the sensor.  Two scans that hold the same records and keep them in the same order within each
ring are filtered to the same outcome (`Snapshot.filter_reordered`).

The two halves of it are that the selection only depends on the lists of the single rings, and
that the counts of the grid do not depend on any order at all.  The indices under which the two
scans hold a record differ, so both selections are first read off the octets of the records.
-/
set_option autoImplicit false

namespace LidarSieve

variable {α β : Type}

/-! ## Reordered lists -/

section Reordered

variable {count other : Nat} {place : Fin count ≃ Fin other} {f : Fin count → α}
  {g : Fin other → α}

theorem map_finRange_perm (same : ∀ index, g (place index) = f index) :
    ((List.finRange count).map f).Perm ((List.finRange other).map g) := by
  have places : ((List.finRange count).map place).Perm (List.finRange other) := by
    rw [List.perm_ext_iff_of_nodup ((List.nodup_finRange count).map place.injective)
      (List.nodup_finRange other)]
    intro index
    simp only [List.mem_map, List.mem_finRange, true_and, iff_true]
    exact place.surjective index
  have moved : (List.finRange count).map f = ((List.finRange count).map place).map g := by
    rw [List.map_map]
    exact List.map_congr_left fun index _ => (same index).symm
  rw [moved]
  exact places.map g

/-- Elements of one key stay in the order that they are in, if places are given out in their
order. -/
theorem filter_map_finRange (same : ∀ index, g (place index) = f index) (key : α → Nat)
    (ordered : ∀ i j, key (f i) = key (f j) → i < j → place i < place j) (k : Nat) :
    ((List.finRange count).map f).filter (fun element => key element == k) =
      ((List.finRange other).map g).filter (fun element => key element == k) := by
  have places : ((List.finRange count).filter fun index => key (f index) == k).map place =
      (List.finRange other).filter fun index => key (g index) == k := by
    -- Both lists are strictly ascending and have the same elements.
    apply List.Pairwise.eq_of_mem_iff (r := (· < ·))
    · rw [List.pairwise_map]
      refine ((List.pairwise_lt_finRange count).filter _).imp_of_mem ?_
      intro i j mem_i mem_j less
      have key_i : key (f i) = k := by simpa using (List.mem_filter.mp mem_i).2
      have key_j : key (f j) = k := by simpa using (List.mem_filter.mp mem_j).2
      exact ordered i j (key_i.trans key_j.symm) less
    · exact (List.pairwise_lt_finRange other).filter _
    · intro index
      obtain ⟨index, rfl⟩ := place.surjective index
      simp [same]
  rw [List.filter_map, List.filter_map]
  have moved : f = g ∘ place := funext fun index => (same index).symm
  conv_lhs => rw [moved, ← List.map_map]
  rw [← moved]
  exact congrArg (List.map g) places

end Reordered

/-! ## The grid -/

theorem modify_comm (cells : Array β) (f : β → β) (i j : Nat) :
    (cells.modify i f).modify j f = (cells.modify j f).modify i f := by
  apply Array.ext_getElem?
  intro index
  simp only [Array.getElem?_modify]
  split <;> split <;> rfl

/-- Counting does not depend on the order of the returns, even where cells are full. -/
theorem Grid.tally_perm (grid : Grid) {left right : List Return} (perm : left.Perm right)
    (cells : Array UInt8) : grid.tally left cells = grid.tally right cells := by
  induction perm generalizing cells with
  | nil => rfl
  | cons r _ ih =>
    unfold tally
    rw [ih, ih]
  | swap a b rest =>
    by_cases counted_a : grid.counts a <;> by_cases counted_b : grid.counts b <;>
      simp [tally, counted_a, counted_b, modify_comm]
  | trans _ _ first second => rw [first, second]

theorem Grid.evaluate?_perm (grid : Grid) (header : Header) {left right : Array Return}
    (perm : left.toList.Perm right.toList) :
    grid.evaluate? header left = grid.evaluate? header right := by
  unfold evaluate? counts?
  rw [grid.tally_perm perm]

/-! ## The selection -/

section Selection

variable (s : Snapshot) (cloud : Cloud) (transform : Option Transform)

theorem pointsOf_map (get : β → Return) (f : α → β) (records : List α) :
    pointsOf transform get (records.map f) = pointsOf transform (get ∘ f) records :=
  List.map_map

theorem overflow_map (get : β → Return) (f : α → β) (records : List α) (rings room : Nat) :
    overflow get rings room (records.map f) = overflow (get ∘ f) rings room records := by
  simp [overflow, ofRing_map]

/-- Renaming the records changes no count. -/
theorem Statistics.ofSelection_map (p : Parameters) (get : β → Return) (f : α → β)
    (records : List α) :
    ofSelection p get (records.map f) = ofSelection p (get ∘ f) records := by
  simp [ofSelection, overflow_map, Parameters.evaluated_map, Parameters.segments_map,
    Criterion.judged_map, Parameters.selected_map, List.countP_map, Function.comp_def]

/-- Renaming the records changes nothing in the outcome. -/
theorem Outcome.ofSelection_map (get : β → Return) (f : α → β) (records : List α)
    (visibility : Option Visibility) :
    ofSelection s cloud transform get (records.map f) visibility =
      ofSelection s cloud transform (get ∘ f) records visibility := by
  simp [ofSelection, Cloud.ofSelection, Parameters.selected_map, pointsOf_map,
    Statistics.ofSelection_map]

variable {left right : List α} {get : α → Return}

theorem Parameters.selected_congr (p : Parameters)
    (rings : ∀ ring, ofRing get left ring = ofRing get right ring) (verdict : Verdict) :
    p.selected get left verdict = p.selected get right verdict := by
  rw [Parameters.selected, p.segments_congr get rings, ← Parameters.selected]

/-- The counts only depend on the list of each ring. -/
theorem Statistics.ofSelection_congr (p : Parameters) (perm : left.Perm right)
    (rings : ∀ ring, ofRing get left ring = ofRing get right ring) :
    ofSelection p get left = ofSelection p get right := by
  unfold ofSelection
  rw [perm.length_eq, perm.countP_eq, overflow_congr get _ _ rings, p.segments_congr get rings,
    p.selected_congr rings, p.selected_congr rings, ← p.flatten_segments, ← p.flatten_segments,
    p.segments_congr get rings]

/-- The outcome only depends on the list of each ring. -/
theorem Outcome.ofSelection_congr (perm : left.Perm right)
    (rings : ∀ ring, ofRing get left ring = ofRing get right ring)
    (visibility : Option Visibility) :
    ofSelection s cloud transform get left visibility =
      ofSelection s cloud transform get right visibility := by
  unfold ofSelection Cloud.ofSelection
  rw [s.parameters.selected_congr rings, s.parameters.selected_congr rings,
    Statistics.ofSelection_congr s.parameters perm rings]

end Selection

/-! ## Reordered scans -/

namespace Layout

/-- The return that the octets of a record hold. -/
def returnOf (layout : Layout) (record : Octets) : Return := layout.read record 0

end Layout

namespace Scan

/-- The records of the other scan are those of this one in other places, octet by octet, and the
records of each ring stay in their order. -/
structure Reordered (left right : Scan) : Prop where
  layout_eq : right.layout = left.layout
  moved : ∃ place : Fin left.length ≃ Fin right.length,
    (∀ index, right.record (place index) = left.record index) ∧
    ∀ i j : Fin left.length,
      (left.layout.returnOf (left.record i)).ring = (left.layout.returnOf (left.record j)).ring →
        i < j → place i < place j

/-- The octets of all records in order. -/
def records (scan : Scan) : List Octets :=
  (List.finRange scan.length).map fun index : Fin scan.length => scan.record index

theorem Reordered.perm {left right : Scan} (reordered : left.Reordered right) :
    left.records.Perm right.records := by
  obtain ⟨place, same, -⟩ := reordered.moved
  exact map_finRange_perm (g := fun index : Fin right.length => right.record index) same

theorem Reordered.ofRing_eq {left right : Scan} (reordered : left.Reordered right) (ring : Nat) :
    ofRing left.layout.returnOf left.records ring =
      ofRing left.layout.returnOf right.records ring := by
  obtain ⟨place, same, ordered⟩ := reordered.moved
  exact filter_map_finRange (g := fun index : Fin right.length => right.record index) same
    (fun record => (left.layout.returnOf record).ring) ordered ring

/-- The octets of the records under the indices of the returns. -/
theorem map_record (scan : Scan) :
    (recordsOf scan.returns).map (fun index : Fin scan.returns.size => scan.record index) =
      scan.records := by
  apply List.ext_getElem
  · simp [records, scan.size_returns]
  · intro index _ _
    simp [records]

/-- The return under an index is the one that the octets of the record hold. -/
theorem returnOf_record {scan : Scan} (fits : scan.layout.Fits) :
    (scan.layout.returnOf ∘ fun index : Fin scan.returns.size => scan.record index) =
      returnAt scan.returns := by
  funext index
  have found : scan.returns[index.val]? = scan.return? index.val := scan.getElem?_returns index
  rw [return?, if_pos (scan.size_returns ▸ index.isLt), reads_returnAt] at found
  exact (scan.read_record fits index).trans (Option.some.inj found).symm

/-- The returns of a scan are those that its records hold. -/
theorem toList_returns {scan : Scan} (fits : scan.layout.Fits) :
    scan.returns.toList = scan.records.map scan.layout.returnOf := by
  rw [← map_returnAt, ← scan.map_record, List.map_map, returnOf_record fits]

end Scan

/-- The outcome can be read off the octets of the records. -/
theorem Outcome.ofSelection_records (s : Snapshot) (cloud : Cloud) (transform : Option Transform)
    {scan : Scan} (fits : scan.layout.Fits) (visibility : Option Visibility) :
    ofSelection s cloud transform (returnAt scan.returns) (recordsOf scan.returns) visibility =
      ofSelection s cloud transform scan.layout.returnOf scan.records visibility := by
  rw [← scan.map_record, Outcome.ofSelection_map, Scan.returnOf_record fits]

/-- So can the records with a verdict. -/
theorem Parameters.selected_records (p : Parameters) {scan : Scan} (fits : scan.layout.Fits)
    (verdict : Verdict) :
    (p.selected (returnAt scan.returns) (recordsOf scan.returns) verdict).map
        (fun index : Fin scan.returns.size => scan.record index) =
      p.selected scan.layout.returnOf scan.records verdict := by
  rw [← scan.map_record, p.selected_map, Scan.returnOf_record fits]

/-! ## The outcome -/

/-- The outcome only depends on a cloud through its header and two flags. -/
theorem Outcome.ofSelection_cloud (s : Snapshot) {left right : Cloud}
    (transform : Option Transform) (get : α → Return) (records : List α)
    (visibility : Option Visibility) (header : right.header = left.header)
    (order : right.bigEndian = left.bigEndian) (dense : right.dense = left.dense) :
    ofSelection s left transform get records visibility =
      ofSelection s right transform get records visibility := by
  simp only [ofSelection, Cloud.ofSelection, header, order, dense]

/-- Two scans of fewer than `2 ^ 28` records that differ in how their rings are interleaved are
filtered alike: either both are given up or both have the same outcome, and the records behind
the points of either cloud are the same, octet by octet and in the same order. -/
theorem Snapshot.filter_reordered (s : Snapshot) (transform : Option Transform)
    (left right : Cloud) (first second : Scan)
    (opened_left : Scan.ofCloud left = .ok first) (opened_right : Scan.ofCloud right = .ok second)
    (header : right.header = left.header) (order : right.bigEndian = left.bigEndian)
    (dense : right.dense = left.dense) (reordered : first.Reordered second)
    (few : first.length < 2 ^ 28) :
    (s.filter left transform).1 = (s.filter right transform).1 ∧
      ∀ verdict,
        (s.parameters.selected (returnAt first.returns) (recordsOf first.returns) verdict).map
            (fun index : Fin first.returns.size => first.record index) =
          (s.parameters.selected (returnAt second.returns) (recordsOf second.returns)
            verdict).map (fun index : Fin second.returns.size => second.record index) := by
  have fits_first : first.layout.Fits := Layout.fits_of_ofCloud (Scan.layout_of_ofCloud opened_left)
  have fits_second : second.layout.Fits :=
    Layout.fits_of_ofCloud (Scan.layout_of_ofCloud opened_right)
  have layout := reordered.layout_eq
  have perm := reordered.perm
  have rings := reordered.ofRing_eq
  have length : second.length = first.length := by
    simpa [Scan.records] using perm.length_eq.symm
  have visibility : s.grid.evaluate? left.header first.returns =
      s.grid.evaluate? right.header second.returns := by
    rw [header]
    apply s.grid.evaluate?_perm
    rw [Scan.toList_returns fits_first, Scan.toList_returns fits_second, layout]
    exact perm.map _
  have outcome (visibility : Option Visibility) :
      Outcome.ofSelection s left transform (returnAt first.returns) (recordsOf first.returns)
          visibility =
        Outcome.ofSelection s right transform (returnAt second.returns)
          (recordsOf second.returns) visibility := by
    rw [Outcome.ofSelection_records s left transform fits_first,
      Outcome.ofSelection_records s right transform fits_second, layout,
      Outcome.ofSelection_congr s left transform perm rings,
      Outcome.ofSelection_cloud s transform _ _ _ header order dense]
  constructor
  · rw [s.filter_of_opened opened_left, s.filter_of_opened opened_right,
      s.filterReturns_eq left transform first.returns (by rw [first.size_returns]; exact few),
      s.filterReturns_eq right transform second.returns
        (by rw [second.size_returns, length]; exact few), visibility]
    simp only [outcome]
  · intro verdict
    rw [s.parameters.selected_records fits_first, s.parameters.selected_records fits_second,
      layout, s.parameters.selected_congr rings]

/-! ## A small scan, woven in another way -/

/-- The records of the small scan, where neighbours of different rings have changed places. -/
def wovenRecords : List SensorRecord :=
  [1, 0, 3, 2, 4, 6, 5].filterMap fun index : Nat => sampleRecords[index]?

/-- The other scan as a sensor publishes it. -/
def wovenCloud : Cloud :=
  { sampleCloud with data := (wovenRecords.flatMap (SensorRecord.octets .little)).toArray }

/-- The other scan, checked. -/
def wovenScan : Scan where
  layout := sampleScan.layout
  data := wovenCloud.data
  length := 7
  size_data := by decide +kernel

theorem ofCloud_wovenCloud : Scan.ofCloud wovenCloud = .ok wovenScan :=
  Scan.ofCloud_eq_ok wovenScan (by decide +kernel) rfl (by decide +kernel) (by decide +kernel)

/-- Where the records have gone. -/
def wovenPlace : Fin sampleScan.length ≃ Fin wovenScan.length :=
  (Equiv.swap (0 : Fin 7) 1).trans ((Equiv.swap 2 3).trans (Equiv.swap 5 6))

theorem reordered_wovenScan : sampleScan.Reordered wovenScan := by
  have sample (index : Fin 7) :
      sampleScan.record index = (sampleRecords[index.val].octets .little).toArray :=
    Scan.record_packed (length_sensorOctets .little) rfl index.isLt
  have woven (index : Fin 7) :
      wovenScan.record index = (wovenRecords[index.val].octets .little).toArray :=
    Scan.record_packed (length_sensorOctets .little) rfl index.isLt
  have moved : ∀ index : Fin 7,
      wovenRecords.get (wovenPlace index) = sampleRecords.get index := by
    intro index
    match index with
    | 0 | 1 | 2 | 3 | 4 | 5 | 6 => rfl
  have rings : ∀ index : Fin 7, (sampleScan.layout.returnOf
      (sampleRecords[index.val].octets .little).toArray).ring =
        sampleRecords[index.val].ring.toNat := by
    decide +kernel
  have ordered : ∀ i j : Fin 7,
      sampleRecords[i.val].ring.toNat = sampleRecords[j.val].ring.toNat →
        i < j → wovenPlace i < wovenPlace j := by
    decide +kernel
  refine ⟨rfl, wovenPlace, fun index => ?_, fun (i : Fin 7) (j : Fin 7) same => ?_⟩
  · have packed := congrArg (fun record => (SensorRecord.octets .little record).toArray)
      (moved index)
    exact (woven (wovenPlace index)).trans (packed.trans (sample index).symm)
  · change (sampleScan.layout.returnOf (sampleScan.record i.val)).ring =
      (sampleScan.layout.returnOf (sampleScan.record j.val)).ring at same
    rw [sample, sample, rings, rings] at same
    exact ordered i j same

theorem filter_wovenCloud :
    sampleScan.Reordered wovenScan ∧ wovenRecords ≠ sampleRecords ∧
      (sampleSnapshot.filter sampleCloud none).1 = (sampleSnapshot.filter wovenCloud none).1 :=
  ⟨reordered_wovenScan, by decide +kernel,
    (sampleSnapshot.filter_reordered none sampleCloud wovenCloud sampleScan wovenScan
      ofCloud_sampleCloud ofCloud_wovenCloud rfl rfl rfl reordered_wovenScan (by decide)).1⟩

end LidarSieve
