import Mathlib.Algebra.Order.BigOperators.Group.Finset
import Mathlib.Order.Bounds.Basic
import LidarSieve.Proofs.Placement
/-!
# Records without a place

A scan is sorted in one pass that fills the rings, counts what finds no place in them and remembers
the rings of two records: of the first one that was skipped and of the first one that was dropped.
`Rings.build_sorts` says what the pass leaves behind: rings hold the first records of their number,
all others are counted once, and there is a warning for each count that is not zero.

Whether a record is dropped depends on the records in front of it, so what is remembered is told for
such kinds of records (`Remembers`).  The step is `Remembers.concat`, and the invariant of the pass
is that both memories are right and that the rings hold their records (`Placement.Holds`).
-/
set_option autoImplicit false

namespace LidarSieve

variable {α : Type}

/-! ## The first record of a kind -/

/-- The record at a place is of a kind, which may depend on the records in front of it. -/
def KindAt (kind : List α → α → Prop) (records : List α) (place : Nat) : Prop :=
  ∃ record, records[place]? = some record ∧ kind (records.take place) record

/-- What is remembered of records: nothing if none is of the kind, else the ring of the first one
that is. -/
inductive Remembers (kind : List α → α → Prop) (get : α → Return) (records : List α) :
    Option Nat → Prop where
  | nothing (absent : ∀ place, ¬ KindAt kind records place) : Remembers kind get records none
  | first (place : Nat) (record : α) (least : IsLeast {place | KindAt kind records place} place)
      (found : records[place]? = some record) :
      Remembers kind get records (some (get record).ring)

section Kinds

variable {kind : List α → α → Prop} {get : α → Return} {records : List α}

theorem KindAt.lt {place : Nat} (at_place : KindAt kind records place) :
    place < records.length := by
  obtain ⟨record, found, -⟩ := at_place
  exact (List.getElem?_eq_some_iff.mp found).1

/-- One more record is of the kind or not, and changes nothing for those in front of it. -/
theorem kindAt_concat (record : α) (place : Nat) : KindAt kind (records ++ [record]) place ↔
    KindAt kind records place ∨ place = records.length ∧ kind records record := by
  rcases Nat.lt_trichotomy place records.length with inside | rfl | behind
  · have ne : place ≠ records.length := by omega
    simp only [KindAt, List.getElem?_append_left inside,
      List.take_append_of_le_length (Nat.le_of_lt inside), ne, false_and, or_false]
  · simp [KindAt]
  · have absent : ¬ KindAt kind records place := fun at_place => Nat.lt_asymm behind at_place.lt
    have absent' : ¬ KindAt kind (records ++ [record]) place := by
      intro at_place
      have := at_place.lt
      rw [List.length_append, List.length_singleton] at this
      omega
    simp only [absent, absent', false_or, false_iff]
    omega

variable {memory : Option Nat}

/-- The first record of a kind stays the first one. -/
theorem isLeast_concat {place : Nat} (least : IsLeast {place | KindAt kind records place} place)
    (record : α) : IsLeast {place | KindAt kind (records ++ [record]) place} place := by
  refine ⟨(kindAt_concat record place).mpr (.inl least.1), fun other at_other => ?_⟩
  rcases (kindAt_concat record other).mp at_other with before | ⟨rfl, -⟩
  · exact least.2 before
  · exact Nat.le_of_lt least.1.lt

/-- A record of another kind changes nothing in what is remembered. -/
theorem Remembers.concat_other (remembers : Remembers kind get records memory) {record : α}
    (other : ¬ kind records record) : Remembers kind get (records ++ [record]) memory := by
  cases remembers with
  | nothing absent =>
    refine .nothing fun place at_place => ?_
    rcases (kindAt_concat record place).mp at_place with before | ⟨-, of_kind⟩
    · exact absent place before
    · exact other of_kind
  | first place first least found =>
    exact .first place first (isLeast_concat least record)
      ((List.getElem?_append_left least.1.lt).trans found)

/-- A record of the kind is remembered if nothing was. -/
theorem Remembers.concat (remembers : Remembers kind get records memory) {record : α}
    (of_kind : kind records record) :
    Remembers kind get (records ++ [record]) (memory.or (some (get record).ring)) := by
  cases remembers with
  | nothing absent =>
    refine .first records.length record ⟨?_, fun place at_place => ?_⟩ List.getElem?_concat_length
    · exact (kindAt_concat record records.length).mpr (.inr ⟨rfl, of_kind⟩)
    · rcases (kindAt_concat record place).mp at_place with before | ⟨rfl, -⟩
      · exact absurd before (absent place)
      · exact Nat.le_refl _
  | first place first least found =>
    exact .first place first (isLeast_concat least record)
      ((List.getElem?_append_left least.1.lt).trans found)

end Kinds

/-! ## What a placement remembers -/

/-- The record has a ring number out of range. -/
def Skips (get : α → Return) (count : Nat) (_ : List α) (record : α) : Prop :=
  count ≤ (get record).ring

/-- The records in front of it have left no room in the ring of the record. -/
def Drops (get : α → Return) (count capacity : Nat) (before : List α) (record : α) : Prop :=
  (get record).ring < count ∧ capacity ≤ (ofRing get before (get record).ring).length

namespace Placement

/-- The placement of records remembers the first one that was skipped and the first one that was
dropped. -/
structure Recalls (get : α → Return) (count capacity : Nat) (records : List α) (p : Placement) :
    Prop where
  skipped : Remembers (Skips get count) get records p.firstSkipped
  dropped : Remembers (Drops get count capacity) get records p.firstDropped

variable {get : α → Return} {index : α → Nat} {count capacity : Nat} {records : List α}
  {p : Placement}

/-- The step: one record is skipped, dropped or kept, and remembered if it is the first one. -/
theorem Recalls.place (recalls : p.Recalls get count capacity records)
    (holds : p.Holds get index count capacity records) (record : α) :
    (p.place capacity (index record) (get record).ring).Recalls get count capacity
      (records ++ [record]) := by
  rcases Nat.lt_or_ge (get record).ring count with inside | beyond
  · have not_skipped : ¬ Skips get count records record := Nat.not_le_of_lt inside
    rcases Nat.lt_or_ge (ofRing get records (get record).ring).length capacity with room | full
    · have not_dropped : ¬ Drops get count capacity records record :=
        fun drops => Nat.not_le_of_lt room drops.2
      rw [holds.place_room record inside room]
      exact ⟨recalls.skipped.concat_other not_skipped, recalls.dropped.concat_other not_dropped⟩
    · rw [holds.place_full record inside full]
      exact ⟨recalls.skipped.concat_other not_skipped, recalls.dropped.concat ⟨inside, full⟩⟩
  · have not_dropped : ¬ Drops get count capacity records record :=
      fun drops => Nat.not_le_of_lt drops.1 beyond
    rw [holds.place_beyond record beyond]
    exact ⟨recalls.skipped.concat beyond, recalls.dropped.concat_other not_dropped⟩

/-- The run: the records of a whole list are placed one after the other. -/
theorem Recalls.foldl (recalls : p.Recalls get count capacity records)
    (holds : p.Holds get index count capacity records) (more : List α) :
    (more.foldl (fun p record => p.place capacity (index record) (get record).ring) p).Recalls
      get count capacity (records ++ more) := by
  induction more generalizing records p with
  | nil => simpa using recalls
  | cons record rest ih =>
    rw [List.foldl_cons, List.append_cons]
    exact ih (recalls.place holds record) (holds.place record)

theorem start_recalls (get : α → Return) (count capacity : Nat) :
    (start count).Recalls get count capacity [] where
  skipped := .nothing fun _ at_place => nomatch at_place.lt
  dropped := .nothing fun _ at_place => nomatch at_place.lt

end Placement

/-- The placement of a scan remembers its records. -/
theorem Rings.build_recalls (count capacity : Nat) (returns : Array Return) :
    (build count capacity returns).Recalls (returnAt returns) count capacity (recordsOf returns) := by
  rw [build_eq_foldl]
  exact (Placement.start_recalls (returnAt returns) count capacity).foldl
    (Placement.start_holds (returnAt returns) Fin.val count capacity) (recordsOf returns)

/-! ## Records by index -/

section Indices

variable (returns : Array Return)

/-- The record of an index carries a ring number. -/
def carries (ring index : Nat) : Bool := returns[index]?.any (·.ring == ring)

/-- The indices of the records that carry a ring number, in the order of the scan. -/
def recordsOn (ring : Nat) : List Nat := (List.range returns.size).filter (carries returns ring)

/-- The record of an index has a ring number out of range. -/
def IsSkipped (count index : Nat) : Prop := ∃ r, returns[index]? = some r ∧ count ≤ r.ring

/-- The record of an index is one of those of a ring that are beyond its capacity. -/
def IsDropped (count capacity index : Nat) : Prop :=
  ∃ ring < count, index ∈ (recordsOn returns ring).drop capacity

/-- The first records of a scan that carry a ring number, by their indices. -/
theorem map_val_ofRing_take (ring place : Nat) :
    (ofRing (returnAt returns) ((recordsOf returns).take place) ring).map Fin.val =
      ((List.range returns.size).take place).filter (carries returns ring) := by
  have indices : (recordsOf returns).map Fin.val = List.range returns.size :=
    List.map_coe_finRange_eq_range
  rw [← indices, ← List.map_take, List.filter_map, ofRing]
  congr 2
  funext record
  simp [carries, returnAt]

theorem map_val_ofRing (ring : Nat) :
    (ofRing (returnAt returns) (recordsOf returns) ring).map Fin.val = recordsOn returns ring := by
  have whole := map_val_ofRing_take returns ring returns.size
  rw [List.take_of_length_le (Nat.le_of_eq List.length_finRange),
    List.take_of_length_le (Nat.le_of_eq List.length_range)] at whole
  exact whole

theorem mem_recordsOn {ring index : Nat} : index ∈ recordsOn returns ring ↔
    ∃ r, returns[index]? = some r ∧ r.ring = ring := by
  rw [recordsOn, List.mem_filter, List.mem_range, carries, Option.any_eq_true]
  constructor
  · rintro ⟨-, r, found, same⟩
    exact ⟨r, found, by simpa using same⟩
  · rintro ⟨r, found, same⟩
    exact ⟨(Array.getElem?_eq_some_iff.mp found).1, r, found, by simpa using same⟩

/-- Records of a ring stand in ascending order. -/
theorem pairwise_recordsOn (ring : Nat) : (recordsOn returns ring).Pairwise (· < ·) :=
  List.pairwise_lt_range.filter _

theorem nodup_recordsOn (ring : Nat) : (recordsOn returns ring).Nodup :=
  List.nodup_range.filter _

/-- A record stands in its ring behind the records of the ring that are in front of it. -/
theorem getElem?_recordsOn {ring index : Nat} (mem : index ∈ recordsOn returns ring) :
    (recordsOn returns ring)[(((List.range returns.size).take index).filter
      (carries returns ring)).length]? = some index := by
  obtain ⟨listed, carried⟩ := List.mem_filter.mp mem
  have inside : index < returns.size := List.mem_range.mp listed
  have split : List.range returns.size =
      (List.range returns.size).take index ++ index :: (List.range returns.size).drop (index + 1) := by
    have here := List.drop_eq_getElem_cons (by rwa [List.length_range] : index < _)
    rw [List.getElem_range] at here
    rw [← here, List.take_append_drop]
  rw [recordsOn]
  conv => enter [1, 1]; rw [split]
  rw [List.filter_append, List.filter_cons_of_pos carried,
    List.getElem?_append_right (Nat.le_refl _), Nat.sub_self]
  rfl

/-- The records beyond a capacity are those that have as many in front of them. -/
theorem mem_drop_recordsOn {ring index : Nat} (mem : index ∈ recordsOn returns ring)
    (capacity : Nat) : index ∈ (recordsOn returns ring).drop capacity ↔
      capacity ≤ (((List.range returns.size).take index).filter (carries returns ring)).length := by
  obtain ⟨inside, here⟩ := List.getElem?_eq_some_iff.mp (getElem?_recordsOn returns mem)
  rw [List.mem_drop_iff_getElem]
  constructor
  · rintro ⟨behind, within, there⟩
    have same := (List.Nodup.getElem_inj_iff (nodup_recordsOn returns ring)).mp
      (there.trans here.symm)
    omega
  · intro beyond
    refine ⟨_ - capacity, by rwa [Nat.sub_add_cancel beyond], ?_⟩
    simp only [Nat.add_sub_cancel' beyond]
    exact here

/-! ## The records that are remembered -/

/-- A record of the scan is one of a kind, told by its return and those in front of it. -/
theorem kindAt_recordsOf {kind : List (Fin returns.size) → Fin returns.size → Prop} (index : Nat) :
    KindAt kind (recordsOf returns) index ↔
      ∃ inside : index < returns.size, kind ((recordsOf returns).take index) ⟨index, inside⟩ := by
  constructor
  · rintro ⟨record, found, of_kind⟩
    obtain ⟨inside, rfl⟩ := List.getElem?_eq_some_iff.mp found
    rw [List.getElem_finRange] at of_kind
    exact ⟨by simpa using inside, of_kind⟩
  · rintro ⟨inside, of_kind⟩
    have listed : index < (recordsOf returns).length := by simpa using inside
    refine ⟨⟨index, inside⟩, ?_, of_kind⟩
    rw [List.getElem?_eq_getElem listed, List.getElem_finRange]
    rfl

theorem kindAt_skips_iff (count index : Nat) :
    KindAt (Skips (returnAt returns) count) (recordsOf returns) index ↔
      IsSkipped returns count index := by
  rw [kindAt_recordsOf]
  constructor
  · rintro ⟨inside, skips⟩
    exact ⟨_, Array.getElem?_eq_getElem inside, skips⟩
  · rintro ⟨r, found, beyond⟩
    obtain ⟨inside, rfl⟩ := Array.getElem?_eq_some_iff.mp found
    exact ⟨inside, beyond⟩

theorem kindAt_drops_iff (count capacity index : Nat) :
    KindAt (Drops (returnAt returns) count capacity) (recordsOf returns) index ↔
      IsDropped returns count capacity index := by
  have before (ring : Nat) :
      (ofRing (returnAt returns) ((recordsOf returns).take index) ring).length =
        (((List.range returns.size).take index).filter (carries returns ring)).length := by
    rw [← map_val_ofRing_take, List.length_map]
  rw [kindAt_recordsOf]
  constructor
  · rintro ⟨inside, below, full⟩
    have mem : index ∈ recordsOn returns returns[index].ring :=
      (mem_recordsOn returns).mpr ⟨_, Array.getElem?_eq_getElem inside, rfl⟩
    refine ⟨_, below, (mem_drop_recordsOn returns mem capacity).mpr ?_⟩
    rw [← before]
    exact full
  · rintro ⟨ring, below, beyond⟩
    have mem := List.mem_of_mem_drop beyond
    obtain ⟨r, found, rfl⟩ := (mem_recordsOn returns).mp mem
    obtain ⟨inside, rfl⟩ := Array.getElem?_eq_some_iff.mp found
    refine ⟨inside, below, ?_⟩
    rw [mem_drop_recordsOn returns mem, ← before] at beyond
    exact beyond

/-- There is one warning if records are concerned, with their number and the ring of the first of
them, and otherwise there is none. -/
inductive Warns (concerned : Nat → Prop) (event : Nat → Nat → Event) : Nat → List Event → Prop where
  | silent : Warns concerned event 0 []
  | once (total index : Nat) (r : Return) (some_concerned : 0 < total)
      (least : IsLeast {index | concerned index} index) (found : returns[index]? = some r) :
      Warns concerned event total [event total r.ring]

variable {returns}

theorem Remembers.warns {kind : List (Fin returns.size) → Fin returns.size → Prop}
    {memory : Option Nat} {concerned : Nat → Prop} {total : Nat} (event : Nat → Nat → Event)
    (remembers : Remembers kind (returnAt returns) (recordsOf returns) memory)
    (same : ∀ index, KindAt kind (recordsOf returns) index ↔ concerned index)
    (total_pos : 0 < total ↔ ∃ index, concerned index) :
    Warns returns concerned event total (memory.map (event total)).toList := by
  cases remembers with
  | nothing absent =>
    have zero : total = 0 := by
      by_contra ne
      obtain ⟨index, concerns⟩ := total_pos.mp (Nat.pos_of_ne_zero ne)
      exact absent index ((same index).mpr concerns)
    subst zero
    exact .silent
  | first index record least found =>
    have kinds : {place | KindAt kind (recordsOf returns) place} = {index | concerned index} :=
      Set.ext same
    rw [kinds] at least
    have listed : returns[index]? = some (returnAt returns record) := by
      obtain ⟨inside, rfl⟩ := List.getElem?_eq_some_iff.mp found
      rw [List.getElem_finRange]
      exact Array.getElem?_eq_getElem _
    exact .once total index _ (total_pos.mpr ⟨index, least.1⟩) least listed

end Indices

/-! ## What a pass leaves behind -/

/-- Each record with a ring is one of the records of that ring. -/
theorem sum_length_ofRing (get : α → Return) (count : Nat) (records : List α) :
    ∑ ring ∈ Finset.range count, (ofRing get records ring).length =
      records.countP fun record => (get record).ring < count := by
  induction records with
  | nil => simp [ofRing]
  | cons record rest ih =>
    have step (ring : Nat) : (ofRing get (record :: rest) ring).length =
        (ofRing get rest ring).length + if ring = (get record).ring then 1 else 0 := by
      unfold ofRing
      rw [List.filter_cons]
      by_cases same : ring = (get record).ring
      · simp [same]
      · simp [same, Ne.symm same]
    rw [Finset.sum_congr rfl fun ring _ => step ring, Finset.sum_add_distrib, ih,
      Finset.sum_ite_eq', List.countP_cons]
    simp

/-- What it means that rings hold the records of a scan, as far as they have a place in them. -/
structure Placement.Sorts (returns : Array Return) (count capacity : Nat) (p : Placement) : Prop where
  count_eq : p.rings.count = count
  /-- A ring holds the first records of its number. -/
  ring_eq : ∀ ring < count,
    p.rings.ring ring = ((recordsOn returns ring).take capacity).toArray
  ring_beyond : ∀ ring, count ≤ ring → p.rings.ring ring = #[]
  ascending : ∀ ring, (p.rings.ring ring).toList.Pairwise (· < ·)
  /-- No record is in two rings. -/
  disjoint : ∀ ring other index,
    index ∈ p.rings.ring ring → index ∈ p.rings.ring other → ring = other
  skipped_eq : p.unplaced.skipped = returns.countP fun r => count ≤ r.ring
  dropped_eq : p.unplaced.dropped =
    ∑ ring ∈ Finset.range count, ((recordsOn returns ring).drop capacity).length
  /-- Every record is in a ring or is counted. -/
  total_eq : p.rings.size + p.unplaced.skipped + p.unplaced.dropped = returns.size
  /-- The warning about skipped records comes first. -/
  events_eq : ∃ skipped dropped, p.events count capacity = skipped ++ dropped ∧
    Warns returns (IsSkipped returns count)
      (fun total ring => .ringsSkipped total ring count) p.unplaced.skipped skipped ∧
    Warns returns (IsDropped returns count capacity)
      (fun total ring => .ringsFull total ring capacity) p.unplaced.dropped dropped

namespace Rings

variable (count capacity : Nat) (returns : Array Return)

theorem ring_build {ring : Nat} (below : ring < count) :
    (build count capacity returns).rings.ring ring =
      ((recordsOn returns ring).take capacity).toArray := by
  have held := (build_holds count capacity returns).bucket_eq ring below
  rw [List.map_take, map_val_ofRing] at held
  rw [Rings.ring, Array.getD_eq_getD_getElem?, held]
  rfl

theorem ring_build_beyond {ring : Nat} (beyond : count ≤ ring) :
    (build count capacity returns).rings.ring ring = #[] := by
  have missing : (build count capacity returns).rings.buckets[ring]? = none := by
    rw [Array.getElem?_eq_none_iff, (build_holds count capacity returns).size_eq]
    exact beyond
  rw [Rings.ring, Array.getD_eq_getD_getElem?, missing]
  rfl

/-- Every ring holds records of its number. -/
theorem mem_recordsOn_of_mem_build {ring index : Nat}
    (mem : index ∈ (build count capacity returns).rings.ring ring) :
    index ∈ recordsOn returns ring := by
  rcases Nat.lt_or_ge ring count with below | beyond
  · rw [ring_build count capacity returns below, List.mem_toArray] at mem
    exact List.mem_of_mem_take mem
  · rw [ring_build_beyond count capacity returns beyond] at mem
    exact absurd mem (Array.not_mem_empty index)

theorem skipped_build : (build count capacity returns).unplaced.skipped =
    returns.countP fun r => count ≤ r.ring := by
  rw [(build_holds count capacity returns).skipped_eq, ← Array.countP_toList, ← map_returnAt,
    List.countP_map]
  rfl

theorem dropped_build : (build count capacity returns).unplaced.dropped =
    ∑ ring ∈ Finset.range count, ((recordsOn returns ring).drop capacity).length := by
  rw [(build_holds count capacity returns).dropped_eq, overflow]
  refine Finset.sum_congr rfl fun ring _ => ?_
  rw [List.length_drop, ← map_val_ofRing, List.length_map]

theorem size_build : (build count capacity returns).rings.size =
    ∑ ring ∈ Finset.range count, ((recordsOn returns ring).take capacity).length := by
  have summed (f : Nat → Nat) : ((List.range count).map f).foldr (· + ·) 0 =
      ∑ ring ∈ Finset.range count, f ring := rfl
  rw [Rings.size, (build_holds count capacity returns).toList_buckets, List.map_map, summed]
  refine Finset.sum_congr rfl fun ring _ => ?_
  rw [Function.comp_apply, List.size_toArray, List.map_take, map_val_ofRing]

/-- Rings hold some records, and the others are counted: nothing is lost. -/
theorem total_build : (build count capacity returns).rings.size +
    (build count capacity returns).unplaced.skipped +
      (build count capacity returns).unplaced.dropped = returns.size := by
  have placed : (build count capacity returns).rings.size +
      (build count capacity returns).unplaced.dropped =
        (recordsOf returns).countP fun record => (returnAt returns record).ring < count := by
    rw [size_build, dropped_build, ← Finset.sum_add_distrib, ← sum_length_ofRing]
    refine Finset.sum_congr rfl fun ring _ => ?_
    rw [← List.length_append, List.take_append_drop, ← map_val_ofRing, List.length_map]
  have split := List.length_eq_countP_add_countP (l := recordsOf returns)
    fun record => decide ((returnAt returns record).ring < count)
  simp only [decide_eq_true_eq, Nat.not_lt, List.length_finRange] at split
  rw [(build_holds count capacity returns).skipped_eq] at *
  omega

/-- A record is dropped exactly if the count of dropped records is not zero. -/
theorem dropped_build_pos : 0 < (build count capacity returns).unplaced.dropped ↔
    ∃ index, IsDropped returns count capacity index := by
  rw [dropped_build, Finset.sum_pos_iff]
  constructor
  · rintro ⟨ring, mem, filled⟩
    obtain ⟨index, beyond⟩ := List.length_pos_iff_exists_mem.mp filled
    exact ⟨index, ring, Finset.mem_range.mp mem, beyond⟩
  · rintro ⟨index, ring, below, beyond⟩
    exact ⟨ring, Finset.mem_range.mpr below, List.length_pos_of_mem beyond⟩

theorem skipped_build_pos : 0 < (build count capacity returns).unplaced.skipped ↔
    ∃ index, IsSkipped returns count index := by
  rw [skipped_build, Array.countP_pos_iff]
  constructor
  · rintro ⟨r, mem, beyond⟩
    obtain ⟨index, found⟩ := Array.mem_iff_getElem?.mp mem
    exact ⟨index, r, found, of_decide_eq_true beyond⟩
  · rintro ⟨index, r, found, beyond⟩
    exact ⟨r, Array.mem_of_getElem? found, decide_eq_true beyond⟩

/-- There is a warning of the records that were skipped, and then one of those that were dropped. -/
theorem warns_build : ∃ skipped dropped,
    (build count capacity returns).events count capacity = skipped ++ dropped ∧
      Warns returns (IsSkipped returns count) (fun total ring => .ringsSkipped total ring count)
        (build count capacity returns).unplaced.skipped skipped ∧
      Warns returns (IsDropped returns count capacity)
        (fun total ring => .ringsFull total ring capacity)
        (build count capacity returns).unplaced.dropped dropped := by
  have recalls := build_recalls count capacity returns
  refine ⟨_, _, rfl, ?_, ?_⟩
  · exact recalls.skipped.warns (fun total ring => .ringsSkipped total ring count)
      (kindAt_skips_iff returns count) (skipped_build_pos count capacity returns)
  · exact recalls.dropped.warns (fun total ring => .ringsFull total ring capacity)
      (kindAt_drops_iff returns count capacity) (dropped_build_pos count capacity returns)

/-- Whatever the records hold, however many rings there are and however many records they have
room for: one pass sorts the scan. -/
theorem build_sorts : (build count capacity returns).Sorts returns count capacity := by
  refine ⟨(build_holds count capacity returns).size_eq,
    fun ring below => ring_build count capacity returns below,
    fun ring beyond => ring_build_beyond count capacity returns beyond, ?_, ?_,
    skipped_build count capacity returns, dropped_build count capacity returns,
    total_build count capacity returns, warns_build count capacity returns⟩
  · intro ring
    rcases Nat.lt_or_ge ring count with below | beyond
    · rw [ring_build count capacity returns below]
      exact (pairwise_recordsOn returns ring).sublist (List.take_sublist _ _)
    · rw [ring_build_beyond count capacity returns beyond]
      exact List.Pairwise.nil
  · intro ring other index in_ring in_other
    obtain ⟨r, found, rfl⟩ := (mem_recordsOn returns).mp
      (mem_recordsOn_of_mem_build count capacity returns in_ring)
    obtain ⟨r', found', rfl⟩ := (mem_recordsOn returns).mp
      (mem_recordsOn_of_mem_build count capacity returns in_other)
    rw [Option.some.inj (found.symm.trans found')]

end Rings

end LidarSieve
