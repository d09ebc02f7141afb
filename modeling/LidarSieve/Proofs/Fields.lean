import Mathlib.Data.List.Forall2
import LidarSieve.Proofs.Reading
/-!
# The fields of a layout

A layout is found by looking up seven needed fields (`Layout.needed`), one after the other.  Each
is provided at an offset (`Cloud.Provides`) or lacking for one of three reasons
(`Cloud.Lacks`).  `Layout.ofCloud_by_fields` says when there is a layout, which offsets it holds,
and which fault is reported where there is none: the one of the first needed field that is
lacking.  Fields that are not needed, or come behind one of the same name, have no say in it.
-/
set_option autoImplicit false

namespace LidarSieve

/-! ## Traversals that may fail -/

section Traversal

variable {ε α β : Type} {f : α → Except ε β}

/-- A traversal succeeds with the images of the elements, one by one. -/
theorem mapM_eq_ok_iff {items : List α} {images : List β} :
    items.mapM f = .ok images ↔
      List.Forall₂ (fun item image => f item = .ok image) items images := by
  induction items generalizing images with
  | nil =>
    rw [List.mapM_nil, List.forall₂_nil_left_iff]
    exact ⟨fun done => (Except.ok.inj done).symm, fun empty => congrArg Except.ok empty.symm⟩
  | cons item rest ih =>
    rw [List.mapM_cons, List.forall₂_cons_left_iff]
    simp only [bind_eq_ok_iff, ih]
    constructor
    · rintro ⟨image, found, others, each, built⟩
      exact ⟨image, others, found, each, (Except.ok.inj built).symm⟩
    · rintro ⟨image, others, found, each, rfl⟩
      exact ⟨image, found, others, each, rfl⟩

/-- A traversal fails as the first element fails that has no image. -/
theorem mapM_eq_error_iff {items : List α} {fault : ε} :
    items.mapM f = .error fault ↔
      ∃ before item behind, items = before ++ item :: behind ∧
        (∀ earlier ∈ before, ∃ image, f earlier = .ok image) ∧ f item = .error fault := by
  induction items with
  | nil => simp [pure, Except.pure]
  | cons first rest ih =>
    rw [List.mapM_cons]
    cases found : f first with
    | error other =>
      constructor
      · intro failed
        cases failed
        exact ⟨[], first, rest, rfl, by simp, found⟩
      · rintro ⟨before, item, behind, split, passed, failed⟩
        cases before with
        | nil =>
          obtain ⟨rfl, -⟩ := List.cons.inj split
          cases found.symm.trans failed
          rfl
        | cons earlier before =>
          obtain ⟨rfl, -⟩ := List.cons.inj split
          obtain ⟨image, ok⟩ := passed first List.mem_cons_self
          cases found.symm.trans ok
    | ok image =>
      have behind_first :
          (Except.ok image >>= fun image => rest.mapM f >>= fun others =>
            pure (image :: others)) = .error fault ↔ rest.mapM f = .error fault := by
        cases rest.mapM f <;> simp [bind, Except.bind, pure, Except.pure]
      rw [behind_first, ih]
      constructor
      · rintro ⟨before, item, behind, rfl, passed, failed⟩
        exact ⟨first :: before, item, behind, rfl,
          List.forall_mem_cons.mpr ⟨⟨image, found⟩, passed⟩, failed⟩
      · rintro ⟨before, item, behind, split, passed, failed⟩
        cases before with
        | nil =>
          obtain ⟨rfl, -⟩ := List.cons.inj split
          cases found.symm.trans failed
        | cons earlier before =>
          obtain ⟨-, rfl⟩ := List.cons.inj split
          exact ⟨before, item, behind, rfl, (List.forall_mem_cons.mp passed).2, failed⟩

end Traversal

/-! ## Declared fields -/

/-- What a declared field says about a record: there is a scalar of this kind, by this name, at
this offset. -/
def Field.place (field : Field) : String × UInt32 × Scalar :=
  (field.name, field.offset, field.kind)

namespace Cloud

/-- The field is the first of its name. -/
def Declares (cloud : Cloud) (name : String) (field : Field) : Prop :=
  ∃ before behind, cloud.fields = before ++ field :: behind ∧ field.name = name ∧
    ∀ earlier ∈ before, earlier.name ≠ name

variable {cloud other : Cloud} {name : String}

theorem field?_eq_some_iff {field : Field} :
    cloud.field? name = some field ↔ cloud.Declares name field := by
  unfold field? Declares
  rw [List.find?_eq_some_iff_append]
  constructor
  · rintro ⟨named, before, behind, split, others⟩
    exact ⟨before, behind, split, by simpa using named, by simpa using others⟩
  · rintro ⟨before, behind, split, named, others⟩
    exact ⟨by simpa using named, before, behind, split, by simpa using others⟩

theorem field?_eq_none_iff :
    cloud.field? name = none ↔ ∀ field ∈ cloud.fields, field.name ≠ name := by
  unfold field?
  rw [List.find?_eq_none]
  simp

/-- A field of another name, or behind one of the same name, does not count. -/
theorem field?_erase {before behind : List Field} {extra : Field}
    (split : cloud.fields = before ++ extra :: behind)
    (hidden : extra.name = name → ∃ earlier ∈ before, earlier.name = name) :
    ({ cloud with fields := before ++ behind } : Cloud).field? name = cloud.field? name := by
  unfold field?
  rw [split, List.find?_append, List.find?_append, List.find?_cons]
  by_cases named : extra.name = name
  · obtain ⟨earlier, mem, same⟩ := hidden named
    have first : (before.find? (·.name == name)).isSome :=
      List.find?_isSome.mpr ⟨earlier, mem, beq_iff_eq.mpr same⟩
    rw [Option.or_of_isSome first, Option.or_of_isSome first]
  · rw [beq_eq_false_iff_ne.mpr named]

/-- Only the places of fields count. -/
theorem map_place_field? (same : other.fields.map Field.place = cloud.fields.map Field.place) :
    (other.field? name).map Field.place = (cloud.field? name).map Field.place := by
  have places (cloud : Cloud) : (cloud.field? name).map Field.place =
      (cloud.fields.map Field.place).find? (·.1 == name) := by
    rw [List.find?_map]
    rfl
  rw [places, places, same]

end Cloud

/-! ## Needed fields -/

/-- A field that is needed: its name, and the kind of scalar that it is read as. -/
structure Need where
  name : String
  kind : Scalar
  deriving DecidableEq, Repr

namespace Cloud

/-- The first field of the needed name is of the needed kind, and ends inside the record. -/
def Provides (cloud : Cloud) (need : Need) (offset : Nat) : Prop :=
  ∃ field, cloud.Declares need.name field ∧ field.kind = need.kind ∧
    field.offset.toNat + need.kind.size ≤ cloud.pointStep.toNat ∧ offset = field.offset.toNat

/-- Why a needed field is lacking.  A reason counts only where those before it do not hold. -/
inductive Lacks (cloud : Cloud) (need : Need) : Fault → Prop
  /-- There is no field of its name. -/
  | undeclared (absent : ∀ field ∈ cloud.fields, field.name ≠ need.name) :
      Lacks cloud need (.missingField need.name)
  /-- The first field of its name is of another kind. -/
  | ofOtherKind (field : Field) (declared : cloud.Declares need.name field)
      (other : field.kind ≠ need.kind) :
      Lacks cloud need (.fieldType need.name need.kind field.kind)
  /-- The first field of its name is of its kind, and reaches past the end of the record. -/
  | outside (field : Field) (declared : cloud.Declares need.name field)
      (kind : field.kind = need.kind)
      (past : cloud.pointStep.toNat < field.offset.toNat + need.kind.size) :
      Lacks cloud need (.fieldOutOfBounds need.name field.offset cloud.pointStep)

end Cloud

namespace Layout

variable {cloud other : Cloud} {layout : Layout} {fault : Fault} {need : Need}

/-- Looks up a needed field. -/
def lookUp (cloud : Cloud) (need : Need) : Except Fault Nat := offsetOf cloud need.name need.kind

theorem lookUp_eq_ok_iff {offset : Nat} :
    lookUp cloud need = .ok offset ↔ cloud.Provides need offset := by
  simp only [lookUp, offsetOf_eq_ok_iff, Cloud.field?_eq_some_iff, Cloud.Provides]

theorem lookUp_eq_error_iff : lookUp cloud need = .error fault ↔ cloud.Lacks need fault := by
  unfold lookUp offsetOf
  constructor
  · intro failed
    cases found : cloud.field? need.name with
    | none =>
      rw [found] at failed
      cases failed
      exact .undeclared (Cloud.field?_eq_none_iff.mp found)
    | some field =>
      have declared := Cloud.field?_eq_some_iff.mp found
      simp only [found] at failed
      split at failed
      next other =>
        cases failed
        exact .ofOtherKind field declared other
      next kind =>
        split at failed
        next past =>
          cases failed
          exact .outside field declared (not_not.mp kind) past
        · cases failed
  · intro lacks
    cases lacks with
    | undeclared absent => rw [Cloud.field?_eq_none_iff.mpr absent]
    | ofOtherKind field declared other =>
      rw [Cloud.field?_eq_some_iff.mpr declared]
      exact if_pos other
    | outside field declared kind past =>
      rw [Cloud.field?_eq_some_iff.mpr declared]
      simp only [kind, ne_eq, not_true_eq_false, if_false, past, if_true]

/-- A needed field is looked up by the place of the first field of its name. -/
theorem lookUp_congr (step : other.pointStep = cloud.pointStep)
    (place : (other.field? need.name).map Field.place =
      (cloud.field? need.name).map Field.place) : lookUp other need = lookUp cloud need := by
  unfold lookUp offsetOf
  cases found : other.field? need.name with
  | none =>
    rw [found] at place
    rw [Option.map_eq_none_iff.mp place.symm]
  | some field =>
    rw [found] at place
    obtain ⟨twin, declared, same⟩ := Option.map_eq_some_iff.mp place.symm
    obtain ⟨-, offset, kind⟩ :
        twin.name = field.name ∧ twin.offset = field.offset ∧ twin.kind = field.kind := by
      simpa [Field.place] using same
    simp only [declared, offset, kind, step]

/-! ## Layouts -/

/-- The fields that filtering needs, in the order in which they are looked up. -/
def needed : List Need :=
  [⟨"x", .float32⟩, ⟨"y", .float32⟩, ⟨"z", .float32⟩, ⟨"intensity", .float32⟩, ⟨"ring", .uint16⟩,
   ⟨"azimuth", .float32⟩, ⟨"distance", .float32⟩]

/-- The offsets that the layout holds, in the order of the needed fields. -/
def offsets (layout : Layout) : List Nat :=
  [layout.x, layout.y, layout.z, layout.intensity, layout.ring, layout.azimuth, layout.distance]

theorem ofCloud_of_zeroStride (zero : cloud.pointStep = 0) : ofCloud cloud = .error .zeroStride :=
  if_pos zero

/-- Where records have octets, a layout is found by looking up the needed fields. -/
theorem map_offsets_ofCloud (stride : cloud.pointStep ≠ 0) :
    offsets <$> ofCloud cloud = needed.mapM (lookUp cloud) := by
  simp [ofCloud, stride, needed, lookUp, offsets]

theorem eq_of_offsets {twin : Layout} (step : twin.step = layout.step)
    (order : twin.order = layout.order) (offsets : twin.offsets = layout.offsets) :
    twin = layout := by
  cases twin
  cases layout
  simp_all [Layout.offsets]

/-- The layout of a cloud is the one that holds its stride, its order of octets and the offsets
at which it provides the needed fields. -/
theorem ofCloud_eq_ok_iff :
    ofCloud cloud = .ok layout ↔
      cloud.pointStep ≠ 0 ∧ layout.step = cloud.pointStep.toNat ∧
        layout.order = .ofFlag cloud.bigEndian ∧
        List.Forall₂ cloud.Provides needed layout.offsets := by
  have looked_up : needed.mapM (lookUp cloud) = .ok layout.offsets ↔
      List.Forall₂ cloud.Provides needed layout.offsets := by
    simp only [mapM_eq_ok_iff, lookUp_eq_ok_iff]
  rw [← looked_up]
  constructor
  · intro found
    have stride : cloud.pointStep ≠ 0 := by
      intro zero
      cases (ofCloud_of_zeroStride zero).symm.trans found
    obtain ⟨step, order⟩ := header_of_ofCloud found
    refine ⟨stride, step, order, ?_⟩
    rw [← map_offsets_ofCloud stride, found]
    rfl
  · rintro ⟨stride, step, order, offsets⟩
    rw [← map_offsets_ofCloud stride] at offsets
    cases found : ofCloud cloud with
    | error fault =>
      rw [found] at offsets
      cases offsets
    | ok twin =>
      rw [found] at offsets
      obtain ⟨same_step, same_order⟩ := header_of_ofCloud found
      rw [eq_of_offsets (same_step.trans step.symm) (same_order.trans order.symm)
        (Except.ok.inj offsets)]

/-- Where there is no layout, the fault is that of the first needed field that is lacking. -/
theorem ofCloud_eq_error_iff :
    ofCloud cloud = .error fault ↔
      cloud.pointStep = 0 ∧ fault = .zeroStride ∨
      cloud.pointStep ≠ 0 ∧ ∃ before need behind, needed = before ++ need :: behind ∧
        (∀ earlier ∈ before, ∃ offset, cloud.Provides earlier offset) ∧
        cloud.Lacks need fault := by
  by_cases zero : cloud.pointStep = 0
  · rw [ofCloud_of_zeroStride zero]
    simp [zero, eq_comm]
  · have looked_up : ofCloud cloud = .error fault ↔
        needed.mapM (lookUp cloud) = .error fault := by
      rw [← map_offsets_ofCloud zero]
      cases ofCloud cloud <;> simp [Functor.map, Except.map]
    rw [looked_up, mapM_eq_error_iff]
    simp only [lookUp_eq_ok_iff, lookUp_eq_error_iff, zero, ne_eq, not_false_eq_true, false_and,
      true_and, false_or]

/-- There is a layout exactly if records have octets and all that is needed is provided. -/
theorem exists_ofCloud_iff_provides :
    (∃ layout, ofCloud cloud = .ok layout) ↔
      cloud.pointStep ≠ 0 ∧ ∀ need ∈ needed, ∃ offset, cloud.Provides need offset := by
  constructor
  · rintro ⟨layout, found⟩
    obtain ⟨stride, -, -, each⟩ := ofCloud_eq_ok_iff.mp found
    have marked := each.imp fun need offset provided =>
      (⟨⟨offset, provided⟩, provided⟩ :
        (∃ offset, cloud.Provides need offset) ∧ cloud.Provides need offset)
    exact ⟨stride, ((List.forall₂_and_left _ _).mp marked).1⟩
  · rintro ⟨stride, provided⟩
    cases found : ofCloud cloud with
    | ok layout => exact ⟨layout, rfl⟩
    | error fault =>
      obtain ⟨zero, -⟩ | ⟨-, before, need, behind, split, -, lacks⟩ :=
        ofCloud_eq_error_iff.mp found
      · exact absurd zero stride
      · have mem : need ∈ needed := by rw [split]; exact List.mem_append_cons_self
        obtain ⟨offset, provided⟩ := provided need mem
        cases (lookUp_eq_error_iff.mpr lacks).symm.trans (lookUp_eq_ok_iff.mpr provided)

/-- Two clouds with the same stride and order of octets whose first fields of the needed names
are in the same places have the same layout. -/
theorem ofCloud_congr (step : other.pointStep = cloud.pointStep)
    (order : other.bigEndian = cloud.bigEndian)
    (places : ∀ need ∈ needed, (other.field? need.name).map Field.place =
      (cloud.field? need.name).map Field.place) : ofCloud other = ofCloud cloud := by
  have each : ∀ need ∈ needed, lookUp other need = lookUp cloud need :=
    fun need mem => lookUp_congr step (places need mem)
  simp only [needed, lookUp, List.forall_mem_cons] at each
  obtain ⟨x, y, z, intensity, ring, azimuth, distance, -⟩ := each
  simp only [ofCloud, step, order, x, y, z, intensity, ring, azimuth, distance]

/-- What a cloud declares about the needed fields decides on its layout:

* there is one exactly if records have octets, and the first field of each needed name is of the
  needed kind and ends inside the record;
* it holds the offsets of those fields, the stride and the order of octets;
* where there is none, the fault is that records have no octets, or else the one of the first
  needed field that is lacking;
* a field that is not needed, or comes behind one of the same name, can as well be left out;
* nothing counts but the stride, the order of octets, and the names, offsets and kinds of the
  fields: not how often a field is counted, nor what else the cloud holds. -/
theorem ofCloud_by_fields (cloud : Cloud) :
    ((∃ layout, ofCloud cloud = .ok layout) ↔
      cloud.pointStep ≠ 0 ∧ ∀ need ∈ needed, ∃ offset, cloud.Provides need offset) ∧
    (∀ layout, ofCloud cloud = .ok layout ↔
      cloud.pointStep ≠ 0 ∧ layout.step = cloud.pointStep.toNat ∧
        layout.order = .ofFlag cloud.bigEndian ∧
        List.Forall₂ cloud.Provides needed layout.offsets) ∧
    (∀ fault, ofCloud cloud = .error fault ↔
      cloud.pointStep = 0 ∧ fault = .zeroStride ∨
      cloud.pointStep ≠ 0 ∧ ∃ before need behind, needed = before ++ need :: behind ∧
        (∀ earlier ∈ before, ∃ offset, cloud.Provides earlier offset) ∧
        cloud.Lacks need fault) ∧
    (∀ before extra behind, cloud.fields = before ++ extra :: behind →
      (∃ earlier ∈ before, earlier.name = extra.name) ∨
        (∀ need ∈ needed, need.name ≠ extra.name) →
      ofCloud { cloud with fields := before ++ behind } = ofCloud cloud) ∧
    ∀ other : Cloud, other.pointStep = cloud.pointStep → other.bigEndian = cloud.bigEndian →
      other.fields.map Field.place = cloud.fields.map Field.place →
      ofCloud other = ofCloud cloud := by
  refine ⟨exists_ofCloud_iff_provides, fun layout => ofCloud_eq_ok_iff,
    fun fault => ofCloud_eq_error_iff, ?_, ?_⟩
  · intro before extra behind split idle
    refine ofCloud_congr rfl rfl fun need mem => ?_
    rw [Cloud.field?_erase split]
    intro named
    obtain ⟨earlier, in_front, same⟩ | unneeded := idle
    · exact ⟨earlier, in_front, same.trans named⟩
    · exact absurd named.symm (unneeded need mem)
  · intro other step order same
    exact ofCloud_congr step order fun need _ => Cloud.map_place_field? same

/-- A cloud whose intensity lies past every record and whose ring is of the wrong kind.  Further
fields of both names are in order. -/
def crookedCloud : Cloud where
  header := ⟨"lidar", 0⟩
  height := 1
  width := 0
  fields :=
    [{ name := "x", offset := 0, kind := .float32 },
     { name := "y", offset := 4, kind := .float32 },
     { name := "z", offset := 8, kind := .float32 },
     { name := "intensity", offset := 4294967295, kind := .float32 },
     { name := "ring", offset := 16, kind := .uint8 },
     { name := "intensity", offset := 12, kind := .float32 },
     { name := "ring", offset := 16, kind := .uint16 },
     { name := "distance", offset := 28, kind := .float32 }]
  bigEndian := true
  pointStep := sensorStep
  rowStep := 0
  data := #[]
  dense := true

/-- The intensity is reported, although the ring is of the wrong kind and there is no azimuth.  It
makes no difference if the second intensity is left out, or the first one is counted twice. -/
theorem ofCloud_crookedCloud_by_fields :
    Layout.ofCloud crookedCloud = .error (.fieldOutOfBounds "intensity" 4294967295 48) ∧
      Layout.ofCloud { crookedCloud with fields := crookedCloud.fields.eraseIdx 5 } =
        Layout.ofCloud crookedCloud ∧
      Layout.ofCloud { crookedCloud with
        fields := crookedCloud.fields.modify 3 fun field => { field with count := 2 } } =
          Layout.ofCloud crookedCloud := by
  obtain ⟨-, -, refused, erased, congr⟩ := ofCloud_by_fields crookedCloud
  refine ⟨(refused _).mpr (.inr ⟨by decide, needed.take 3, ⟨"intensity", .float32⟩, needed.drop 4,
    rfl, ?_, lookUp_eq_error_iff.mp (by decide)⟩), ?_, congr _ rfl rfl (by decide)⟩
  · simp only [needed, List.take_succ_cons, List.take_zero, List.forall_mem_cons]
    exact ⟨⟨0, lookUp_eq_ok_iff.mp (by decide)⟩, ⟨4, lookUp_eq_ok_iff.mp (by decide)⟩,
      ⟨8, lookUp_eq_ok_iff.mp (by decide)⟩, List.forall_mem_nil _⟩
  · exact erased (crookedCloud.fields.take 5) _ (crookedCloud.fields.drop 6) rfl
      (.inl (by decide))

end Layout

end LidarSieve
