import LidarSieve.Filter
import LidarSieve.Proofs.Access
import LidarSieve.Proofs.Shown
import LidarSieve.Proofs.Validity
/-!
# Changes as they are shown

A list of changes is meant to name the parameters that are shown differently before and after
(`Parameters.shownChanges`).  Parameters are compared by their values, though: a not-a-number
differs from itself, and the two zeros do not differ, although they are shown with their signs.
`Parameters.changesFrom_by_shown` says when the two lists are the same.
-/
set_option autoImplicit false

namespace LidarSieve

open LidarSieve.Binary LidarSieve.Text

/-! ## Values -/

theorem Binary.Number.isNaN_of_isZero {f : Format} (x : Number f) (zero : x.isZero = true) :
    x.isNaN = false := by
  have zeroMagnitude : x.magnitude = 0 := of_decide_eq_true zero
  exact decide_eq_false (by omega)

/-- Words are equal as values if they are the same word or zeros both, and numbers. -/
theorem Binary.Number.same_iff {f : Format} {x y : Number f} : x.same y = true ↔
    x.isNaN = false ∧ y.isNaN = false ∧ (x = y ∨ x.isZero = true ∧ y.isZero = true) := by
  have keys : x.key = y.key ↔ x = y ∨ x.isZero = true ∧ y.isZero = true := by
    obtain ⟨negative, magnitude, bounded⟩ := x
    obtain ⟨negative', magnitude', bounded'⟩ := y
    simp only [Number.key, Number.isZero, Number.mk.injEq, decide_eq_true_eq]
    cases negative <;> cases negative' <;> simp <;> omega
  unfold Number.same Number.ordered
  rw [Bool.and_eq_true, Bool.and_eq_true, decide_eq_true_iff, keys, and_assoc]
  simp

theorem toString_nat_inj {m n : Nat} : toString m = toString n ↔ m = n := by
  constructor
  · intro same
    have digits : decimalDigits m = decimalDigits n := by
      unfold decimalDigits
      simpa using congrArg String.toList same
    rw [← valueOfDigits_decimalDigits m, digits, valueOfDigits_decimalDigits]
  · rintro rfl
    rfl

namespace Setting

variable {s t : Setting} {domain : Domain}

/-- A real that is no number. -/
def isNaN : Setting → Bool
  | real x => x.isNaN
  | _ => false

/-- A real that is one of the two zeros. -/
def isZero : Setting → Bool
  | real x => x.isZero
  | _ => false

theorem isNaN_of_isZero (s : Setting) (zero : s.isZero = true) : s.isNaN = false := by
  cases s with
  | real x => exact x.isNaN_of_isZero zero
  | _ => rfl

/-- Values differ if they are not the same, unless both are zero, and where both are no numbers. -/
theorem differs_iff : s.differs t = true ↔
    s ≠ t ∧ ¬ (s.isZero = true ∧ t.isZero = true) ∨ s.isNaN = true ∧ t.isNaN = true := by
  cases s with
  | real x =>
    cases t with
    | real y =>
      have same_kind : x = y → x.isNaN = y.isNaN := congrArg Number.isNaN
      have left := x.isNaN_of_isZero
      have right := y.isNaN_of_isZero
      unfold differs
      rw [Bool.not_eq_true', ← Bool.not_eq_true, Number.same_iff]
      simp only [ne_eq, real.injEq, isZero, isNaN]
      grind
    | _ => simp [differs, isNaN, isZero]
  | _ => simp [differs, isNaN, isZero]

theorem differs_self (s : Setting) : s.differs s = s.isNaN := by
  rw [Bool.eq_iff_iff, differs_iff]
  simp

/-- Values of one domain are shown alike exactly if they are the same, or no numbers both. -/
theorem render_eq_iff (left : s.inDomain domain = true) (right : t.inDomain domain = true) :
    s.render = t.render ↔ s = t ∨ s.isNaN = true ∧ t.isNaN = true := by
  match domain, s, t, left, right with
  | .real, .real x, .real y, _, _ =>
    simp only [render, Number.detailed_eq_iff, real.injEq, isNaN]
  | .count _, .count m, .count n, _, _ =>
    simp only [render, count.injEq, isNaN, Bool.false_eq_true, and_self, or_false]
    exact toString_nat_inj
  | .flag, .flag b, .flag c, _, _ =>
    cases b <;> cases c <;> decide
  | .mode, .mode m, .mode n, _, _ =>
    cases m <;> cases n <;> decide

end Setting

/-! ## Parameters -/

namespace Parameters

variable {p new old : Parameters} {key : Key}

/-- The parameters that are shown differently than before, in the order of declaration. -/
def shownChanges (new old : Parameters) : List Change :=
  (Key.all.filter fun key => (old.get key).render != (new.get key).render).map fun key =>
    ⟨key, (old.get key).render, (new.get key).render⟩

/-- The value of the parameter was no number and is none. -/
def StaysNaN (new old : Parameters) (key : Key) : Prop :=
  (old.get key).isNaN = true ∧ (new.get key).isNaN = true

/-- The value of the parameter was one zero and is the other one. -/
def TurnsZero (new old : Parameters) (key : Key) : Prop :=
  (old.get key).isZero = true ∧ (new.get key).isZero = true ∧ old.get key ≠ new.get key

instance : Decidable (StaysNaN new old key) := inferInstanceAs (Decidable (_ ∧ _))

instance : Decidable (TurnsZero new old key) := inferInstanceAs (Decidable (_ ∧ _ ∧ _))

theorem not_staysNaN_of_turnsZero (zero : TurnsZero new old key) : ¬ StaysNaN new old key := by
  intro nan
  have number := (old.get key).isNaN_of_isZero zero.1
  rw [nan.1] at number
  cases number

theorem render_get_eq_iff (new old : Parameters) (key : Key) :
    (old.get key).render = (new.get key).render ↔ old.get key = new.get key ∨ StaysNaN new old key :=
  Setting.render_eq_iff (old.inDomain_get key) (new.inDomain_get key)

/-- A parameter differs if it is shown differently, unless it turns from zero to zero, and if it
stays a not-a-number. -/
theorem differs_get_iff (new old : Parameters) (key : Key) :
    (old.get key).differs (new.get key) = true ↔
      (old.get key).render ≠ (new.get key).render ∧ ¬ TurnsZero new old key ∨
        StaysNaN new old key := by
  rw [Setting.differs_iff, Ne, Ne, render_get_eq_iff]
  unfold TurnsZero StaysNaN
  tauto

theorem mem_changesFrom_iff {change : Change} : change ∈ new.changesFrom old ↔
    change.old = (old.get change.key).render ∧ change.new = (new.get change.key).render ∧
      (old.get change.key).differs (new.get change.key) = true := by
  unfold changesFrom
  rw [List.mem_map]
  constructor
  · rintro ⟨key, held, rfl⟩
    exact ⟨rfl, rfl, (List.mem_filter.mp held).2⟩
  · obtain ⟨key, before, after⟩ := change
    rintro ⟨shown, shown', differs⟩
    refine ⟨key, List.mem_filter.mpr ⟨key.mem_all, differs⟩, ?_⟩
    rw [← shown, ← shown']

theorem keys_changesFrom (new old : Parameters) : (new.changesFrom old).map Change.key =
    Key.all.filter fun key => (old.get key).differs (new.get key) := by
  unfold changesFrom
  rw [List.map_map]
  exact List.map_id _

/-- The changes are those that are shown, unless a parameter stays a not-a-number or turns from zero
to zero. -/
theorem changesFrom_eq_shownChanges_iff : new.changesFrom old = new.shownChanges old ↔
    ∀ key, ¬ StaysNaN new old key ∧ ¬ TurnsZero new old key := by
  have keys : (new.shownChanges old).map Change.key =
      Key.all.filter fun key => (old.get key).render != (new.get key).render := by
    unfold shownChanges
    rw [List.map_map]
    exact List.map_id _
  constructor
  · intro same key
    have alike : (old.get key).differs (new.get key) = true ↔
        (old.get key).render ≠ (new.get key).render := by
      have lists := congrArg (fun changes => key ∈ changes.map Change.key) same
      simpa [keys_changesFrom, keys, List.mem_filter, key.mem_all] using lists
    have shown := render_get_eq_iff new old key
    rw [differs_get_iff] at alike
    constructor
    · intro nan
      exact alike.mp (.inr nan) (shown.mpr (.inr nan))
    · intro zero
      have number := not_staysNaN_of_turnsZero zero
      have apart : (old.get key).render ≠ (new.get key).render := fun same =>
        (shown.mp same).elim zero.2.2 number
      exact (alike.mpr apart).elim (fun signed => signed.2 zero) number
  · intro unlisted
    unfold changesFrom shownChanges
    congr 1
    apply List.filter_congr
    intro key _
    have shown := render_get_eq_iff new old key
    rw [Bool.eq_iff_iff, differs_get_iff, bne_iff_ne]
    obtain ⟨number, signed⟩ := unlisted key
    tauto

/-- Of valid parameters only the unguarded ones may be no numbers. -/
theorem isNaN_get_of_valid (valid : p.validate = .ok ()) (guarded : key ∉ Key.unguarded) :
    (p.get key).isNaN = false := by
  obtain ⟨low, order, high⟩ := degrees_of_valid valid
  cases key with
  | distanceRatio => exact Number.isNaN_of_isFinite (ratio_of_valid valid).1
  | objectLengthThreshold => exact Number.isNaN_of_isFinite (length_of_valid valid).1
  | minAzimuthDeg => exact (Number.le_iff.mp low).2.1
  | maxAzimuthDeg => exact (Number.le_iff.mp high).1
  | xMin | xMax | yMin | yMax | zMin | zMax | maxDistance | maxAzimuthDiff =>
    exact absurd (by decide) guarded
  | _ => rfl

end Parameters

/-! ## Reports of changes -/

/-- What changing parameters reports. -/
theorem Filter.reports_update (filter : Filter) (change : Parameters → Parameters) :
    (filter.update change).2 =
      if (change filter.current.parameters).validate = .ok () then
        ((change filter.current.parameters).changesFrom filter.current.parameters).map
          (Change.event (filter.current.version + 1))
      else [] := by
  unfold update
  dsimp only
  cases (change filter.current.parameters).validate <;> simp

/-- The changes of parameters stand in the order of declaration, no parameter twice, each with its
two values as they are shown.  They are the parameters that are shown differently, but for those
that turn from zero to zero, which are missing, and those that stay a not-a-number, which are listed
as well.  So they are the list that is meant, exactly if no parameter does either; and parameters
that have not changed at all have no changes, exactly if all of them are numbers.  Of valid
parameters the unguarded ones may be none.  Changing parameters reports the changes that are
listed. -/
theorem Parameters.changesFrom_by_shown (new old : Parameters) :
    ((new.changesFrom old).map Change.key).Sublist Key.all ∧
      ((new.changesFrom old).map Change.key).Nodup ∧
      (∀ change, change ∈ new.changesFrom old ↔
        change.old = (old.get change.key).render ∧ change.new = (new.get change.key).render ∧
          (change.old ≠ change.new ∧ ¬ TurnsZero new old change.key ∨
            StaysNaN new old change.key)) ∧
      (new.changesFrom old = new.shownChanges old ↔
        ∀ key, ¬ StaysNaN new old key ∧ ¬ TurnsZero new old key) ∧
      (new.changesFrom new = [] ↔ ∀ key, (new.get key).isNaN = false) ∧
      (new.validate = .ok () → ∀ key ∉ Key.unguarded, (new.get key).isNaN = false) ∧
      ∀ version region change, change old = new →
        (Filter.update ⟨version, old, region⟩ change).2 =
          if new.validate = .ok () then (new.changesFrom old).map (Change.event (version + 1))
          else [] := by
  refine ⟨?_, ?_, ?_, changesFrom_eq_shownChanges_iff, ?_, fun valid _ => isNaN_get_of_valid valid,
    ?_⟩
  · rw [keys_changesFrom]
    exact List.filter_sublist
  · rw [keys_changesFrom]
    exact Key.nodup_all.filter _
  · intro change
    rw [mem_changesFrom_iff]
    refine and_congr_right fun before => and_congr_right fun after => ?_
    rw [differs_get_iff, before, after]
  · rw [← List.map_eq_nil_iff (f := Change.key), keys_changesFrom, List.filter_eq_nil_iff]
    simp [Setting.differs_self, Key.mem_all]
  · rintro version region change rfl
    exact Filter.reports_update ⟨⟨version, old, region⟩⟩ change

/-- Valid parameters whose greatest range is no number. -/
def rangelessParameters : Parameters := { Parameters.standard with maxDistance := Number.nan }

/-- Valid parameters with a bound that is the negative zero, instead of the positive one. -/
def signedParameters : Parameters := { Parameters.standard with zMin := -0 }

theorem Parameters.changesFrom_rangelessParameters :
    rangelessParameters.validate = .ok () ∧
      rangelessParameters.changesFrom rangelessParameters = [⟨.maxDistance, "NaN", "NaN"⟩] ∧
      rangelessParameters.shownChanges rangelessParameters = [] ∧
      standard.validate = .ok () ∧ signedParameters.validate = .ok () ∧
      signedParameters.changesFrom standard = [] ∧
      signedParameters.shownChanges standard = [⟨.zMin, "0.0", "-0.0"⟩] := by
  decide +kernel

end LidarSieve
