import Mathlib.Data.List.Find
import LidarSieve.Settings.Reader
import LidarSieve.Settings.Overrides
import LidarSieve.Parameters.Rules
import LidarSieve.Proofs.Documents
/-!
# Access to parameters by key

`get` and `set` behave as on a record with one field for each key: a value that is in the domain
of a key is the one that is got after it is set, no other key sees it, and parameters with the
same values under all keys are the same.  So the parameters after several values have been set,
each under a key of its own, are known key by key (`Parameters.get_setAll?`).
-/
set_option autoImplicit false

namespace LidarSieve

open LidarSieve.Toml

/-! ## Keys -/

namespace Key

theorem mem_all (key : Key) : key ∈ all := by cases key <;> decide

theorem nodup_all : all.Nodup := by decide

/-- A key is found under its name. -/
theorem ofName?_name (key : Key) : ofName? key.name = some key := by
  cases key <;> decide

/-- Only under its name is a key found. -/
theorem name_of_ofName? {name : String} {key : Key} (found : ofName? name = some key) :
    key.name = name := by
  have same := List.find?_some found
  exact eq_of_beq same

end Key

/-! ## Getting what was set -/

namespace Parameters

variable {p q : Parameters} {key other : Key} {value : Setting}

/-- Every value is in the domain of its key. -/
theorem inDomain_get (p : Parameters) (key : Key) : (p.get key).inDomain key.domain = true := by
  cases key with
  | numPointsThreshold => exact decide_eq_true p.numPointsThreshold.toNat_lt
  | maxRings => exact decide_eq_true p.maxRings.toNat_lt
  | maxPointsPerRing => exact decide_eq_true p.maxPointsPerRing.toNat_lt
  | verticalBins => exact decide_eq_true p.verticalBins.toNat_lt
  | noiseThreshold => exact decide_eq_true p.noiseThreshold.toNat_lt
  | _ => rfl

theorem get_set_self (fits : value.inDomain key.domain = true) :
    (p.set key value).get key = value := by
  unfold set
  rw [if_pos fits]
  cases key <;> cases value <;> first
    | rfl
    | exact congrArg Setting.count (Nat.mod_eq_of_lt (of_decide_eq_true fits))
    | cases fits

theorem get_set_of_ne (ne : other ≠ key) : (p.set key value).get other = p.get other := by
  unfold set
  split
  · cases key <;> cases value <;> first
      | rfl
      | cases other <;> first
        | rfl
        | exact absurd rfl ne
  · rfl

/-! ## Rules -/

/-- Parameters that every rule says the same about are valid together, or have the same fault. -/
theorem validate_eq_of_rules (same : ∀ rule ∈ rules,
    rule.holds p = rule.holds q ∧ rule.complaint p = rule.complaint q) :
    p.validate = q.validate := by
  have found : rules.find? (fun rule => !rule.holds p) =
      rules.find? (fun rule => !rule.holds q) :=
    List.find?_congr fun rule listed => by rw [(same rule listed).1]
  unfold validate
  rw [found]
  cases broken : rules.find? (fun rule => !rule.holds q) with
  | none => rfl
  | some rule => simp only [(same rule (List.mem_of_find?_eq_some broken)).2]

/-- No rule is about publishing rejected points. -/
theorem validate_publish (p : Parameters) (flag : Bool) :
    ({ p with publishNoisePoints := flag } : Parameters).validate = p.validate := by
  refine validate_eq_of_rules fun rule listed => ?_
  simp only [rules, List.mem_cons, List.not_mem_nil, or_false] at listed
  rcases listed with rfl | rfl | rfl | rfl | rfl | rfl | rfl | rfl | rfl <;> exact ⟨rfl, rfl⟩

end Parameters

/-! ## Setting several values -/

/-- What is read from a value is in the domain that it is read for. -/
theorem Setting.inDomain_of_ofValue? {domain : Domain} {value : Value} {setting : Setting}
    {events : List Event} (read : ofValue? domain value = some (setting, events)) :
    setting.inDomain domain = true := by
  unfold ofValue? at read
  split at read
  · obtain ⟨x, -, same⟩ := Option.map_eq_some_iff.mp read
    cases same
    rfl
  · split at read
    · rename_i below
      cases read
      exact decide_eq_true below
    · cases read
  · cases read
    rfl
  · cases read
    rfl
  · cases read

/-- What is read from a text is in the domain that it is read for. -/
theorem Setting.inDomain_of_parse? {domain : Domain} {text : String} {setting : Setting}
    {events : List Event} (read : parse? domain text = some (setting, events)) :
    setting.inDomain domain = true := by
  cases domain with
  | real =>
    obtain ⟨x, -, same⟩ := Option.map_eq_some_iff.mp read
    cases same
    rfl
  | count bound =>
    obtain ⟨n, counted, same⟩ := Option.map_eq_some_iff.mp read
    cases same
    unfold Text.readCount? at counted
    simp only [Option.ite_none_left_eq_some, Option.ite_none_right_eq_some,
      Option.some.injEq] at counted
    obtain ⟨-, below, rfl⟩ := counted
    exact decide_eq_true below
  | flag =>
    simp only [parse?] at read
    split at read
    · cases read
      rfl
    · split at read
      · cases read
        rfl
      · cases read
  | mode =>
    cases read
    rfl

namespace Parameters

/-- If the first of several values can be set and then the others, all of them can be set. -/
theorem setAll?_cons_eq_some_iff {key : Key} {value : Value} {rest : List (Key × Value)}
    {p q : Parameters} :
    (setAll? ((key, value) :: rest) p).1 = some q ↔
      ∃ setting events, Setting.ofValue? key.domain value = some (setting, events) ∧
        (setAll? rest (p.set key setting)).1 = some q := by
  rw [setAll?]
  cases read : Setting.ofValue? key.domain value with
  | none => simp
  | some result =>
    obtain ⟨setting, events⟩ := result
    simp

/-- Values that fit their keys can be set, and are reported on by nobody if each of them is read
without a report. -/
theorem setAll?_of_fits {keys : List Key} {value : Key → Value} {setting : Key → Setting}
    (fits : ∀ key ∈ keys, Setting.ofValue? key.domain (value key) = some (setting key, []))
    (p : Parameters) :
    ∃ q, setAll? (keys.map fun key => (key, value key)) p = (some q, []) := by
  induction keys generalizing p with
  | nil => exact ⟨p, rfl⟩
  | cons key rest ih =>
    obtain ⟨q, others⟩ := ih (fun key mem => fits key (List.mem_cons_of_mem _ mem))
      (p.set key (setting key))
    refine ⟨q, ?_⟩
    rw [List.map_cons, setAll?, fits key List.mem_cons_self]
    dsimp only
    rw [others]
    rfl

/-- After values have been set, each under a key of its own, a key has the value that was set for
it, and its old one if none was. -/
theorem get_setAll? {entries : List (Key × Value)} {p q : Parameters}
    (nodup : (entries.map Prod.fst).Nodup) (set : (setAll? entries p).1 = some q) (key : Key) :
    q.get key =
      ((entries.lookup key).bind (Setting.ofValue? key.domain)).elim (p.get key) Prod.fst := by
  induction entries generalizing p with
  | nil =>
    cases set
    rfl
  | cons entry rest ih =>
    obtain ⟨first, value⟩ := entry
    obtain ⟨setting, events, read, others⟩ := setAll?_cons_eq_some_iff.mp set
    rw [List.map_cons, List.nodup_cons] at nodup
    have known := ih nodup.2 others
    by_cases same : key = first
    · subst same
      rw [lookup_eq_none_of_not_mem nodup.1] at known
      rw [known, List.lookup_cons_self, Option.bind_some, read]
      exact get_set_self (Setting.inDomain_of_ofValue? read)
    · rw [known, List.lookup_cons, beq_false_of_ne same, get_set_of_ne same]

/-- All values that were set fit their keys. -/
theorem isSome_of_setAll? {entries : List (Key × Value)} {p q : Parameters}
    (set : (setAll? entries p).1 = some q) {key : Key} {value : Value}
    (mem : (key, value) ∈ entries) : (Setting.ofValue? key.domain value).isSome = true := by
  induction entries generalizing p with
  | nil => cases mem
  | cons entry rest ih =>
    obtain ⟨setting, events, read, others⟩ := setAll?_cons_eq_some_iff.mp set
    rcases List.mem_cons.mp mem with rfl | later
    · rw [read]
      rfl
    · exact ih others later

end Parameters

end LidarSieve
