import LidarSieve.Filter
import LidarSieve.Settings.Load
import LidarSieve.Proofs.Access
import LidarSieve.Proofs.Documents
/-!
# Where the value of a parameter comes from

Three places can have a value for a parameter: a variable of the environment, the document in the
file of settings, and the standard parameters.  `Parameters.MergedFrom` says that every parameter
has the value of the first of them that has one.  The main result, `Settings.loadOrStandard_merges`,
says that loading makes just these parameters, whatever the file holds, and refuses them exactly if
they break a rule then.

Documents are looked up by key here, whereas loading goes through their entries one after the
other.  The two agree because no key stands in a document twice.
-/
set_option autoImplicit false

namespace LidarSieve

open LidarSieve.Toml

/-! ## The value in the environment -/

/-- The value of a parameter that a text reads as.  The name of an unknown mode is none. -/
def Setting.ofText? (domain : Domain) (text : String) : Option Setting :=
  match domain with
  | .mode => (RegionMode.parse text).toOption.map .mode
  | domain => (parse? domain text).map Prod.fst

/-- The variable for region modes is not set, or set to the name of a mode. -/
def NamesMode (environment : Environment) : Prop :=
  ∀ text, environment "RINGSIEVE_ROI_MODE" = some text →
    ∃ mode, RegionMode.parse text = .ok mode

namespace Parameters

variable {environment : Environment}

/-- The value that the environment has for a parameter, if the parameters have these names. -/
def overrideAmong? (environment : Environment) (named : List (String × Key)) (key : Key) :
    Option Setting :=
  (named.find? (·.2 = key)).bind fun (name, key) =>
    (environment name).bind (Setting.ofText? key.domain)

/-- The value that the environment has for a parameter. -/
def override? (environment : Environment) : Key → Option Setting :=
  overrideAmong? environment overrides

/-- Where modes are known by name, reading a text for a parameter is reading it as a value. -/
theorem parse?_eq_ofText? {domain : Domain} {text : String}
    (known : domain = .mode → ∃ mode, RegionMode.parse text = .ok mode) :
    (Setting.parse? domain text).map Prod.fst = Setting.ofText? domain text := by
  cases domain with
  | mode =>
    obtain ⟨mode, parsed⟩ := known rfl
    simp [Setting.parse?, Setting.ofText?, RegionMode.parseOrDefault, parsed, Except.toOption]
  | real => rfl
  | count bound => rfl
  | flag => rfl

/-- A variable that reads as a value replaces the value of its parameter, and no other. -/
theorem get_overrideOne {name : String} {key : Key}
    (known : key.domain = .mode → ∀ text, environment name = some text →
      ∃ mode, RegionMode.parse text = .ok mode) (p : Parameters) (other : Key) :
    (overrideOne environment p name key).1.get other =
      if other = key then ((environment name).bind (Setting.ofText? key.domain)).getD (p.get key)
      else p.get other := by
  unfold overrideOne
  cases found : environment name with
  | none =>
    by_cases same : other = key
    · rw [if_pos same, same]
      rfl
    · rw [if_neg same]
  | some text =>
    rw [Option.bind_some, ← parse?_eq_ofText? fun isMode => known isMode text found]
    dsimp only
    cases read : Setting.parse? key.domain text with
    | none =>
      by_cases same : other = key
      · rw [if_pos same, same]
        rfl
      · rw [if_neg same]
    | some result =>
      obtain ⟨setting, events⟩ := result
      by_cases same : other = key
      · rw [if_pos same, same]
        exact get_set_self (Setting.inDomain_of_parse? read)
      · rw [if_neg same]
        exact get_set_of_ne same

/-- Overrides replace the values of their parameters, if no two of them are for the same one. -/
theorem get_overrideAll {named : List (String × Key)} (nodup : (named.map Prod.snd).Nodup)
    (known : ∀ entry ∈ named, entry.2.domain = .mode → ∀ text,
      environment entry.1 = some text → ∃ mode, RegionMode.parse text = .ok mode)
    (p : Parameters) (key : Key) :
    (overrideAll environment named p).1.get key =
      (overrideAmong? environment named key).getD (p.get key) := by
  induction named generalizing p with
  | nil => rfl
  | cons entry rest ih =>
    obtain ⟨name, first⟩ := entry
    rw [List.map_cons, List.nodup_cons] at nodup
    have later := ih nodup.2 (fun entry held => known entry (List.mem_cons_of_mem _ held))
      (overrideOne environment p name first).1
    have now := get_overrideOne (known _ List.mem_cons_self) p key
    have whole : (overrideAll environment ((name, first) :: rest) p).1 =
        (overrideAll environment rest (overrideOne environment p name first).1).1 := rfl
    rw [whole, later, now]
    unfold overrideAmong?
    by_cases same : key = first
    · subst same
      have absent : rest.find? (·.2 = key) = none := by
        rw [List.find?_eq_none]
        intro entry held same
        exact nodup.1 (List.mem_map.mpr ⟨entry, held, of_decide_eq_true same⟩)
      simp [absent]
    · rw [List.find?_cons_of_neg (by simpa using Ne.symm same), if_neg same]

theorem get_overridden (named : NamesMode environment) (p : Parameters) (key : Key) :
    (p.overridden environment).1.get key = (override? environment key).getD (p.get key) := by
  have nodup : (overrides.map Prod.snd).Nodup := by decide
  refine get_overrideAll nodup (fun entry held isMode text found => ?_) p key
  simp only [overrides, List.mem_cons, List.not_mem_nil, or_false] at held
  rcases held with rfl | rfl | rfl | rfl | rfl | rfl
  case inr.inr.inr.inr.inr => exact named text found
  all_goals cases isMode

end Parameters

/-! ## The value in a document -/

/-- What a table of parameters has for a key: the value under its name or, in a list, the value at
its position. -/
def Toml.Value.under? (value : Value) (key : Key) : Option Value :=
  match value with
  | .table _ entries => entries.lookup key.name
  | .list items => items[Key.all.idxOf key]?
  | .tables elements => (elements.map (.table .header))[Key.all.idxOf key]?
  | _ => none

/-- What a document has for a key. -/
def Toml.Table.under? (document : Table) (key : Key) : Option Value :=
  (document.lookup "filter").bind (·.under? key)

/-- The value that a document has for a parameter. -/
def Parameters.written? (document : Table) (key : Key) : Option Setting :=
  ((document.under? key).bind (Setting.ofValue? key.domain)).map Prod.fst

namespace Parameters

/-- The values of a list stand at the positions of their keys. -/
theorem lookup_zip {keys : List Key} {key : Key} (mem : key ∈ keys) (items : List Value) :
    (keys.zip items).lookup key = items[keys.idxOf key]? := by
  induction keys generalizing items with
  | nil => cases mem
  | cons first rest ih =>
    cases items with
    | nil => rfl
    | cons item items =>
      rw [List.zip_cons_cons, List.lookup_cons]
      by_cases same : key = first
      · rw [same, List.idxOf_cons_self]
        simp
      · have behind := (List.mem_cons.mp mem).resolve_left same
        rw [beq_false_of_ne same, List.idxOf_cons_ne _ (Ne.symm same)]
        exact ih behind items

theorem nodup_zip {keys : List Key} (nodup : keys.Nodup) (items : List Value) :
    ((keys.zip items).map Prod.fst).Nodup := by
  induction keys generalizing items with
  | nil => exact List.nodup_nil
  | cons key rest ih =>
    cases items with
    | nil => exact List.nodup_nil
    | cons item items =>
      rw [List.nodup_cons] at nodup
      rw [List.zip_cons_cons, List.map_cons, List.nodup_cons]
      refine ⟨fun held => nodup.1 ?_, ih nodup.2 items⟩
      obtain ⟨⟨other, value⟩, mem, rfl⟩ := List.mem_map.mp held
      exact (List.of_mem_zip mem).1

/-- Entries that name parameters are found under their keys. -/
theorem lookup_keyed (entries : Table) (key : Key) :
    (keyed entries).lookup key = entries.lookup key.name := by
  induction entries with
  | nil => rfl
  | cons entry rest ih =>
    obtain ⟨name, value⟩ := entry
    rw [List.lookup_cons]
    unfold keyed at ih ⊢
    by_cases same : key.name = name
    · subst same
      simp [Key.ofName?_name]
    · rw [beq_false_of_ne same]
      cases found : Key.ofName? name with
      | none => simpa [List.filterMap_cons, found] using ih
      | some other =>
        have ne : key ≠ other := by
          rintro rfl
          exact same (Key.name_of_ofName? found)
        simpa [List.filterMap_cons, found, List.lookup_cons, beq_false_of_ne ne] using ih

theorem nodup_keyed {entries : Table} (nodup : (entries.map Prod.fst).Nodup) :
    ((keyed entries).map Prod.fst).Nodup := by
  induction entries with
  | nil => exact List.nodup_nil
  | cons entry rest ih =>
    obtain ⟨name, value⟩ := entry
    rw [List.map_cons, List.nodup_cons] at nodup
    have others := ih nodup.2
    unfold keyed at others ⊢
    cases found : Key.ofName? name with
    | none => simpa [List.filterMap_cons, found] using others
    | some key =>
      have fresh : key ∉ (keyed rest).map Prod.fst := by
        intro held
        obtain ⟨⟨other, value⟩, kept, rfl⟩ := List.mem_map.mp held
        obtain ⟨⟨taken, written⟩, mem, named⟩ := List.mem_filterMap.mp kept
        obtain ⟨again, same, pair⟩ := Option.map_eq_some_iff.mp named
        cases pair
        have names := (Key.name_of_ofName? found).symm.trans (Key.name_of_ofName? same)
        exact nodup.1 (List.mem_map.mpr ⟨_, mem, names.symm⟩)
      simpa [List.filterMap_cons, found] using ⟨by simpa [keyed] using fresh, others⟩

/-- The keys that a value has values for, if parameters can be given by it. -/
def pairs? : Value → Option (List (Key × Value))
  | .table _ entries => some (keyed entries)
  | .list items => some (Key.all.zip items)
  | .tables elements => some (Key.all.zip (elements.map (.table .header)))
  | .moment _ => some []
  | _ => none

theorem ofValue?_eq (value : Value) :
    (ofValue? value).1 = (pairs? value).bind fun pairs => (setAll? pairs standard).1 := by
  rw [← unnamed_eq_standard]
  cases value <;> rfl

/-- The keys are found as if the value were looked up, and none comes up twice. -/
theorem pairs?_spec {value : Value} (distinct : value.Distinct) {pairs : List (Key × Value)}
    (read : pairs? value = some pairs) :
    (pairs.map Prod.fst).Nodup ∧ ∀ key, pairs.lookup key = value.under? key := by
  cases value with
  | table origin entries =>
    cases read
    have nodup := (Table.distinct_of_value distinct).nodup
    exact ⟨nodup_keyed nodup, lookup_keyed entries⟩
  | list items =>
    cases read
    exact ⟨nodup_zip Key.nodup_all items, fun key => lookup_zip key.mem_all items⟩
  | tables elements =>
    cases read
    exact ⟨nodup_zip Key.nodup_all _, fun key => lookup_zip key.mem_all _⟩
  | moment s =>
    cases read
    exact ⟨List.nodup_nil, fun key => rfl⟩
  | text s => cases read
  | integer i => cases read
  | real x => cases read
  | flag b => cases read

end Parameters

/-! ## Reading a document -/

namespace Settings

/-- The settings of a document are those of its two tables; where one is not there, what was there
before stays. -/
theorem setAll?_eq {document : Table} (nodup : (document.map Prod.fst).Nodup) (before : Settings) :
    (setAll? document before).1 =
      ((document.lookup "filter").elim (some before.parameters) fun value =>
        (Parameters.ofValue? value).1).bind fun parameters =>
      ((document.lookup "transform").elim (some before.mount) fun value =>
        (Mount.ofValue? value).map some).map fun mount => ⟨parameters, mount⟩ := by
  induction document generalizing before with
  | nil => rfl
  | cons entry rest ih =>
    obtain ⟨name, value⟩ := entry
    rw [List.map_cons, List.nodup_cons] at nodup
    have absent := lookup_eq_none_of_not_mem nodup.1
    rw [setAll?]
    by_cases isFilter : name = "filter"
    · subst isFilter
      rw [if_pos rfl, List.lookup_cons_self, List.lookup_cons, beq_false_of_ne (by decide)]
      cases read : Parameters.ofValue? value with
      | mk result events =>
        cases result with
        | none => simp [read]
        | some parameters =>
          have others := ih nodup.2 { before with parameters }
          rw [absent] at others
          simpa [read] using others
    · rw [if_neg isFilter]
      by_cases isMount : name = "transform"
      · subst isMount
        rw [if_pos rfl, List.lookup_cons_self, List.lookup_cons, beq_false_of_ne (by decide)]
        cases read : Mount.ofValue? value with
        | none => simp [read]
        | some mount =>
          have others := ih nodup.2 { before with mount := some mount }
          rw [absent] at others
          simpa [read] using others
      · rw [if_neg isMount, List.lookup_cons, List.lookup_cons,
          beq_false_of_ne (Ne.symm isFilter), beq_false_of_ne (Ne.symm isMount)]
        exact ih nodup.2 before

end Settings

/-! ## What is merged -/

/-- The document in a file: an empty one if there is no file, and none if the file cannot be read
as one. -/
def documentAt? (files : Files) (path : String) : Option Table :=
  match files path with
  | .error obstacle => if obstacle.isAbsence then some [] else none
  | .ok octets => octets.text?.bind Toml.parse?

/-- Each value that the document has for a parameter is in its domain. -/
def Parameters.Fits (document : Table) : Prop :=
  ∀ key value, document.under? key = some value →
    (Setting.ofValue? key.domain value).isSome = true

/-- Every parameter has the value of the environment; where that has none, of the document; and
where that has none either, of the standard parameters. -/
def Parameters.MergedFrom (p : Parameters) (environment : Environment) (document : Table) : Prop :=
  ∀ key, p.get key =
    ((override? environment key).or (written? document key)).getD (standard.get key)

namespace Settings

variable {files : Files} {environment : Environment} {path : String} {settings : Settings}

/-- The parameters of a document are the values that it has, and standard where it has none. -/
theorem get_ofTable? {document : Table} (distinct : document.Distinct)
    (read : (ofTable? document).1 = some settings) :
    Parameters.Fits document ∧ ∀ key, settings.parameters.get key =
      (Parameters.written? document key).getD (Parameters.standard.get key) := by
  have tables := setAll?_eq distinct.nodup standard
  rw [← ofTable?, read] at tables
  obtain ⟨parameters, first, rest⟩ := Option.bind_eq_some_iff.mp tables.symm
  obtain ⟨mount, -, rfl⟩ := Option.map_eq_some_iff.mp rest
  unfold Parameters.Fits Parameters.written? Table.under?
  cases found : document.lookup "filter" with
  | none =>
    rw [found] at first
    cases first
    exact ⟨fun key value held => (nomatch held), fun key => rfl⟩
  | some value =>
    rw [found, Option.elim_some, Parameters.ofValue?_eq] at first
    obtain ⟨pairs, given, set⟩ := Option.bind_eq_some_iff.mp first
    obtain ⟨nodup, known⟩ := Parameters.pairs?_spec (distinct.lookup found) given
    refine ⟨fun key value held => ?_, fun key => ?_⟩
    · rw [Option.bind_some, ← known key] at held
      exact Parameters.isSome_of_setAll? set (mem_of_lookup held)
    · rw [Parameters.get_setAll? nodup set, known, Option.bind_some]
      cases (value.under? key).bind (Setting.ofValue? key.domain) with
      | none => rfl
      | some result => rfl

/-! ## Loading -/

/-- A file that is read as settings holds a document whose values fit, and the parameters are
those of the document. -/
theorem get_read {result : Option Settings} (reads : (read files path).1 = .ok result) :
    ∃ document, documentAt? files path = some document ∧ Parameters.Fits document ∧
      ∀ key, (result.getD standard).parameters.get key =
        (Parameters.written? document key).getD (Parameters.standard.get key) := by
  unfold read at reads
  unfold documentAt?
  cases stored : files path with
  | error obstacle =>
    rw [stored] at reads
    cases absent : obstacle.isAbsence with
    | false => simp [absent] at reads
    | true =>
      simp only [absent, if_true, Except.ok.injEq] at reads
      subst reads
      exact ⟨[], by simp [absent], fun key value held => (nomatch held), fun key => rfl⟩
  | ok octets =>
    rw [stored] at reads
    dsimp only at reads ⊢
    cases decoded : octets.text? with
    | none => simp [decoded] at reads
    | some text =>
      rw [decoded] at reads
      unfold ofText at reads
      cases parsed : Toml.parse? text with
      | none => simp [parsed, Except.map] at reads
      | some document =>
        cases built : ofTable? document with
        | mk made events =>
          cases made with
          | none => simp [parsed, built, Except.map] at reads
          | some settings =>
            simp only [parsed, built, Except.map, Except.ok.injEq] at reads
            subst reads
            have made : (ofTable? document).1 = some settings := by rw [built]
            exact ⟨document, parsed, get_ofTable? (distinct_of_parse? parsed) made⟩

/-- Settings are finished by the values of the environment, and refused if they are not valid
then. -/
theorem finish_eq (environment : Environment) (settings : Settings) :
    (settings.finish environment).1 =
      match (settings.parameters.overridden environment).1.validate with
      | .error fault => .error (.invalid fault)
      | .ok () => .ok { settings with
          parameters := (settings.parameters.overridden environment).1 } := by
  unfold finish
  dsimp only
  cases (settings.parameters.overridden environment).1.validate with
  | error fault => rfl
  | ok valid => rfl

/-- Loading is reading, and finishing what was read or the standard settings. -/
theorem loadOrStandard_eq (files : Files) (environment : Environment) (path : String) :
    (loadOrStandard files environment path).1 =
      match (read files path).1 with
      | .error fault => .error fault
      | .ok result => ((result.getD standard).finish environment).1 := by
  unfold loadOrStandard load
  cases (read files path) with
  | mk result events =>
    cases result with
    | error fault => rfl
    | ok result =>
      cases result with
      | none => rfl
      | some settings =>
        cases finished : settings.finish environment with
        | mk result later => cases result <;> simp [finished, Except.map]

/-- The merged parameters decide whether settings that were read are loaded. -/
theorem loadOrStandard_of_read (named : NamesMode environment) {result : Option Settings}
    (reads : (read files path).1 = .ok result) :
    ∃ (document : Table) (merged : Parameters), documentAt? files path = some document ∧
      Parameters.Fits document ∧ merged.MergedFrom environment document ∧
      (loadOrStandard files environment path).1 =
        match merged.validate with
        | .error fault => .error (.invalid fault)
        | .ok () => .ok { result.getD standard with parameters := merged } := by
  obtain ⟨document, stored, fits, written⟩ := get_read reads
  refine ⟨document, ((result.getD standard).parameters.overridden environment).1, stored, fits,
    fun key => ?_, ?_⟩
  · rw [Parameters.get_overridden named, written]
    cases Parameters.override? environment key with
    | none => rfl
    | some value => rfl
  · rw [loadOrStandard_eq, reads]
    exact finish_eq environment _

/-- No file and an empty file are the same, reports included. -/
theorem loadOrStandard_of_absent {obstacle : Obstacle} (stored : files path = .error obstacle)
    (absent : obstacle.isAbsence = true) {others : Files}
    (empty : others path = .ok (Octets.ofText "")) :
    loadOrStandard files environment path = loadOrStandard others environment path := by
  have decoded : (Octets.ofText "").text? = some "" := by decide
  have parsed : Toml.parse? "" = some [] := rfl
  have first : read files path = (.ok none, []) := by
    unfold read
    rw [stored]
    exact if_pos absent
  have second : read others path = (.ok (some standard), []) := by
    unfold read
    rw [empty]
    dsimp only
    rw [decoded]
    dsimp only
    unfold ofText
    rw [parsed]
    rfl
  unfold loadOrStandard load
  rw [first, second]
  dsimp only
  cases standard.finish environment with
  | mk result events => cases result <;> rfl

/-- Only where there is no file, nothing is read. -/
theorem absent_of_read (reads : (read files path).1 = .ok none) :
    ∃ obstacle, files path = .error obstacle ∧ obstacle.isAbsence = true := by
  unfold read at reads
  cases stored : files path with
  | error obstacle =>
    refine ⟨obstacle, rfl, ?_⟩
    by_contra present
    simp [stored, present] at reads
  | ok octets =>
    rw [stored] at reads
    dsimp only at reads
    cases decoded : octets.text? with
    | none => simp [decoded] at reads
    | some text =>
      rw [decoded] at reads
      cases made : (ofText text).1 with
      | error fault => simp [made, Except.map] at reads
      | ok settings => simp [made, Except.map] at reads

/-- Where there is a file, the two ways to load it agree, reports included. -/
theorem load_of_existing
    (existing : ∀ obstacle, files path = .error obstacle → obstacle.isAbsence = false) :
    load files environment path =
      ((loadOrStandard files environment path).1.map some,
        (loadOrStandard files environment path).2) := by
  unfold loadOrStandard load
  cases found : read files path with
  | mk result events =>
    cases result with
    | error fault => rfl
    | ok result =>
      cases result with
      | none =>
        obtain ⟨obstacle, stored, absent⟩ := absent_of_read (congrArg Prod.fst found)
        rw [existing obstacle stored] at absent
        cases absent
      | some settings =>
        dsimp only
        cases (settings.finish environment).1 with
        | error fault => rfl
        | ok finished => rfl

/-- Whatever the file and the environment hold, as long as the variable for region modes is not set
to anything else than the name of a mode:

* settings that are loaded have valid parameters, of which filters can be made with or without
  rejected points, and every parameter has the value of the environment, of the document in the
  file or of the standard parameters, in this order;
* from a file that can be read, settings are loaded exactly if the parameters merged in this way are
  valid, whether the values in the file alone are or not, and otherwise the refusal has the words of
  the first rule that they break;
* no file is the same as an empty one, and where there is a file both ways to load it agree. -/
theorem loadOrStandard_merges (files : Files) (environment : Environment) (path : String)
    (named : NamesMode environment) :
    (∀ settings, (loadOrStandard files environment path).1 = .ok settings →
      settings.parameters.validate = .ok () ∧
      (∀ flag, ∃ filter,
        Filter.create { settings.parameters with publishNoisePoints := flag } = .ok filter) ∧
      ∃ document, documentAt? files path = some document ∧ Parameters.Fits document ∧
        settings.parameters.MergedFrom environment document) ∧
    (∀ result, (read files path).1 = .ok result →
      ∃ (document : Table) (merged : Parameters), documentAt? files path = some document ∧
        Parameters.Fits document ∧ merged.MergedFrom environment document ∧
        (merged.validate = .ok () → (loadOrStandard files environment path).1 =
          .ok { result.getD standard with parameters := merged }) ∧
        ∀ fault, merged.validate = .error fault → ∃ refusal,
          (loadOrStandard files environment path).1 = .error refusal ∧
            refusal.message = fault.message) ∧
    (∀ obstacle, files path = .error obstacle → obstacle.isAbsence = true →
      ∀ others : Files, others path = .ok (Octets.ofText "") →
        loadOrStandard files environment path = loadOrStandard others environment path) ∧
    ((∀ obstacle, files path = .error obstacle → obstacle.isAbsence = false) →
      load files environment path =
        ((loadOrStandard files environment path).1.map some,
          (loadOrStandard files environment path).2)) := by
  refine ⟨fun settings loaded => ?_, fun result reads => ?_,
    fun obstacle stored absent others empty => loadOrStandard_of_absent stored absent empty,
    load_of_existing⟩
  · cases reads : (read files path).1 with
    | error fault =>
      rw [loadOrStandard_eq, reads] at loaded
      cases loaded
    | ok result =>
      obtain ⟨document, merged, stored, fits, origin, same⟩ := loadOrStandard_of_read named reads
      rw [loaded] at same
      cases valid : merged.validate with
      | error fault =>
        rw [valid] at same
        cases same
      | ok checked =>
        rw [valid] at same
        cases same
        refine ⟨valid, fun flag =>
          ⟨⟨.ofParameters 0 { merged with publishNoisePoints := flag }⟩, ?_⟩,
          document, stored, fits, origin⟩
        rw [Filter.create, Parameters.validate_publish, valid]
  · obtain ⟨document, merged, stored, fits, origin, same⟩ := loadOrStandard_of_read named reads
    refine ⟨document, merged, stored, fits, origin, fun valid => ?_, fun fault broken => ?_⟩
    · rw [same, valid]
    · rw [same, broken]
      exact ⟨_, rfl, rfl⟩

/-- A file with a ratio that is too small. -/
def smallRatio : Files := fun _ =>
  .ok (Octets.ofText "[filter]\ndistance_ratio = 0.5\nnum_points_threshold = 7\n")

/-- An environment with a ratio that is large enough. -/
def largerRatio : Environment := fun name =>
  if name = "RINGSIEVE_DISTANCE_RATIO" then some "1.5" else none

theorem loadOrStandard_smallRatio :
    NamesMode largerRatio ∧
      ∃ settings, (loadOrStandard smallRatio largerRatio "config.toml").1 = .ok settings ∧
        settings.parameters.validate = .ok () ∧
        settings.parameters.get .numPointsThreshold = .count 7 ∧
        ∃ document, documentAt? smallRatio "config.toml" = some document ∧
          Parameters.Fits document ∧ settings.parameters.MergedFrom largerRatio document := by
  have named : NamesMode largerRatio := fun text found => nomatch found
  have merges := (loadOrStandard_merges smallRatio largerRatio "config.toml" named).1
  cases loaded : (loadOrStandard smallRatio largerRatio "config.toml").1 with
  | error fault =>
    have succeeds :
        (loadOrStandard smallRatio largerRatio "config.toml").1.toBool = true := by
      decide +kernel
    rw [loaded] at succeeds
    cases succeeds
  | ok settings =>
    have seven : (loadOrStandard smallRatio largerRatio "config.toml").1.map
        (·.parameters.get .numPointsThreshold) = .ok (.count 7) := by
      decide +kernel
    rw [loaded] at seven
    obtain ⟨valid, -, document, stored, fits, merged⟩ := merges settings loaded
    exact ⟨named, settings, rfl, valid, Except.ok.inj seven, document, stored, fits, merged⟩

end Settings

end LidarSieve
