import Mathlib.Data.List.Nodup
import LidarSieve.Toml.Document
/-!
# Tables of a document have distinct keys

However a table comes up (under headers, by dotted keys or between braces), no key stands in it
twice, and so down to the tables inside it.  `Value.Distinct` is the invariant; each way to change
a table keeps it, and the last theorem says that it holds of every document that can be read.  So
the value that a document binds to a key is the one that is found by looking the key up.
-/
set_option autoImplicit false

namespace LidarSieve.Toml

/-- What is found under a key is listed under it. -/
theorem mem_of_lookup {α β : Type} [BEq α] [LawfulBEq α] {entries : List (α × β)} {key : α}
    {value : β} (found : entries.lookup key = some value) : (key, value) ∈ entries := by
  obtain ⟨front, behind, rfl, -⟩ := List.lookup_eq_some_iff.mp found
  exact List.mem_append_right _ List.mem_cons_self

/-- Under a key that is not listed nothing is found. -/
theorem lookup_eq_none_of_not_mem {α β : Type} [BEq α] [LawfulBEq α] {entries : List (α × β)}
    {key : α} (absent : key ∉ entries.map Prod.fst) : entries.lookup key = none := by
  rw [List.lookup_eq_none_iff]
  intro entry held
  rw [bne_iff_ne]
  rintro rfl
  exact absent (List.mem_map.mpr ⟨entry, held, rfl⟩)

/-! ## Distinct keys -/

/-- No table of the value has a key twice.  Tables that are items of a list do not count. -/
inductive Value.Distinct : Value → Prop where
  | text (s : String) : (text s).Distinct
  | integer (i : Int) : (integer i).Distinct
  | real (x : Binary.Double) : (real x).Distinct
  | flag (b : Bool) : (flag b).Distinct
  | moment (s : String) : (moment s).Distinct
  | list (items : List Value) : (list items).Distinct
  | table (origin : Origin) {entries : Table} : (entries.map Prod.fst).Nodup →
      (∀ entry ∈ entries, entry.2.Distinct) → (table origin entries).Distinct
  | tables {elements : List Table} : (∀ element ∈ elements, (element.map Prod.fst).Nodup) →
      (∀ element ∈ elements, ∀ entry ∈ element, entry.2.Distinct) → (tables elements).Distinct

namespace Table

/-- No key stands in the table twice, nor in the tables inside it. -/
structure Distinct (table : Table) : Prop where
  nodup : (table.map Prod.fst).Nodup
  values : ∀ entry ∈ table, entry.2.Distinct

/-- Keeps keys distinct wherever it gives a table. -/
def KeepsDistinct (change : Table → Option Table) : Prop :=
  ∀ table result, table.Distinct → change table = some result → result.Distinct

variable {table result : Table} {key : String} {value : Value}

theorem distinct_nil : Distinct [] := ⟨List.nodup_nil, fun _ mem => nomatch mem⟩

theorem distinct_of_value {origin : Origin} (distinct : (Value.table origin table).Distinct) :
    table.Distinct := by
  cases distinct with
  | table _ nodup values => exact ⟨nodup, values⟩

theorem distinct_of_tables {elements : List Table} (distinct : (Value.tables elements).Distinct) :
    ∀ element ∈ elements, Distinct element := by
  cases distinct with
  | tables nodup values => exact fun element mem => ⟨nodup element mem, values element mem⟩

theorem Distinct.toValue (distinct : table.Distinct) (origin : Origin) :
    (Value.table origin table).Distinct :=
  .table origin distinct.nodup distinct.values

theorem distinct_tables {elements : List Table} (distinct : ∀ element ∈ elements, Distinct element) :
    (Value.tables elements).Distinct :=
  .tables (fun element mem => (distinct element mem).nodup)
    fun element mem => (distinct element mem).values

theorem not_mem_keys_of_lookup (absent : table.lookup key = none) : key ∉ table.map Prod.fst := by
  intro mem
  obtain ⟨entry, held, rfl⟩ := List.mem_map.mp mem
  have differs := List.lookup_eq_none_iff.mp absent entry held
  exact absurd rfl (bne_iff_ne.mp differs)

/-! ## Changes of a table -/

theorem keys_put_of_mem (mem : key ∈ table.map Prod.fst) :
    (table.put key value).map Prod.fst = table.map Prod.fst := by
  induction table with
  | nil => cases mem
  | cons entry rest ih =>
    rw [put]
    split
    · rename_i same
      simp [same]
    · rename_i differs
      rw [List.map_cons, List.map_cons, ih]
      exact (List.mem_cons.mp mem).resolve_left (Ne.symm differs)

theorem put_of_not_mem (absent : key ∉ table.map Prod.fst) :
    table.put key value = table ++ [(key, value)] := by
  induction table with
  | nil => rfl
  | cons entry rest ih =>
    rw [List.map_cons, List.mem_cons, not_or] at absent
    rw [put, if_neg (Ne.symm absent.1), ih absent.2]
    rfl

theorem eq_or_mem_of_mem_put {entry : String × Value} (mem : entry ∈ table.put key value) :
    entry.2 = value ∨ entry ∈ table := by
  induction table with
  | nil => exact .inl (congrArg Prod.snd (List.mem_singleton.mp mem))
  | cons first rest ih =>
    rw [put] at mem
    split at mem
    · rcases List.mem_cons.mp mem with rfl | later
      · exact .inl rfl
      · exact .inr (List.mem_cons_of_mem _ later)
    · rcases List.mem_cons.mp mem with rfl | later
      · exact .inr List.mem_cons_self
      · exact (ih later).imp_right (List.mem_cons_of_mem _)

theorem Distinct.concat (distinct : table.Distinct) (absent : key ∉ table.map Prod.fst)
    (fits : value.Distinct) : Distinct (table ++ [(key, value)]) := by
  refine ⟨?_, fun entry mem => ?_⟩
  · rw [List.map_append, List.nodup_append']
    refine ⟨distinct.nodup, List.nodup_singleton key, ?_⟩
    rw [List.disjoint_comm]
    exact List.singleton_disjoint.mpr absent
  · rcases List.mem_append.mp mem with held | added
    · exact distinct.values entry held
    · rw [List.mem_singleton.mp added]
      exact fits

theorem Distinct.put (distinct : table.Distinct) (fits : value.Distinct) :
    Distinct (table.put key value) := by
  by_cases mem : key ∈ table.map Prod.fst
  · refine ⟨?_, fun entry held => ?_⟩
    · rw [keys_put_of_mem mem]
      exact distinct.nodup
    · rcases eq_or_mem_of_mem_put held with same | before
      · rw [same]
        exact fits
      · exact distinct.values entry before
  · rw [put_of_not_mem mem]
    exact distinct.concat mem fits

theorem Distinct.remove (distinct : table.Distinct) : Distinct (table.remove key) where
  nodup := (List.Sublist.map Prod.fst List.filter_sublist).nodup distinct.nodup
  values entry mem := distinct.values entry (List.mem_of_mem_filter mem)

theorem Distinct.lookup (distinct : table.Distinct) (found : table.lookup key = some value) :
    value.Distinct :=
  distinct.values _ (mem_of_lookup found)

theorem keepsDistinct_add? (fits : value.Distinct) : KeepsDistinct (add? key value) := by
  intro table result distinct added
  rw [add?] at added
  split at added
  · rename_i absent
    cases added
    exact distinct.concat (not_mem_keys_of_lookup absent) fits
  · cases added

/-- Changing the last of several tables keeps the keys of all of them distinct. -/
theorem distinct_changeLast? {change : Table → Option Table} (keeps : KeepsDistinct change)
    {elements results : List Table} (distinct : ∀ element ∈ elements, Distinct element)
    (changed : changeLast? change elements = some results) :
    ∀ element ∈ results, Distinct element := by
  induction elements generalizing results with
  | nil => cases changed
  | cons first rest ih =>
    cases rest with
    | nil =>
      simp only [changeLast?, Option.bind_eq_bind, Option.bind_eq_some_iff, Option.pure_def,
        Option.some.injEq] at changed
      obtain ⟨last, made, rfl⟩ := changed
      intro element mem
      rw [List.mem_singleton.mp mem]
      exact keeps first last (distinct first List.mem_cons_self) made
    | cons second rest =>
      simp only [changeLast?, Option.bind_eq_bind, Option.bind_eq_some_iff, Option.pure_def,
        Option.some.injEq] at changed
      obtain ⟨others, made, rfl⟩ := changed
      intro element mem
      rcases List.mem_cons.mp mem with rfl | later
      · exact distinct _ List.mem_cons_self
      · exact ih (fun other held => distinct other (List.mem_cons_of_mem _ held)) made element later

/-- Putting a changed table in its place keeps keys distinct, if the change does. -/
theorem Distinct.put_table {change : Table → Option Table} (keeps : KeepsDistinct change)
    (distinct : table.Distinct) {inner : Table} (inside : inner.Distinct) {origin : Origin}
    (changed : (do return table.put key (.table origin (← change inner))) = some result) :
    result.Distinct := by
  obtain ⟨next, made, same⟩ := Option.bind_eq_some_iff.mp changed
  cases same
  exact distinct.put ((keeps inner next inside made).toValue origin)

/-- So does putting several tables of which the last one is changed. -/
theorem Distinct.put_tables {change : Table → Option Table} (keeps : KeepsDistinct change)
    (distinct : table.Distinct) {elements : List Table}
    (inside : ∀ element ∈ elements, Distinct element)
    (changed : (do return table.put key (.tables (← changeLast? change elements))) =
      some result) : result.Distinct := by
  obtain ⟨next, made, same⟩ := Option.bind_eq_some_iff.mp changed
  cases same
  exact distinct.put (distinct_tables (distinct_changeLast? keeps inside made))

/-- Binding a dotted key keeps keys distinct. -/
theorem keepsDistinct_insert? (fits : value.Distinct) (path : List String) :
    KeepsDistinct (insert? value key path) := by
  induction path with
  | nil => exact keepsDistinct_add? fits
  | cons step path ih =>
    intro table result distinct inserted
    rw [insert?] at inserted
    split at inserted
    · exact distinct.put_table ih distinct_nil inserted
    · rename_i inner found
      exact distinct.put_table ih (distinct_of_value (distinct.lookup found)) inserted
    · rename_i inner found
      split at inserted
      · cases inserted
      · exact distinct.put_table ih (distinct_of_value (distinct.lookup found)) inserted
    · rename_i elements found
      split at inserted
      · cases inserted
      · exact distinct.put_tables ih (distinct_of_tables (distinct.lookup found)) inserted
    · cases inserted

/-- A change at the end of a header's path keeps keys distinct if it does so there. -/
theorem keepsDistinct_within? {change : Table → Option Table} (keeps : KeepsDistinct change)
    (path : List String) : KeepsDistinct (within? change path) := by
  induction path with
  | nil => exact keeps
  | cons step path ih =>
    intro table result distinct changed
    rw [within?] at changed
    split at changed
    · exact distinct.put_table ih distinct_nil changed
    · cases changed
    · rename_i origin inner _ found
      exact distinct.put_table ih (distinct_of_value (distinct.lookup found)) changed
    · rename_i elements found
      exact distinct.put_tables ih (distinct_of_tables (distinct.lookup found)) changed
    · cases changed

theorem keepsDistinct_declare? : KeepsDistinct (declare? key) := by
  intro table result distinct declared
  rw [declare?] at declared
  split at declared
  · rename_i absent
    cases declared
    exact distinct.concat (not_mem_keys_of_lookup absent) (distinct_nil.toValue .header)
  · rename_i inner found
    cases declared
    refine distinct.remove.concat ?_ ((distinct_of_value (distinct.lookup found)).toValue .header)
    intro mem
    obtain ⟨entry, held, rfl⟩ := List.mem_map.mp mem
    have differs := (List.mem_filter.mp held).2
    exact absurd rfl (bne_iff_ne.mp differs)
  · cases declared

theorem keepsDistinct_extend? : KeepsDistinct (extend? key) := by
  intro table result distinct extended
  have empty : ∀ element ∈ ([[]] : List Table), Distinct element := by
    intro element mem
    rw [List.mem_singleton.mp mem]
    exact distinct_nil
  rw [extend?] at extended
  split at extended
  · rename_i absent
    cases extended
    exact distinct.concat (not_mem_keys_of_lookup absent) (distinct_tables empty)
  · rename_i elements found
    cases extended
    refine distinct.put (distinct_tables fun element mem => ?_)
    rcases List.mem_append.mp mem with before | added
    · exact distinct_of_tables (distinct.lookup found) element before
    · exact empty element added
  · cases extended

/-! ## Values and statements of a text -/

/-- The pairs of an inline table make a table with distinct keys. -/
theorem distinct_ofPairs? {pairs : List (Path × Value)} (fits : ∀ pair ∈ pairs, pair.2.Distinct)
    (made : ofPairs? pairs = some table) : table.Distinct := by
  suffices folded : ∀ start : Table, start.Distinct →
      pairs.foldlM (fun table pair => table.insert? pair.2 pair.1.key pair.1.steps) start =
        some table → table.Distinct from folded [] distinct_nil made
  clear made
  induction pairs with
  | nil =>
    intro start distinct folded
    cases folded
    exact distinct
  | cons pair rest ih =>
    intro start distinct folded
    rw [List.foldlM_cons] at folded
    obtain ⟨next, inserted, folded⟩ := Option.bind_eq_some_iff.mp folded
    exact ih (fun other held => fits other (List.mem_cons_of_mem _ held)) next
      (keepsDistinct_insert? (fits pair List.mem_cons_self) _ start next distinct inserted) folded

end Table

/-- The value that a statement binds has distinct keys. -/
def Statement.Distinct : Statement → Prop
  | .entry _ value => value.Distinct
  | _ => True

/-- Carrying out statements keeps keys distinct. -/
theorem Table.distinct_run? {statements : List Statement} {current : List String}
    {root result : Table} (fits : ∀ statement ∈ statements, statement.Distinct)
    (distinct : root.Distinct) (run : run? current statements root = some result) :
    result.Distinct := by
  induction statements generalizing current root with
  | nil =>
    cases run
    exact distinct
  | cons statement rest ih =>
    have later := fun other (held : other ∈ rest) => fits other (List.mem_cons_of_mem _ held)
    cases statement with
    | header path =>
      obtain ⟨next, changed, run⟩ := Option.bind_eq_some_iff.mp run
      exact ih later (keepsDistinct_within? keepsDistinct_declare? _ root next distinct changed) run
    | element path =>
      obtain ⟨next, changed, run⟩ := Option.bind_eq_some_iff.mp run
      exact ih later (keepsDistinct_within? keepsDistinct_extend? _ root next distinct changed) run
    | entry path value =>
      have value_fits : value.Distinct := fits _ List.mem_cons_self
      obtain ⟨next, changed, run⟩ := Option.bind_eq_some_iff.mp run
      exact ih later (keepsDistinct_within? (keepsDistinct_insert? value_fits _) _ root next
        distinct changed) run

/-- Reads only values with distinct keys. -/
def ReadsDistinct (item : Reader Value) : Prop :=
  ∀ text value rest, item text = some (value, rest) → value.Distinct

theorem distinct_readPair {item : Reader Value} (reads : ReadsDistinct item)
    {text rest : List Char} {pair : Path × Value}
    (read : readPair item text = some (pair, rest)) : pair.2.Distinct := by
  obtain ⟨⟨path, behind⟩, -, read⟩ := Option.bind_eq_some_iff.mp read
  simp only at read
  split at read
  · obtain ⟨⟨value, behind⟩, found, same⟩ := Option.bind_eq_some_iff.mp read
    cases same
    exact reads _ _ _ found
  · cases read

theorem distinct_readPairs {item : Reader Value} (reads : ReadsDistinct item) {bound : Nat}
    {text rest : List Char} {pairs : List (Path × Value)}
    (read : readPairs item bound text = some (pairs, rest)) : ∀ pair ∈ pairs, pair.2.Distinct := by
  induction bound generalizing text rest pairs with
  | zero => cases read
  | succ bound ih =>
    obtain ⟨⟨pair, behind⟩, found, read⟩ := Option.bind_eq_some_iff.mp read
    have fits := distinct_readPair reads found
    simp only at read
    split at read
    · obtain ⟨⟨others, behind⟩, later, same⟩ := Option.bind_eq_some_iff.mp read
      cases same
      intro other mem
      rcases List.mem_cons.mp mem with rfl | held
      · exact fits
      · exact ih later other held
    · cases read
      intro other mem
      rw [List.mem_singleton.mp mem]
      exact fits
    · cases read

theorem distinct_integer? {i : Int} {value : Value} (made : integer? i = some value) :
    value.Distinct := by
  rw [integer?] at made
  split at made
  · cases made
    exact .integer i
  · cases made

theorem distinct_real? {x : Binary.Double} {value : Value} (made : real? x = some value) :
    value.Distinct := by
  rw [real?] at made
  split at made
  · cases made
  · cases made
    exact .real x

theorem readsDistinct_readBased (base : Nat) : ReadsDistinct (readBased base) := by
  intro text value rest read
  obtain ⟨⟨digits, behind⟩, -, read⟩ := Option.bind_eq_some_iff.mp read
  obtain ⟨made, found, same⟩ := Option.bind_eq_some_iff.mp read
  cases same
  exact distinct_integer? found

theorem readsDistinct_readDecimal (minus : Bool) : ReadsDistinct (readDecimal minus) := by
  intro text value rest read
  obtain ⟨⟨whole, behind⟩, -, read⟩ := Option.bind_eq_some_iff.mp read
  simp only at read
  split at read
  · obtain ⟨⟨fraction, behind⟩, -, read⟩ := Option.bind_eq_some_iff.mp read
    obtain ⟨⟨exponent, behind⟩, -, read⟩ := Option.bind_eq_some_iff.mp read
    obtain ⟨made, found, same⟩ := Option.bind_eq_some_iff.mp read
    cases same
    exact distinct_real? found
  · obtain ⟨⟨exponent, behind⟩, -, read⟩ := Option.bind_eq_some_iff.mp read
    obtain ⟨made, found, same⟩ := Option.bind_eq_some_iff.mp read
    cases same
    exact distinct_real? found
  · obtain ⟨⟨exponent, behind⟩, -, read⟩ := Option.bind_eq_some_iff.mp read
    obtain ⟨made, found, same⟩ := Option.bind_eq_some_iff.mp read
    cases same
    exact distinct_real? found
  · obtain ⟨made, found, same⟩ := Option.bind_eq_some_iff.mp read
    cases same
    exact distinct_integer? found

theorem readsDistinct_readSpecial (minus : Bool) : ReadsDistinct (readSpecial minus) := by
  intro text value rest read
  unfold readSpecial at read
  split at read
  · cases read
    exact .real _
  · cases read
    exact .real _
  · cases read

/-- The first of two readers that reads anything decides. -/
theorem distinct_or {text rest : List Char} {value : Value} {first second : Reader Value}
    (one : ReadsDistinct first) (other : ReadsDistinct second)
    (read : (first text).or (second text) = some (value, rest)) : value.Distinct := by
  rcases Option.or_eq_some_iff.mp read with found | ⟨-, found⟩
  · exact one _ _ _ found
  · exact other _ _ _ found

theorem readsDistinct_readNumber : ReadsDistinct readNumber := by
  intro text value rest read
  unfold readNumber at read
  split at read
  · exact readsDistinct_readBased 16 _ _ _ read
  · exact readsDistinct_readBased 8 _ _ _ read
  · exact readsDistinct_readBased 2 _ _ _ read
  · exact distinct_or (readsDistinct_readSpecial _) (readsDistinct_readDecimal _) read

theorem readsDistinct_readMoment : ReadsDistinct readMoment := by
  intro text value rest read
  obtain ⟨behind, -, same⟩ := Option.bind_eq_some_iff.mp read
  cases same
  exact .moment _

theorem distinct_readBraces {item : Reader Value} (reads : ReadsDistinct item)
    {text rest : List Char} {pairs : List (Path × Value)}
    (read : readBraces item text = some (pairs, rest)) : ∀ pair ∈ pairs, pair.2.Distinct := by
  unfold readBraces at read
  split at read
  · cases read
    exact fun pair mem => nomatch mem
  · exact distinct_readPairs reads read

/-- Values are read with distinct keys, however deep tables are nested. -/
theorem readsDistinct_readValue (levels : Nat) : ReadsDistinct (readValue levels) := by
  induction levels using Nat.strongRecOn with
  | ind levels ih =>
    intro text value rest read
    unfold readValue at read
    split at read
    · obtain ⟨⟨run, behind⟩, -, same⟩ := Option.bind_eq_some_iff.mp read
      cases same
      exact .text _
    · obtain ⟨⟨run, behind⟩, -, same⟩ := Option.bind_eq_some_iff.mp read
      cases same
      exact .text _
    · obtain ⟨⟨items, behind⟩, -, same⟩ := Option.bind_eq_some_iff.mp read
      cases same
      exact .list items
    · rename_i fewer inside
      obtain ⟨⟨pairs, behind⟩, found, read⟩ := Option.bind_eq_some_iff.mp read
      obtain ⟨entries, made, same⟩ := Option.bind_eq_some_iff.mp read
      cases same
      have values := distinct_readBraces (ih fewer (Nat.lt_succ_self fewer)) found
      exact (Table.distinct_ofPairs? values made).toValue .braces
    · cases read
      exact .flag _
    · cases read
      exact .flag _
    · exact distinct_or readsDistinct_readMoment readsDistinct_readNumber read

theorem distinct_readStatement {text rest : List Char} {statement : Statement}
    (read : readStatement text = some (statement, rest)) : statement.Distinct := by
  unfold readStatement at read
  split at read
  · obtain ⟨⟨path, behind⟩, -, read⟩ := Option.bind_eq_some_iff.mp read
    simp only at read
    split at read
    · obtain ⟨behind, -, same⟩ := Option.bind_eq_some_iff.mp read
      cases same
      trivial
    · cases read
  · obtain ⟨⟨path, behind⟩, -, read⟩ := Option.bind_eq_some_iff.mp read
    simp only at read
    split at read
    · obtain ⟨behind, -, same⟩ := Option.bind_eq_some_iff.mp read
      cases same
      trivial
    · cases read
  · obtain ⟨⟨⟨path, value⟩, behind⟩, found, read⟩ := Option.bind_eq_some_iff.mp read
    obtain ⟨behind, -, same⟩ := Option.bind_eq_some_iff.mp read
    cases same
    exact distinct_readPair (readsDistinct_readValue _) found

theorem distinct_readStatements {bound : Nat} {text : List Char} {statements : List Statement}
    (read : readStatements bound text = some statements) :
    ∀ statement ∈ statements, statement.Distinct := by
  induction bound generalizing text statements with
  | zero => cases read
  | succ bound ih =>
    unfold readStatements at read
    split at read
    · cases read
      exact fun statement mem => nomatch mem
    · obtain ⟨behind, -, read⟩ := Option.bind_eq_some_iff.mp read
      exact ih read
    · exact ih read
    · obtain ⟨behind, -, read⟩ := Option.bind_eq_some_iff.mp read
      exact ih read
    · obtain ⟨⟨statement, behind⟩, first, read⟩ := Option.bind_eq_some_iff.mp read
      obtain ⟨others, later, same⟩ := Option.bind_eq_some_iff.mp read
      cases same
      intro other mem
      rcases List.mem_cons.mp mem with rfl | held
      · exact distinct_readStatement first
      · exact ih later other held

/-- No key stands twice in a table of a document. -/
theorem distinct_of_parse? {document : String} {table : Table}
    (parsed : parse? document = some table) : table.Distinct := by
  obtain ⟨statements, read, built⟩ := Option.bind_eq_some_iff.mp parsed
  exact Table.distinct_run? (distinct_readStatements read) Table.distinct_nil built

end LidarSieve.Toml
