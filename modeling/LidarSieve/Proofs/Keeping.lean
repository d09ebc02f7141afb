import LidarSieve.Settings.Load
import LidarSieve.Settings.Writer
import LidarSieve.Proofs.Access
import LidarSieve.Proofs.Blocks
/-!
# Settings that are written are read back

Settings are refused by the writer exactly if a count is greater than the integers of a document.
Otherwise the document is read back as settings with the same words, a not-a-number as a
not-a-number, and with the same mount, as long as the name of its frame can be written on a line and
has no long row of quotes in it (`Settings.write_reads_back`).  With such a row the writer cannot go
on (`Settings.write_longRow`).

No value is masked by a standard one on the way: what is read is known key by key, and every key has
a line of its own.
-/
set_option autoImplicit false

namespace LidarSieve

open LidarSieve.Binary LidarSieve.Text LidarSieve.Toml

/-! ## Settings with the same words -/

/-- The same word, or two not-a-numbers. -/
def Binary.Number.Alike {f : Format} (x y : Number f) : Prop :=
  x = y ∨ x.isNaN = true ∧ y.isNaN = true

/-- The same value; reals have the same word, or are not-a-numbers both. -/
def Setting.Alike : Setting → Setting → Prop
  | .real x, .real y => x.Alike y
  | s, t => s = t

/-- The same frame, and numbers with the same words. -/
structure Mount.Alike (a b : Mount) : Prop where
  frame : a.frame = b.frame
  numbers : List.Forall₂ Number.Alike a.numbers b.numbers

/-- The same values under all keys, and a mount in both or in neither. -/
structure Settings.Alike (a b : Settings) : Prop where
  parameters : ∀ key, (a.parameters.get key).Alike (b.parameters.get key)
  mount : Option.Rel Mount.Alike a.mount b.mount

/-! ## Values -/

/-- The word that is read where a word was written. -/
def Binary.Number.reread (x : Single) : Single :=
  (if (x.convert : Double).isNaN then (Number.nan : Double) else x.convert).convert

theorem Binary.Number.alike_reread (x : Single) : x.reread.Alike x := by
  unfold reread
  rw [isNaN_convert]
  cases nan : x.isNaN with
  | true =>
    refine .inr ⟨?_, nan⟩
    rw [if_pos rfl, isNaN_convert]
    decide
  | false =>
    rw [if_neg Bool.false_ne_true, convert_convert nan]
    exact .inl rfl

/-- The value that is read where a word was written. -/
def Toml.Value.ofSingle (x : Single) : Value :=
  .real (if (x.convert : Double).isNaN then (Number.nan : Double) else x.convert)

theorem spells_single (x : Single) (levels : Nat) :
    Spells (readValue levels) (writeSingle x) (.ofSingle x) :=
  spells_real x.convert levels

/-- A parameter that is written is read as a value like it, without a report. -/
theorem Setting.exists_written {setting : Setting} {domain : Domain}
    (inDomain : setting.inDomain domain = true)
    (fits : ∀ n, setting = .count n → n ≤ maxInteger) :
    ∃ text value reread, setting.write? = some text ∧
      (∀ levels, Spells (readValue levels) text value) ∧
      Setting.ofValue? domain value = some (reread, []) ∧ reread.Alike setting := by
  cases setting with
  | real x =>
    cases domain with
    | real =>
      exact ⟨_, _, .real x.reread, rfl, spells_single x, rfl, x.alike_reread⟩
    | _ => cases inDomain
  | count n =>
    cases domain with
    | count bound =>
      have held := fits n rfl
      refine ⟨_, _, .count n, if_pos held, spells_count held, ?_, rfl⟩
      exact if_pos (of_decide_eq_true inDomain)
    | _ => cases inDomain
  | flag b =>
    cases domain with
    | flag => exact ⟨_, _, .flag b, rfl, spells_flag b, rfl, rfl⟩
    | _ => cases inDomain
  | mode m =>
    cases domain with
    | mode =>
      have line : IsLine m.name.toList := by
        cases m <;> decide
      have rows : longestRow '"' m.name.toList ≤ maxRow := by
        cases m <;> decide
      obtain ⟨text, written, spells⟩ := spells_text line rows
      refine ⟨text, _, .mode m, written, spells, ?_, rfl⟩
      cases m <;> rfl
    | _ => cases inDomain

namespace Parameters

/-! ## The table of parameters -/

/-- No count is greater than the integers of a document.  Only three of them can be. -/
def CountsFit (p : Parameters) : Prop :=
  p.numPointsThreshold.toNat ≤ maxInteger ∧ p.maxPointsPerRing.toNat ≤ maxInteger ∧
    p.verticalBins.toNat ≤ maxInteger

instance (p : Parameters) : Decidable p.CountsFit := inferInstanceAs (Decidable (_ ∧ _ ∧ _))

theorem countsFit_iff {p : Parameters} :
    p.CountsFit ↔ ∀ key n, p.get key = .count n → n ≤ maxInteger := by
  constructor
  · rintro ⟨points, capacity, rows⟩ key n got
    have rings : p.maxRings.toNat < 65536 := p.maxRings.toNat_lt
    have noise : p.noiseThreshold.toNat < 256 := p.noiseThreshold.toNat_lt
    cases key <;> cases got <;> first | assumption | (unfold maxInteger; omega)
  · intro fits
    exact ⟨fits .numPointsThreshold _ rfl, fits .maxPointsPerRing _ rfl, fits .verticalBins _ rfl⟩

end Parameters

/-- Every parameter is written as a value that is read as one like it. -/
theorem Parameters.exists_written {p : Parameters} (fits : p.CountsFit) :
    ∃ (text : Key → List Char) (value : Key → Value) (reread : Key → Setting), ∀ key,
      (p.get key).write? = some (text key) ∧
      (∀ levels, Spells (readValue levels) (text key) (value key)) ∧
      Setting.ofValue? key.domain (value key) = some (reread key, []) ∧
      (reread key).Alike (p.get key) := by
  have each := fun key => Setting.exists_written (p.inDomain_get key)
    fun n got => Parameters.countsFit_iff.mp fits key n got
  choose text value reread written using each
  exact ⟨text, value, reread, written⟩

theorem Key.isBareKey_name (key : Key) : IsBareKey key.name := by
  cases key <;> decide

theorem Key.nodup_names : (all.map name).Nodup := by decide

/-- A list with an element that has no image has none. -/
theorem mapM_eq_none_of_mem {α β : Type} {f : α → Option β} {items : List α} {item : α}
    (mem : item ∈ items) (unmapped : f item = none) : items.mapM f = none := by
  induction items with
  | nil => cases mem
  | cons first rest ih =>
    rw [List.mapM_cons]
    rcases List.mem_cons.mp mem with rfl | later
    · rw [unmapped]
      rfl
    · rw [ih later]
      cases f first with
      | none => rfl
      | some image => rfl

namespace Settings

/-- The table of parameters, for given texts and the values that are meant by them. -/
def filterBlock (text : Key → List Char) (value : Key → Value) : Block where
  name := "filter"
  entries := Key.all.map fun key => (key.name, value key, text key)

theorem isWritten_filterBlock {text : Key → List Char} {value : Key → Value}
    (spells : ∀ key levels, Spells (readValue levels) (text key) (value key)) :
    (filterBlock text value).IsWritten where
  name := (by decide : IsBareKey "filter")
  keys entry mem := by
    obtain ⟨key, -, rfl⟩ := List.mem_map.mp mem
    exact key.isBareKey_name
  values entry mem := by
    obtain ⟨key, -, rfl⟩ := List.mem_map.mp mem
    exact spells key _
  nodup := by
    unfold filterBlock
    rw [List.map_map]
    exact Key.nodup_names

theorem text_filterBlock (text : Key → List Char) (value : Key → Value) :
    (filterBlock text value).text =
      writeHeader "filter" ++ (Key.all.map fun key => writeEntry key.name (text key)).flatten := by
  simp [Block.text, Block.lines, filterBlock, Function.comp_def]

/-- The table is written line by line. -/
theorem writeParameters?_eq_some {p : Parameters} {text : Key → List Char}
    (written : ∀ key, (p.get key).write? = some (text key)) (value : Key → Value) :
    writeParameters? p = some (filterBlock text value).text := by
  have line : writeKey? p = fun key => pure (writeEntry key.name (text key)) := by
    funext key
    rw [writeKey?, written key]
    rfl
  rw [writeParameters?, line, List.mapM_pure, text_filterBlock]
  rfl

/-- One count that is too great is enough for the table not to be written. -/
theorem writeParameters?_eq_none {p : Parameters} (large : ¬p.CountsFit) :
    writeParameters? p = none := by
  obtain ⟨key, n, got, above⟩ : ∃ key n, p.get key = .count n ∧ maxInteger < n := by
    by_contra none
    refine large (Parameters.countsFit_iff.mpr fun key n got => ?_)
    exact Nat.not_lt.mp fun above => none ⟨key, n, got, above⟩
  have noLine : writeKey? p key = none := by
    rw [writeKey?, got, Setting.write?, writeCount?, if_neg (Nat.not_le.mpr above)]
    rfl
  rw [writeParameters?, mapM_eq_none_of_mem key.mem_all noLine]
  rfl

/-- The writer refuses settings exactly if a count is too great. -/
theorem write_refused_iff (settings : Settings) :
    settings.write = .error (.refused .countTooLarge) ↔ ¬settings.parameters.CountsFit := by
  constructor
  · intro refused fits
    obtain ⟨text, value, reread, written⟩ := Parameters.exists_written fits
    have parameters := writeParameters?_eq_some (fun key => (written key).1) value
    unfold write at refused
    rw [parameters] at refused
    cases mounted : settings.mount with
    | none =>
      rw [mounted] at refused
      cases refused
    | some mount =>
      rw [mounted] at refused
      cases table : writeMount? mount with
      | none => simp [table] at refused
      | some chars => simp [table] at refused
  · intro large
    rw [write, writeParameters?_eq_none large]

/-! ## The table of the mount -/

/-- The table of a mount, for a given text of the frame. -/
def mountBlock (mount : Mount) (frame : List Char) : Block where
  name := "transform"
  entries :=
    let ⟨x, y, z⟩ := mount.shift
    let ⟨w, i, j, k⟩ := mount.rotation
    [("target_frame", .text mount.frame, frame),
     ("translation", .list ([x, y, z].map .ofSingle), writeList ([x, y, z].map writeSingle)),
     ("rotation", .list ([w, i, j, k].map .ofSingle), writeList ([w, i, j, k].map writeSingle))]

/-- The mount that is read where a mount was written. -/
def rereadMount (mount : Mount) : Mount where
  frame := mount.frame
  shift := ⟨mount.shift.x.reread, mount.shift.y.reread, mount.shift.z.reread⟩
  rotation := ⟨mount.rotation.w.reread, mount.rotation.x.reread, mount.rotation.y.reread,
    mount.rotation.z.reread⟩

theorem alike_rereadMount (mount : Mount) : (rereadMount mount).Alike mount where
  frame := rfl
  numbers := by
    refine .cons ?_ (.cons ?_ (.cons ?_ (.cons ?_ (.cons ?_ (.cons ?_ (.cons ?_ .nil)))))) <;>
      exact Number.alike_reread _

theorem writeMount?_eq_some {mount : Mount} {frame : List Char}
    (written : writeText? mount.frame = some frame) :
    writeMount? mount = some (mountBlock mount frame).text := by
  unfold writeMount?
  rw [written]
  simp [Block.text, Block.lines, mountBlock]

theorem spells_singles (xs : List Single) (levels : Nat) :
    Spells (readValue (levels + 1)) (writeList (xs.map writeSingle))
      (.list (xs.map .ofSingle)) := by
  have each : ∀ entry ∈ xs.map fun x => (writeSingle x, Value.ofSingle x),
      Spells (readValue levels) entry.1 entry.2 := by
    intro entry mem
    obtain ⟨x, -, rfl⟩ := List.mem_map.mp mem
    exact spells_single x levels
  have spells := spells_list each
  simpa [List.map_map, Function.comp_def] using spells

theorem isWritten_mountBlock {mount : Mount} {frame : List Char}
    (spells : ∀ levels, Spells (readValue levels) frame (.text mount.frame)) :
    (mountBlock mount frame).IsWritten where
  name := (by decide : IsBareKey "transform")
  keys entry mem := by
    simp only [mountBlock, List.mem_cons, List.not_mem_nil, or_false] at mem
    rcases mem with rfl | rfl | rfl
    · exact (by decide : IsBareKey "target_frame")
    · exact (by decide : IsBareKey "translation")
    · exact (by decide : IsBareKey "rotation")
  values entry mem := by
    simp only [mountBlock, List.mem_cons, List.not_mem_nil, or_false] at mem
    rcases mem with rfl | rfl | rfl
    · exact spells _
    · exact spells_singles _ _
    · exact spells_singles _ _
  nodup := (by decide : ["target_frame", "translation", "rotation"].Nodup)

/-! ## Reading the tables back -/

/-- The table of parameters is read as the values that are meant. -/
theorem ofValue?_filterBlock {text : Key → List Char} {value : Key → Value}
    {reread : Key → Setting}
    (fits : ∀ key, Setting.ofValue? key.domain (value key) = some (reread key, [])) :
    ∃ q, Parameters.ofValue? (filterBlock text value).table.2 = (some q, []) ∧
      ∀ key, q.get key = reread key := by
  have keyed : Parameters.keyed (filterBlock text value).pairs =
      Key.all.map fun key => (key, value key) := by
    unfold Parameters.keyed Block.pairs filterBlock
    rw [List.map_map, List.filterMap_map]
    simp [Function.comp_def, Key.ofName?_name]
  have fitsAll : ∀ key ∈ Key.all, Setting.ofValue? key.domain (value key) =
      some (reread key, []) := fun key _ => fits key
  obtain ⟨q, set⟩ := Parameters.setAll?_of_fits fitsAll .unnamed
  refine ⟨q, ?_, fun key => ?_⟩
  · change Parameters.setAll? (Parameters.keyed (filterBlock text value).pairs) .unnamed = _
    rw [keyed, set]
  · have nodup : ((Key.all.map fun key => (key, value key)).map Prod.fst).Nodup := by
      rw [List.map_map]
      exact Key.nodup_all.map fun _ _ same => same
    rw [Parameters.get_setAll? nodup (congrArg Prod.fst set), List.lookup_graph value key.mem_all,
      Option.bind_some, fits]
    rfl

theorem ofValue?_mountBlock (mount : Mount) (frame : List Char) :
    Mount.ofValue? (mountBlock mount frame).table.2 = some (rereadMount mount) := rfl

end Settings

/-- A text is the text of its octets. -/
theorem Octets.text?_ofText (text : String) : (Octets.ofText text).text? = some text :=
  dif_pos text.isValidUTF8

namespace Settings

/-- Every mount can be written on a line: the name of its frame has no control characters, no
apostrophes and no row of quotes that is too long. -/
def FrameFits (settings : Settings) : Prop :=
  ∀ mount, settings.mount = some mount →
    IsLine mount.frame.toList ∧ longestRow '"' mount.frame.toList ≤ maxRow

/-- The settings of a document of one table. -/
theorem ofText_parameters {text : Key → List Char} {value : Key → Value}
    (written : (filterBlock text value).IsWritten) {q : Parameters}
    (read : Parameters.ofValue? (filterBlock text value).table.2 = (some q, [])) :
    ofText (String.ofList (filterBlock text value).text) = (.ok ⟨q, none⟩, []) := by
  have parsed : Toml.parse? (String.ofList (blocksText (filterBlock text value) [])) =
      some [(filterBlock text value).table] :=
    parse?_blocks (by simpa using written) (List.nodup_singleton _)
  have whole : blocksText (filterBlock text value) [] = (filterBlock text value).text :=
    List.append_nil _
  have table : (filterBlock text value).table = ("filter", (filterBlock text value).table.2) := rfl
  rw [whole, table] at parsed
  unfold ofText
  rw [parsed]
  dsimp only
  rw [ofTable?, setAll?, if_pos rfl, read]
  rfl

/-- The settings of a document of two tables. -/
theorem ofText_mount {text : Key → List Char} {value : Key → Value}
    (written : (filterBlock text value).IsWritten) {q : Parameters}
    (read : Parameters.ofValue? (filterBlock text value).table.2 = (some q, []))
    {mount : Mount} {frame : List Char} (mountWritten : (mountBlock mount frame).IsWritten) :
    ofText (String.ofList ((filterBlock text value).text ++ '\n' :: (mountBlock mount frame).text)) =
      (.ok ⟨q, some (rereadMount mount)⟩, []) := by
  have parsed :
      Toml.parse? (String.ofList (blocksText (filterBlock text value) [mountBlock mount frame])) =
        some [(filterBlock text value).table, (mountBlock mount frame).table] := by
    refine parse?_blocks (fun block mem => ?_) (by decide : ["filter", "transform"].Nodup)
    simp only [List.mem_cons, List.not_mem_nil, or_false] at mem
    rcases mem with rfl | rfl
    · exact written
    · exact mountWritten
  have whole : blocksText (filterBlock text value) [mountBlock mount frame] =
      (filterBlock text value).text ++ '\n' :: (mountBlock mount frame).text := by
    simp [blocksText]
  have first : (filterBlock text value).table = ("filter", (filterBlock text value).table.2) := rfl
  have second : (mountBlock mount frame).table =
      ("transform", (mountBlock mount frame).table.2) := rfl
  rw [whole, first, second] at parsed
  unfold ofText
  rw [parsed]
  dsimp only
  rw [ofTable?, setAll?, if_pos rfl, read]
  dsimp only
  rw [setAll?, if_neg (by decide), if_pos rfl, ofValue?_mountBlock]
  rfl

/-- A document of settings is read as settings like them. -/
theorem exists_write {settings : Settings} (fits : settings.parameters.CountsFit)
    (frame : settings.FrameFits) :
    ∃ text reread, settings.write = .ok text ∧ ofText text = (.ok reread, []) ∧
      reread.Alike settings := by
  obtain ⟨text, value, values, written⟩ := Parameters.exists_written fits
  have parameters := writeParameters?_eq_some (fun key => (written key).1) value
  have isWritten := isWritten_filterBlock fun key => (written key).2.1
  obtain ⟨q, read, got⟩ : ∃ q, Parameters.ofValue? (filterBlock text value).table.2 =
      (some q, []) ∧ ∀ key, q.get key = values key :=
    ofValue?_filterBlock fun key => (written key).2.2.1
  have alike : ∀ key, (q.get key).Alike (settings.parameters.get key) := by
    intro key
    rw [got]
    exact (written key).2.2.2
  unfold write
  rw [parameters]
  cases mounted : settings.mount with
  | none =>
    refine ⟨_, ⟨q, none⟩, rfl, ofText_parameters isWritten read, alike, ?_⟩
    rw [mounted]
    exact .none
  | some mount =>
    obtain ⟨line, rows⟩ := frame mount mounted
    obtain ⟨name, named, spells⟩ := spells_text line rows
    dsimp only
    rw [writeMount?_eq_some named]
    refine ⟨_, ⟨q, some (rereadMount mount)⟩, rfl,
      ofText_mount isWritten read (isWritten_mountBlock spells), alike, ?_⟩
    rw [mounted]
    exact .some (alike_rereadMount mount)

/-- Settings are refused by the writer exactly if a count is too great.  Otherwise they are written,
and where the document stands in a file, settings like them are read from it without a report. -/
theorem write_reads_back (settings : Settings) :
    (settings.write = .error (.refused .countTooLarge) ↔ ¬settings.parameters.CountsFit) ∧
      (settings.parameters.CountsFit → settings.FrameFits →
        ∃ text, settings.write = .ok text ∧
          ∀ (files : Files) (path : String), files path = .ok (Octets.ofText text) →
            ∃ reread, read files path = (.ok (some reread), []) ∧ reread.Alike settings) := by
  refine ⟨settings.write_refused_iff, fun fits frame => ?_⟩
  obtain ⟨text, reread, written, read, alike⟩ := exists_write fits frame
  refine ⟨text, written, fun files path stored => ⟨reread, ?_, alike⟩⟩
  unfold Settings.read
  rw [stored]
  dsimp only
  rw [Octets.text?_ofText]
  dsimp only
  rw [read]
  rfl

/-- Settings with words that are easily lost: a not-a-number, an infinity, a negative zero and the
least positive value, and a frame with quotes in its name. -/
def oddWords : Settings where
  parameters := { Parameters.standard with
    distanceRatio := Number.nan
    xMin := Number.infinity true
    yMin := Number.zero true
    maxDistance := Number.ofBits 1
    numPointsThreshold := 9223372036854775807 }
  mount := some { frame := "base \"left\"" }

theorem oddWords_read_back :
    oddWords.parameters.CountsFit ∧ oddWords.FrameFits ∧
      ∃ text, oddWords.write = .ok text ∧
        ∃ reread, read (fun _ => .ok (Octets.ofText text)) "config.toml" = (.ok (some reread), []) ∧
          reread.Alike oddWords := by
  have fits : oddWords.parameters.CountsFit := by decide
  have frame : oddWords.FrameFits := by
    intro mount mounted
    cases mounted
    decide
  obtain ⟨text, written, reads⟩ := (write_reads_back oddWords).2 fits frame
  exact ⟨fits, frame, text, written, reads (fun _ => .ok (Octets.ofText text)) "config.toml" rfl⟩

/-! ## Rows of quotes that are too long -/

/-- With too long a row of quotes in the name of the frame the writer cannot go on. -/
theorem write_eq_overrun {settings : Settings} (fits : settings.parameters.CountsFit)
    {mount : Mount} (mounted : settings.mount = some mount)
    (rows : maxRow < longestRow '"' mount.frame.toList) : settings.write = .error .overrun := by
  obtain ⟨text, value, values, written⟩ := Parameters.exists_written fits
  have parameters := writeParameters?_eq_some (fun key => (written key).1) value
  have noTable : writeMount? mount = none := by
    unfold writeMount?
    rw [writeText?_eq_none rows]
    rfl
  unfold write
  rw [parameters, mounted]
  dsimp only
  rw [noTable]

/-- A mount in a frame whose name is two hundred and fifty-six quotes. -/
def longRowMount : Mount where
  frame := String.ofList (List.replicate 256 '"')

def longRow : Settings where
  mount := some longRowMount

/-- Nothing in them is a control character, an apostrophe or a count that is too great, and still
they cannot be written. -/
theorem write_longRow :
    longRow.parameters.CountsFit ∧
      (∀ mount, longRow.mount = some mount → IsLine mount.frame.toList) ∧
      longRow.write = .error .overrun := by
  have fits : longRow.parameters.CountsFit := by decide
  have chars : longRowMount.frame.toList = List.replicate 256 '"' := String.toList_ofList
  have mounted : longRow.mount = some longRowMount := rfl
  have rows : longestRow '"' (List.replicate 256 '"') = 256 := by decide +kernel
  refine ⟨fits, fun mount held => ?_, write_eq_overrun fits mounted ?_⟩
  · have same : longRowMount = mount := Option.some.inj held
    rw [← same, chars]
    intro c mem
    rw [List.eq_of_mem_replicate mem]
    decide
  · rw [chars, rows]
    decide

end Settings

end LidarSieve
