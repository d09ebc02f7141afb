import LidarSieve.Proofs.Documents
import LidarSieve.Proofs.Quoting
/-!
# Documents that are written are read

A written document is a few tables, each a header and lines of one entry, with a line left free
between two tables.  If the text of each value is read as this value, the document is read as these
tables (`parse?_blocks`).
-/
set_option autoImplicit false

namespace LidarSieve.Toml

/-! ## Lines -/

/-- A key of one step that is written without marks. -/
def IsBareKey (key : String) : Prop := key.toList ≠ [] ∧ ∀ c ∈ key.toList, isBare c = true

instance (key : String) : Decidable (IsBareKey key) :=
  have : Decidable (∀ c ∈ key.toList, isBare c = true) :=
    List.decidableBAll (fun c => isBare c = true) key.toList
  inferInstanceAs (Decidable (key.toList ≠ [] ∧ ∀ c ∈ key.toList, isBare c = true))

theorem ne_of_bare {c mark : Char} (bare : isBare c = true) (other : isBare mark = false) :
    c ≠ mark := by
  rintro rfl
  rw [bare] at other
  cases other

theorem begins_of_bare {c : Char} (bare : isBare c = true) (rest : List Char) :
    Begins (c :: rest) := by
  refine ⟨c, rest, rfl, ?_, ?_⟩
  · unfold isBlank
    rw [beq_false_of_ne (ne_of_bare bare (by decide)), beq_false_of_ne (ne_of_bare bare (by decide))]
    rfl
  · intro mem
    simp only [List.mem_cons, List.not_mem_nil, or_false] at mem
    rcases mem with rfl | rfl | rfl | rfl <;> revert bare <;> decide

theorem skipBlanks_begins {text : List Char} (begins : Begins text) (behind : List Char) :
    skipBlanks (text ++ behind) = text ++ behind := by
  obtain ⟨c, rest, rfl, noBlank, -⟩ := begins
  exact List.dropWhile_cons_of_neg (by simp [noBlank])

theorem IsBareKey.exists_head {key : String} (bare : IsBareKey key) :
    ∃ c rest, key.toList = c :: rest ∧ isBare c = true := by
  obtain ⟨nonempty, all⟩ := bare
  cases chars : key.toList with
  | nil => exact absurd chars nonempty
  | cons c rest => exact ⟨c, rest, rfl, all c (by rw [chars]; exact List.mem_cons_self)⟩

theorem IsBareKey.begins {key : String} (bare : IsBareKey key) : Begins key.toList := by
  obtain ⟨c, rest, chars, isBare⟩ := bare.exists_head
  rw [chars]
  exact begins_of_bare isBare rest

/-- A bare key is a key of one step. -/
theorem readPath_bare {key : String} (bare : IsBareKey key) {c d : Char} {rest behind : List Char}
    (other : isBare c = false) (skipped : skipBlanks (c :: rest) = d :: behind)
    (noPoint : d ≠ '.') :
    readPath (key.toList ++ c :: rest) = some (⟨[], key⟩, d :: behind) := by
  have taken : (key.toList ++ c :: rest).takeWhile isBare = key.toList := by
    rw [List.takeWhile_append_of_pos bare.2, List.takeWhile_cons_of_neg (by simp [other]),
      List.append_nil]
  have left : (key.toList ++ c :: rest).dropWhile isBare = c :: rest := by
    rw [List.dropWhile_append_of_pos bare.2, List.dropWhile_cons_of_neg (by simp [other])]
  have noBlank := skipBlanks_begins bare.begins (c :: rest)
  have step : readStep (key.toList ++ c :: rest) = some (key.toList, c :: rest) := by
    obtain ⟨e, more, chars, isBare⟩ := bare.exists_head
    rw [chars] at taken left
    rw [chars]
    rw [List.cons_append] at taken left ⊢
    rw [readStep]
    · rw [taken, left]
      rfl
    · exact fun behind same => ne_of_bare isBare (by decide) (List.cons.inj same).1
    · exact fun behind same => ne_of_bare isBare (by decide) (List.cons.inj same).1
  have steps : readSteps ((key.toList ++ c :: rest).length + 1) (key.toList ++ c :: rest) =
      some ([key], d :: behind) := by
    rw [readSteps, noBlank, step]
    simp only [Option.bind_eq_bind, Option.bind_some, skipped]
    split
    · rename_i more point
      exact absurd (List.cons.inj point).1 noPoint
    · simp
  unfold readPath
  rw [steps]
  rfl

/-- The line is read as the statement, whatever stands behind it. -/
structure IsLineOf (statement : Statement) (line : List Char) : Prop where
  begins : Begins line
  reads : ∀ rest, readStatement (line ++ rest) = some (statement, rest)

theorem isLineOf_header {name : String} (bare : IsBareKey name) :
    IsLineOf (.header ⟨[], name⟩) (writeHeader name) where
  begins := ⟨'[', _, rfl, by decide, by decide⟩
  reads rest := by
    have path : readPath (name.toList ++ ']' :: '\n' :: rest) =
        some (⟨[], name⟩, ']' :: '\n' :: rest) :=
      readPath_bare bare (by decide) rfl (by decide)
    have whole : writeHeader name ++ rest = '[' :: (name.toList ++ ']' :: '\n' :: rest) := by
      simp [writeHeader]
    rw [whole, readStatement]
    · rw [path]
      rfl
    · intro more same
      obtain ⟨c, behind, chars, isBare⟩ := bare.exists_head
      rw [chars] at same
      exact ne_of_bare isBare (by decide) (List.cons.inj same).1

theorem isLineOf_entry {key : String} (bare : IsBareKey key) {text : List Char} {value : Value}
    (spells : Spells (readValue (nestingLimit - 1)) text value) :
    IsLineOf (.entry ⟨[], key⟩ value) (writeEntry key text) where
  begins := by
    obtain ⟨c, rest, chars, isBare⟩ := bare.exists_head
    unfold writeEntry
    rw [chars]
    exact begins_of_bare isBare _
  reads rest := by
    have path : readPath (key.toList ++ ' ' :: '=' :: ' ' :: (text ++ '\n' :: rest)) =
        some (⟨[], key⟩, '=' :: ' ' :: (text ++ '\n' :: rest)) :=
      readPath_bare bare (by decide) rfl (by decide)
    have skipped : skipBlanks (' ' :: (text ++ '\n' :: rest)) = text ++ '\n' :: rest :=
      skipBlanks_begins spells.begins ('\n' :: rest)
    have read := spells.reads ('\n' :: rest) ⟨'\n', rest, rfl, .inl rfl⟩
    have pair : readPair (readValue (nestingLimit - 1))
        (key.toList ++ ' ' :: '=' :: ' ' :: (text ++ '\n' :: rest)) =
        some ((⟨[], key⟩, value), '\n' :: rest) := by
      unfold readPair
      rw [path]
      simp only [Option.bind_eq_bind, Option.bind_some]
      rw [skipped, read]
      rfl
    have whole : writeEntry key text ++ rest =
        key.toList ++ ' ' :: '=' :: ' ' :: (text ++ '\n' :: rest) := by
      simp [writeEntry]
    obtain ⟨c, more, chars, isBare⟩ := bare.exists_head
    rw [chars, List.cons_append] at pair
    rw [whole, chars, List.cons_append, readStatement]
    · rw [pair]
      rfl
    · exact fun behind same => ne_of_bare isBare (by decide) (List.cons.inj same).1
    · exact fun behind same => ne_of_bare isBare (by decide) (List.cons.inj same).1

/-! ## Rounds of reading -/

/-- More rounds read the same. -/
theorem readStatements_mono {bound more : Nat} {text : List Char} {statements : List Statement}
    (read : readStatements bound text = some statements) (le : bound ≤ more) :
    readStatements more text = some statements := by
  induction bound generalizing more text statements with
  | zero => cases read
  | succ bound ih =>
    obtain ⟨rounds, rfl⟩ : ∃ rounds, more = rounds + 1 := ⟨more - 1, by omega⟩
    rw [readStatements] at read ⊢
    split at read
    · exact read
    · obtain ⟨behind, ended, read⟩ := Option.bind_eq_some_iff.mp read
      simp only [ended, Option.bind_eq_bind, Option.bind_some]
      exact ih read (by omega)
    · exact ih read (by omega)
    · obtain ⟨behind, ended, read⟩ := Option.bind_eq_some_iff.mp read
      simp only [ended, Option.bind_eq_bind, Option.bind_some]
      exact ih read (by omega)
    · obtain ⟨⟨statement, behind⟩, first, read⟩ := Option.bind_eq_some_iff.mp read
      obtain ⟨others, later, same⟩ := Option.bind_eq_some_iff.mp read
      simp only [first, Option.bind_eq_bind, Option.bind_some, ih later (by omega : bound ≤ rounds)]
      exact same

/-- One round reads one line. -/
theorem readStatements_line {statement : Statement} {line : List Char}
    (isLine : IsLineOf statement line) {bound : Nat} {rest : List Char} {statements : List Statement}
    (read : readStatements bound rest = some statements) :
    readStatements (bound + 1) (line ++ rest) = some (statement :: statements) := by
  have first := isLine.reads rest
  have noBlank := skipBlanks_begins isLine.begins rest
  obtain ⟨c, more, rfl, -, other⟩ := isLine.begins
  simp only [List.mem_cons, List.not_mem_nil, or_false, not_or] at other
  obtain ⟨noBreak, noReturn, noComment, -⟩ := other
  rw [readStatements, noBlank]
  rw [List.cons_append] at first ⊢
  split
  · rename_i same
    cases same
  · rename_i behind same
    exact absurd (List.cons.inj same).1 noComment
  · rename_i behind same
    exact absurd (List.cons.inj same).1 noBreak
  · rename_i behind same
    exact absurd (List.cons.inj same).1 noReturn
  · rw [first]
    simp only [Option.bind_eq_bind, Option.bind_some, read]
    rfl

/-- Lines one after the other are read one after the other. -/
theorem readStatements_lines {lines : List (Statement × List Char)}
    (areLines : ∀ line ∈ lines, IsLineOf line.1 line.2) {bound : Nat} {rest : List Char}
    {statements : List Statement} (read : readStatements bound rest = some statements) :
    readStatements (bound + lines.length) ((lines.map Prod.snd).flatten ++ rest) =
      some (lines.map Prod.fst ++ statements) := by
  induction lines with
  | nil => exact read
  | cons line more ih =>
    have others := ih fun line mem => areLines line (List.mem_cons_of_mem _ mem)
    rw [List.map_cons, List.flatten_cons, List.append_assoc]
    exact readStatements_line (areLines line List.mem_cons_self) others

/-! ## Tables -/

/-- A table as it is written: its name, and its keys with the texts of their values. -/
structure Block where
  name : String
  /-- For each entry the key, the value that is meant, and its text. -/
  entries : List (String × Value × List Char)

namespace Block

/-- The header and the lines of the block. -/
def lines (block : Block) : List (Statement × List Char) :=
  (.header ⟨[], block.name⟩, writeHeader block.name) ::
    block.entries.map fun (key, value, text) => (.entry ⟨[], key⟩ value, writeEntry key text)

def text (block : Block) : List Char := (block.lines.map Prod.snd).flatten

def statements (block : Block) : List Statement := block.lines.map Prod.fst

/-- The keys with the values that are meant. -/
def pairs (block : Block) : Table := block.entries.map fun (key, value, _) => (key, value)

/-- The entry that the block makes in a document. -/
def table (block : Block) : String × Value := (block.name, .table .header block.pairs)

/-- Its keys are bare and distinct, and each text is read as the value that is meant. -/
structure IsWritten (block : Block) : Prop where
  name : IsBareKey block.name
  keys : ∀ entry ∈ block.entries, IsBareKey entry.1
  values : ∀ entry ∈ block.entries,
    Spells (readValue (nestingLimit - 1)) entry.2.2 entry.2.1
  nodup : (block.entries.map Prod.fst).Nodup

variable {block : Block}

theorem IsWritten.areLines (written : block.IsWritten) :
    ∀ line ∈ block.lines, IsLineOf line.1 line.2 := by
  intro line mem
  rcases List.mem_cons.mp mem with rfl | mem
  · exact isLineOf_header written.name
  · obtain ⟨entry, held, rfl⟩ := List.mem_map.mp mem
    exact isLineOf_entry (written.keys entry held) (written.values entry held)

end Block

/-- Every line takes at least one character. -/
theorem Block.IsWritten.length_lines_le {block : Block} (written : block.IsWritten) :
    block.lines.length ≤ block.text.length := by
  have length_le : ∀ lines : List (Statement × List Char),
      (∀ line ∈ lines, IsLineOf line.1 line.2) →
      lines.length ≤ (lines.map Prod.snd).flatten.length := by
    intro lines
    induction lines with
    | nil => exact fun _ => Nat.le_refl 0
    | cons line rest ih =>
      intro areLines
      obtain ⟨c, more, chars, -⟩ := (areLines line List.mem_cons_self).begins
      have others := ih fun line mem => areLines line (List.mem_cons_of_mem _ mem)
      rw [List.map_cons, List.flatten_cons, List.length_append, chars, List.length_cons,
        List.length_cons]
      omega
  exact length_le block.lines written.areLines

/-- A document: blocks with a free line between them. -/
def blocksText (first : Block) (others : List Block) : List Char :=
  first.text ++ others.flatMap fun block => '\n' :: block.text

theorem readStatements_blocks {first : Block} {others : List Block}
    (written : ∀ block ∈ first :: others, block.IsWritten) :
    readStatements ((blocksText first others).length + 1) (blocksText first others) =
      some ((first :: others).flatMap Block.statements) := by
  have firstWritten := written first List.mem_cons_self
  have enough := firstWritten.length_lines_le
  induction others generalizing first with
  | nil =>
    have nothing : readStatements 1 [] = some [] := rfl
    have read := readStatements_lines firstWritten.areLines nothing
    have whole : blocksText first [] = first.text ++ [] := rfl
    rw [whole]
    refine (readStatements_mono read ?_).trans ?_
    · rw [List.length_append]
      omega
    · simp [Block.statements]
  | cons second others ih =>
    have writtenOthers : ∀ block ∈ second :: others, block.IsWritten := fun block mem =>
      written block (List.mem_cons_of_mem _ mem)
    have secondWritten := writtenOthers second List.mem_cons_self
    have later := ih writtenOthers secondWritten secondWritten.length_lines_le
    have free : readStatements ((blocksText second others).length + 1 + 1)
        ('\n' :: blocksText second others) = some ((second :: others).flatMap Block.statements) :=
      later
    have read := readStatements_lines firstWritten.areLines free
    have whole : blocksText first (second :: others) =
        first.text ++ '\n' :: blocksText second others := by
      simp [blocksText]
    rw [whole]
    refine (readStatements_mono read ?_).trans ?_
    · rw [List.length_append, List.length_cons]
      omega
    · simp [Block.statements]

namespace Table

/-! ## Building the tables -/

theorem put_append_last {table : Table} {key : String} {before value : Value}
    (absent : table.lookup key = none) :
    put key value (table ++ [(key, before)]) = table ++ [(key, value)] := by
  induction table with
  | nil => simp [put]
  | cons entry rest ih =>
    rw [List.lookup_cons] at absent
    cases same : key == entry.1 with
    | true =>
      rw [same] at absent
      cases absent
    | false =>
      rw [same] at absent
      have other : entry.1 ≠ key := fun equal => by simp [equal] at same
      rw [List.cons_append, put, if_neg other, ih absent]
      rfl

theorem lookup_append_last {table : Table} {key : String} {value : Value}
    (absent : table.lookup key = none) : (table ++ [(key, value)]).lookup key = some value := by
  rw [List.lookup_append, absent]
  simp

/-- An entry under a header is added to the table of this header. -/
theorem run?_entries {name : String} {root : Table} (absent : root.lookup name = none)
    {inner entries : Table} (nodup : ((inner ++ entries).map Prod.fst).Nodup)
    (rest : List Statement) :
    run? [name] (entries.map (fun entry => .entry ⟨[], entry.1⟩ entry.2) ++ rest)
        (root ++ [(name, .table .header inner)]) =
      run? [name] rest (root ++ [(name, .table .header (inner ++ entries))]) := by
  induction entries generalizing inner with
  | nil => rw [List.append_nil]; rfl
  | cons entry more ih =>
    obtain ⟨key, value⟩ := entry
    have fresh : inner.lookup key = none := by
      refine lookup_eq_none_of_not_mem fun mem => ?_
      rw [List.map_append, List.nodup_append] at nodup
      exact nodup.2.2 key mem key List.mem_cons_self rfl
    have grown : within? (insert? value key []) [name]
        (root ++ [(name, .table .header inner)]) =
        some (root ++ [(name, .table .header (inner ++ [(key, value)]))]) := by
      rw [within?, lookup_append_last absent]
      simp only [within?, insert?, add?, fresh, Option.bind_eq_bind, Option.bind_some]
      rw [put_append_last absent]
      rfl
    have whole : inner ++ (key, value) :: more = inner ++ [(key, value)] ++ more := by simp
    rw [whole] at nodup ⊢
    rw [← ih nodup]
    rw [List.map_cons, List.cons_append, run?, grown]
    rfl

/-- A block adds its table to a document that has no table of this name. -/
theorem run?_block {block : Block} (written : block.IsWritten) {current : List String}
    {root : Table} (absent : root.lookup block.name = none) (rest : List Statement) :
    run? current (block.statements ++ rest) root =
      run? [block.name] rest (root ++ [block.table]) := by
  have whole : block.statements ++ rest = .header ⟨[], block.name⟩ ::
      (block.pairs.map (fun entry => .entry ⟨[], entry.1⟩ entry.2) ++ rest) := by
    simp [Block.statements, Block.lines, Block.pairs]
  have declared : within? (declare? block.name) [] root =
      some (root ++ [(block.name, .table .header [])]) := by
    rw [within?, declare?, absent]
  have nodup : (([] ++ block.pairs).map Prod.fst).Nodup := by
    rw [List.nil_append, Block.pairs, List.map_map]
    exact written.nodup
  rw [whole, run?, declared, Option.bind_eq_bind, Option.bind_some]
  exact run?_entries absent nodup rest

theorem run?_blocks {blocks : List Block} (written : ∀ block ∈ blocks, block.IsWritten)
    {current : List String} {root : Table}
    (nodup : (root.map Prod.fst ++ blocks.map Block.name).Nodup) :
    run? current (blocks.flatMap Block.statements) root = some (root ++ blocks.map Block.table) := by
  induction blocks generalizing current root with
  | nil =>
    rw [List.map_nil, List.append_nil]
    rfl
  | cons block rest ih =>
    have fresh : root.lookup block.name = none := by
      refine lookup_eq_none_of_not_mem fun mem => ?_
      rw [List.nodup_append] at nodup
      exact nodup.2.2 _ mem _ List.mem_cons_self rfl
    have later : ((root ++ [block.table]).map Prod.fst ++ rest.map Block.name).Nodup := by
      simpa [Block.table] using nodup
    rw [List.flatMap_cons, run?_block (written block List.mem_cons_self) fresh,
      ih (fun block mem => written block (List.mem_cons_of_mem _ mem)) later]
    simp

end Table

/-- A written document is read as the tables of its blocks. -/
theorem parse?_blocks {first : Block} {others : List Block}
    (written : ∀ block ∈ first :: others, block.IsWritten)
    (nodup : ((first :: others).map Block.name).Nodup) :
    parse? (String.ofList (blocksText first others)) =
      some ((first :: others).map Block.table) := by
  have noMark : skipByteOrderMark (blocksText first others) = blocksText first others := rfl
  have read := readStatements_blocks written
  have built : Table.run? [] ((first :: others).flatMap Block.statements) [] =
      some ([] ++ (first :: others).map Block.table) :=
    Table.run?_blocks written (by simpa using nodup)
  unfold parse?
  dsimp only
  rw [String.toList_ofList, noMark, read, Option.bind_some, Table.ofStatements?, built]
  rfl

end LidarSieve.Toml
