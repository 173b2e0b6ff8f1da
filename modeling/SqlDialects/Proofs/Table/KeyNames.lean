import SqlDialects.Proofs.Table.Creation
import SqlDialects.Proofs.Table.Keys
import SqlDialects.Table.Alter
import SqlDialects.Table.Create

/-! The names that keys get where none is given. Such a name is made of the table, the kind of the
key and its columns with underscores between them, no matter how the key is declared. Two of them
are the same for keys of one kind whose columns are the same when they are joined in this way, and
only for these. -/

namespace SqlDialects

theorem Text.toList_join (separator : String) (parts : List String) :
    (join separator parts).toList =
      separator.toList.intercalate (parts.map String.toList) := by
  induction parts with
  | nil => rfl
  | cons part parts ih =>
    cases parts with
    | nil => simp [join]
    | cons next parts =>
      rw [join, String.toList_append, String.toList_append, ih]
      exact List.intercalate_cons_cons.symm

/-- Texts without a separator in them can be told from their join. -/
theorem Text.join_inj {separator : Char} {first second : List String}
    (hfirst : first ≠ [] ∧ ∀ part ∈ first, separator ∉ part.toList)
    (hsecond : second ≠ [] ∧ ∀ part ∈ second, separator ∉ part.toList)
    (h : join (String.singleton separator) first = join (String.singleton separator) second) :
    first = second := by
  have hsplit (parts : List String) (hne : parts ≠ [])
      (hparts : ∀ part ∈ parts, separator ∉ part.toList) :
      (join (String.singleton separator) parts).toList.splitOn separator =
        parts.map String.toList := by
    rw [toList_join, String.toList_singleton]
    exact List.splitOn_intercalate separator (List.forall_mem_map.mpr hparts)
      (mt List.map_eq_nil_iff.mp hne)
  have hlists : first.map String.toList = second.map String.toList := by
    rw [← hsplit first hfirst.1 hfirst.2, h, hsplit second hsecond.1 hsecond.2]
  exact List.map_injective_iff.mpr (fun _ _ => String.toList_injective) hlists

theorem KeyKind.suffix_inj {first second : KeyKind} (h : first.suffix = second.suffix) :
    first = second := by
  cases first <;> cases second <;> first | rfl | exact absurd h (by decide)

theorem toList_keyName (table : String) (kind : KeyKind) (columns : List String) :
    (keyName table kind columns).toList = table.toList ++
      ('_' :: (kind.suffix.toList ++ '_' :: (Text.join "_" columns).toList)) := by
  simp [keyName]

/-- The names of keys of one table. -/
theorem keyName_eq_iff {table : String} {first second : KeyKind} {columns others : List String} :
    keyName table first columns = keyName table second others ↔
      first = second ∧ Text.join "_" columns = Text.join "_" others := by
  constructor
  · intro h
    have hlists := congrArg String.toList h
    rw [toList_keyName, toList_keyName, List.append_cancel_left_eq, List.cons.injEq] at hlists
    -- All marks are of one length, so the columns begin at the same place.
    have hlength : first.suffix.toList.length = second.suffix.toList.length := by
      cases first <;> cases second <;> rfl
    obtain ⟨hsuffix, hjoined⟩ := List.append_inj hlists.2 hlength
    exact ⟨KeyKind.suffix_inj (String.toList_injective hsuffix),
      String.toList_injective (List.cons.inj hjoined).2⟩
  · rintro ⟨rfl, h⟩
    rw [keyName, keyName, h]

/-- Whether a key has the name that it gets where none is given. -/
def IsNamedAfter (table : String) (key : KeyKind × Key) : Prop :=
  key.2.name = keyName table key.1 key.2.columns

def ForeignKey.key (key : ForeignKey) : Key := ⟨key.name, key.columns⟩

/-- The properties of a foreign key do not concern its name and its columns. -/
theorem ForeignKey.key_declare (table : String) (name : Option String) (columns : List String)
    (steps : List ForeignStep) :
    (declare table name columns steps).key = Key.declare table .foreign name columns := by
  have hsteps (key : ForeignKey) : (steps.foldl ForeignStep.apply key).key = key.key := by
    induction steps generalizing key with
    | nil => rfl
    | cons step steps ih =>
      rw [List.foldl_cons, ih]
      cases step <;> rfl
  exact hsteps _

/-! Steps that give no names. -/

def TableStep.IsUnnamed : TableStep → Prop
  | column _ _ => True
  | key _ name _ => name = none
  | foreign name _ _ => name = none

def CreateStep.IsUnnamed : CreateStep → Prop
  | declare step => step.IsUnnamed
  | engine _ => True

def AlterStep.IsUnnamed : AlterStep → Prop
  | declare step => step.IsUnnamed
  | _ => True

namespace CreateTable

/-- The keys of a kind. -/
def keys (table : CreateTable) : KeyKind → List Key
  | .primary => table.primaryKey.toList
  | .unique => table.uniqueKeys
  | .index => table.indexes
  | .foreign => table.foreignKeys.map ForeignKey.key

/-- Whether this is the name of the table, and its keys have the names that follow from it. -/
structure NamesKeys (name : String) (table : CreateTable) : Prop where
  name_eq : table.name = name
  keys : ∀ kind, ∀ key ∈ table.keys kind, IsNamedAfter name (kind, key)

variable {name : String} {table : CreateTable}

theorem NamesKeys.of_keys_eq {other : CreateTable} (h : table.NamesKeys name)
    (hname : other.name = table.name) (hkeys : other.keys = table.keys) :
    other.NamesKeys name :=
  ⟨hname.trans h.name_eq, hkeys ▸ h.keys⟩

theorem NamesKeys.addKey (h : table.NamesKeys name) {kind : KeyKind} {key : Key}
    (hkey : IsNamedAfter name (kind, key)) : (table.addKey kind key).NamesKeys name := by
  -- A primary key takes the place of an older one, the others are added.
  have hmem (kind' : KeyKind) (other : Key) (hother : other ∈ (table.addKey kind key).keys kind') :
      other ∈ table.keys kind' ∨ (kind', other) = (kind, key) := by
    cases kind <;> cases kind' <;>
      simp_all [CreateTable.addKey, CreateTable.keys, ForeignKey.key]
  refine ⟨?_, fun kind' other hother => ?_⟩
  · rw [← h.name_eq]
    cases kind <;> rfl
  · rcases hmem kind' other hother with hold | hnew
    · exact h.keys kind' other hold
    · rw [hnew]
      exact hkey

theorem NamesKeys.addForeignKey (h : table.NamesKeys name) {key : ForeignKey}
    (hkey : IsNamedAfter name (.foreign, key.key)) : (table.addForeignKey key).NamesKeys name where
  name_eq := h.name_eq
  keys kind other hother := by
    cases kind with
    | foreign =>
      rw [CreateTable.keys, CreateTable.addForeignKey, List.map_append, List.mem_append] at hother
      rcases hother with hold | hnew
      · exact h.keys .foreign other hold
      · cases List.mem_singleton.mp hnew
        exact hkey
    | primary => exact h.keys .primary other hother
    | unique => exact h.keys .unique other hother
    | index => exact h.keys .index other hother

theorem NamesKeys.applyColumnStep (h : table.NamesKeys name) (column : Column)
    (step : ColumnStep) : (CreateTable.applyColumnStep (table, column) step).1.NamesKeys name := by
  have hkey (kind : KeyKind) : (table.addColumnKey kind column.name).NamesKeys name := by
    refine h.addKey ?_
    rw [h.name_eq]
    rfl
  cases step with
  | autoincrement => exact hkey .primary
  | key kind => exact hkey kind
  | _ => exact h

theorem NamesKeys.foldl_applyColumnStep (h : table.NamesKeys name) (column : Column)
    (steps : List ColumnStep) :
    (steps.foldl CreateTable.applyColumnStep (table, column)).1.NamesKeys name := by
  induction steps generalizing table column with
  | nil => exact h
  | cons step steps ih => exact ih (h.applyColumnStep column step) _

theorem NamesKeys.addColumn (h : table.NamesKeys name) (column : Column)
    (properties : ColumnSteps) : (table.addColumn column properties).NamesKeys name := by
  have hsteps := h.foldl_applyColumnStep column properties.steps
  unfold CreateTable.addColumn
  generalize properties.steps.foldl CreateTable.applyColumnStep (table, column) = state at hsteps
  obtain ⟨table', column'⟩ := state
  have hcolumn : ({ table' with columns := table'.columns ++ [column'] } : CreateTable).NamesKeys
      name := hsteps.of_keys_eq rfl (by funext kind; cases kind <;> rfl)
  cases properties.reference with
  | none => exact hcolumn
  | some reference =>
    refine hcolumn.addForeignKey ?_
    rw [Reference.toForeignKey, ForeignKey.key_declare, hcolumn.name_eq]
    rfl

theorem NamesKeys.apply (h : table.NamesKeys name) {step : CreateStep} (hstep : step.IsUnnamed) :
    (table.apply step).NamesKeys name := by
  cases step with
  | engine engine => exact h.of_keys_eq rfl (by funext kind; cases kind <;> rfl)
  | declare step =>
    cases step with
    | column column properties => exact h.addColumn column properties
    | key kind given columns =>
      cases hstep
      refine h.addKey ?_
      rw [h.name_eq]
      rfl
    | foreign given columns steps =>
      cases hstep
      refine h.addForeignKey ?_
      rw [ForeignKey.key_declare, h.name_eq]
      rfl

theorem namesKeys_ofSteps (name : String) {steps : List CreateStep}
    (h : ∀ step ∈ steps, step.IsUnnamed) : (ofSteps name steps).NamesKeys name := by
  have hempty : NamesKeys name { name := name } :=
    ⟨rfl, fun kind key hkey => by cases kind <;> cases hkey⟩
  exact List.foldlRecOn steps CreateTable.apply hempty fun _ htable step hstep =>
    htable.apply (h step hstep)

variable (dialect : Dialect) (table)

/-- The keys of a kind that statements declare with names. A primary key that the definition of its
column declares has none. -/
def writtenKeysOf (kind : KeyKind) : List (KeyKind × Key) :=
  (if kind = .primary ∧ table.keyIsInline dialect then [] else table.keys kind).map (kind, ·)

def writtenKeys : List (KeyKind × Key) :=
  [.primary, .unique, .index, .foreign].flatMap (table.writtenKeysOf dialect)

theorem namedKeys_eq :
    table.namedKeys dialect =
      (table.writtenKeys dialect).map fun (kind, key) => (kind, key.name) := by
  have hkind (kind : KeyKind) : (table.keyNames dialect kind).map (kind, ·) =
      (table.writtenKeysOf dialect kind).map fun (kind, key) => (kind, key.name) := by
    cases kind with
    | primary =>
      by_cases hinline : table.keyIsInline dialect <;>
        simp [keyNames, writtenKeysOf, keys, hinline, Function.comp_def]
    | _ => simp [keyNames, writtenKeysOf, keys, ForeignKey.key, Function.comp_def]
  rw [namedKeys, writtenKeys, List.map_flatMap]
  exact List.flatMap_congr fun kind _ => hkind kind

theorem NamesKeys.writtenKeys {table : CreateTable} (h : table.NamesKeys name) :
    ∀ key ∈ table.writtenKeys dialect, IsNamedAfter name key := by
  intro key hkey
  obtain ⟨kind, -, hkind⟩ := List.mem_flatMap.mp hkey
  obtain ⟨key, hmem, rfl⟩ := List.mem_map.mp hkind
  split at hmem
  · cases hmem
  · exact h.keys kind key hmem

end CreateTable

namespace AlterOperation

/-- The key that an operation declares. -/
def key? : AlterOperation → Option (KeyKind × Key)
  | addAutoincrement column key => some (.primary, soleKey key column)
  | addKey kind key => some (kind, key)
  | addForeign key => some (.foreign, key.key)
  | autoincrement column key => some (.primary, soleKey key column)
  | _ => none

theorem namedKey?_eq (operation : AlterOperation) :
    operation.namedKey? = operation.key?.map fun (kind, key) => (kind, key.name) := by
  cases operation <;> rfl

theorem key?_ofKey (kind : KeyKind) (key : Key) : (ofKey kind key).key? = some (kind, key) := by
  cases kind <;> rfl

/-- Whether the key that an operation declares, if any, has the name that it gets where none is
given. -/
def NamesKey (name : String) (operation : AlterOperation) : Prop :=
  ∀ key ∈ operation.key?, IsNamedAfter name key

variable {name : String} {operation : AlterOperation} {later : List AlterOperation}

theorem namesKey_of_none (h : operation.key? = none) : operation.NamesKey name := by
  intro key hkey
  cases h.symm.trans hkey

theorem namesKey_of_key? {key : KeyKind × Key} (h : operation.key? = some key)
    (hkey : IsNamedAfter name key) : operation.NamesKey name := by
  intro other hother
  cases h.symm.trans hother
  exact hkey

theorem namesKey_of_declare {table : String} (h : table = name) (kind : KeyKind)
    (columns : List String) : (ofKey kind (Key.declare table kind none columns)).NamesKey name := by
  subst h
  exact namesKey_of_key? (key?_ofKey _ _) rfl

theorem namesKey_addForeign {table : String} (h : table = name) (columns : List String)
    (steps : List ForeignStep) :
    (addForeign (ForeignKey.declare table none columns steps)).NamesKey name := by
  subst h
  refine namesKey_of_key? rfl ?_
  rw [ForeignKey.key_declare]
  rfl

theorem NamesKey.makeAutoincrement (h : operation.NamesKey name) :
    (operation.makeAutoincrement name).NamesKey name := by
  cases operation with
  | addColumn column | modifyColumn column => exact namesKey_of_key? rfl rfl
  | _ => exact h

theorem NamesKey.applyStep (h : operation.NamesKey name) (step : ColumnStep) :
    (operation.mapColumn fun column => column.applyStep step).NamesKey name := by
  cases operation with
  | addColumn column | modifyColumn column => exact namesKey_of_none rfl
  | _ => exact h

/-- What is said about a column adds keys behind its operation, or makes it declare one. -/
theorem namesKey_applyColumnStep (column : String) (step : ColumnStep)
    (h : operation.NamesKey name ∧ ∀ other ∈ later, other.NamesKey name) :
    let state := applyColumnStep name column (operation, later) step
    state.1.NamesKey name ∧ ∀ other ∈ state.2, other.NamesKey name := by
  cases step with
  | autoincrement => exact ⟨h.1.makeAutoincrement, h.2⟩
  | key kind =>
    refine ⟨h.1, List.forall_mem_append.mpr ⟨h.2, List.forall_mem_singleton.mpr ?_⟩⟩
    exact namesKey_of_declare rfl kind [column]
  | _ => exact ⟨h.1.applyStep _, h.2⟩

theorem namesKey_foldl_applyColumnStep (column : String) (steps : List ColumnStep)
    (h : operation.NamesKey name ∧ ∀ other ∈ later, other.NamesKey name) :
    let state := steps.foldl (applyColumnStep name column) (operation, later)
    state.1.NamesKey name ∧ ∀ other ∈ state.2, other.NamesKey name := by
  induction steps generalizing operation later with
  | nil => exact h
  | cons step steps ih => exact ih (namesKey_applyColumnStep column step h)

end AlterOperation

namespace AlterTable

/-- Whether this is the name of the table, and the keys that are declared for it have the names that
follow from it. -/
structure NamesKeys (name : String) (alter : AlterTable) : Prop where
  name_eq : alter.name = name
  operations : ∀ operation ∈ alter.operations, operation.NamesKey name

variable {name : String} {alter : AlterTable}

theorem NamesKeys.addOperations (h : alter.NamesKeys name) {operations : List AlterOperation}
    (hoperations : ∀ operation ∈ operations, operation.NamesKey name) :
    (alter.addOperations operations).NamesKeys name :=
  ⟨h.name_eq, List.forall_mem_append.mpr ⟨h.operations, hoperations⟩⟩

theorem NamesKeys.addOne (h : alter.NamesKeys name) {operation : AlterOperation}
    (hoperation : operation.NamesKey name) : (alter.addOperations [operation]).NamesKeys name :=
  h.addOperations (List.forall_mem_singleton.mpr hoperation)

theorem NamesKeys.addDefinition (h : alter.NamesKeys name) {operation : AlterOperation}
    (hoperation : operation.NamesKey name) (column : String) (properties : ColumnSteps) :
    (alter.addDefinition operation column properties).NamesKeys name := by
  have hsteps := AlterOperation.namesKey_foldl_applyColumnStep column properties.steps
    ⟨hoperation, List.forall_mem_nil _⟩
  unfold AlterTable.addDefinition
  rw [h.name_eq]
  refine h.addOperations (List.forall_mem_cons.mpr ⟨hsteps.1, List.forall_mem_append.mpr
    ⟨hsteps.2, List.forall_mem_map.mpr fun reference _ => ?_⟩⟩)
  exact AlterOperation.namesKey_addForeign rfl [column] _

theorem NamesKeys.apply (h : alter.NamesKeys name) {step : AlterStep} (hstep : step.IsUnnamed) :
    (alter.apply step).NamesKeys name := by
  cases step with
  | declare step =>
    cases step with
    | column column properties =>
      exact h.addDefinition (AlterOperation.namesKey_of_none rfl) column.name properties
    | key kind given columns =>
      cases hstep
      exact h.addOne (AlterOperation.namesKey_of_declare h.name_eq kind columns)
    | foreign given columns steps =>
      cases hstep
      exact h.addOne (AlterOperation.namesKey_addForeign h.name_eq columns steps)
  | modify column properties =>
    exact h.addDefinition (AlterOperation.namesKey_of_none rfl) column.name properties
  | autoincrement column properties =>
    refine h.addDefinition ?_ column properties
    rw [h.name_eq]
    exact AlterOperation.namesKey_of_key? rfl rfl
  | _ => exact h.addOne (AlterOperation.namesKey_of_none rfl)

theorem namesKeys_ofSteps (name : String) {steps : List AlterStep}
    (h : ∀ step ∈ steps, step.IsUnnamed) : (ofSteps name steps).NamesKeys name := by
  have hempty : NamesKeys name { name := name } := ⟨rfl, List.forall_mem_nil _⟩
  exact List.foldlRecOn steps AlterTable.apply hempty fun _ halter step hstep =>
    halter.apply (h step hstep)

end AlterTable

/-! The keys as they are read off the statements for a new table. -/

def TableLine.key? : TableLine → Option (KeyKind × Key)
  | column _ => none
  | primaryKey key => some (.primary, key)
  | uniqueKey key => some (.unique, key)
  | index key => some (.index, key)
  | foreignKey key => some (.foreign, key.key)

def TableSentence.keys : TableSentence → List (KeyKind × Key)
  | createTable _ lines _ => lines.filterMap TableLine.key?
  | createIndex unique _ key => [(if unique then .unique else .index, key)]
  | comment _ _ => []

namespace CreateTable

variable (dialect : Dialect) (table : CreateTable)

theorem filterMap_keyLines :
    (table.keyLines dialect).filterMap TableLine.key? =
      table.writtenKeysOf dialect .primary ++ table.writtenKeysOf dialect .unique ++
        (if dialect = .mysql then table.writtenKeysOf dialect .index else []) ++
        table.writtenKeysOf dialect .foreign := by
  have hprimary : (if table.keyIsInline dialect then []
      else table.primaryKey.toList.map TableLine.primaryKey).filterMap TableLine.key? =
        table.writtenKeysOf dialect .primary := by
    by_cases hinline : table.keyIsInline dialect <;>
      simp [writtenKeysOf, keys, TableLine.key?, hinline, Function.comp_def]
  have hindex : (if dialect = .mysql then table.indexes.map TableLine.index else []).filterMap
      TableLine.key? = if dialect = .mysql then table.writtenKeysOf dialect .index else [] := by
    split <;> simp [writtenKeysOf, keys, TableLine.key?, Function.comp_def]
  unfold keyLines
  rw [List.filterMap_append, List.filterMap_append, List.filterMap_append, hprimary, hindex]
  simp [writtenKeysOf, keys, TableLine.key?, Function.comp_def]

theorem flatMap_indexSentences :
    (table.indexSentences dialect).flatMap TableSentence.keys =
      if dialect = .mysql then [] else table.writtenKeysOf dialect .index := by
  unfold indexSentences
  split
  · rfl
  · calc (table.indexes.map (TableSentence.createIndex false table.name)).flatMap
          TableSentence.keys
        = table.indexes.flatMap fun key => [(.index, key)] := List.flatMap_map ..
      _ = table.indexes.map (KeyKind.index, ·) := List.map_eq_flatMap.symm

theorem flatMap_commentSentences :
    (table.commentSentences dialect).flatMap TableSentence.keys = [] := by
  unfold commentSentences
  split
  · rw [List.flatMap_map]
    exact List.flatMap_eq_nil_iff.mpr fun _ _ => rfl
  · rfl

/-- The order differs as in the statements. -/
theorem perm_keys_sentences (written : List WrittenColumn) (options : String) :
    let lines := written.map .column ++ table.keyLines dialect
    ((TableSentence.createTable table.name lines options ::
        (table.indexSentences dialect ++ table.commentSentences dialect)).flatMap
          TableSentence.keys).Perm (table.writtenKeys dialect) := by
  intro lines
  have hcolumns : (written.map TableLine.column).filterMap TableLine.key? = [] := by
    simp [TableLine.key?, List.filterMap_map, Function.comp_def]
  have hkinds : table.writtenKeys dialect =
      table.writtenKeysOf dialect .primary ++ table.writtenKeysOf dialect .unique ++
        table.writtenKeysOf dialect .index ++ table.writtenKeysOf dialect .foreign := by
    simp [writtenKeys]
  have hlines :
      lines.filterMap TableLine.key? = (table.keyLines dialect).filterMap TableLine.key? := by
    rw [List.filterMap_append, hcolumns, List.nil_append]
  rw [List.flatMap_cons, TableSentence.keys, hlines, filterMap_keyLines, List.flatMap_append,
    flatMap_indexSentences, flatMap_commentSentences, List.append_nil, hkinds]
  exact perm_inside_or_behind _ _ _

/-- The keys of a new table are read off the statements that create it. -/
theorem exists_keys {statements : List Compiled} (h : table.compile dialect = .ok statements) :
    ∃ sentences : List TableSentence,
      statements.map (fun statement => TableSentence.ofText? dialect statement.sql) =
        sentences.map some ∧
      (sentences.flatMap TableSentence.keys).Perm (table.writtenKeys dialect) := by
  obtain ⟨written, options, -, hread⟩ := exists_sentences h
  exact ⟨_, hread, perm_keys_sentences dialect table written options⟩

end CreateTable

theorem nodup_map_iff_of_iff {f : α → β} {g : α → γ} {items : List α}
    (h : ∀ first ∈ items, ∀ second ∈ items, f first = f second ↔ g first = g second) :
    (items.map f).Nodup ↔ (items.map g).Nodup := by
  rw [List.Nodup, List.Nodup, List.pairwise_map, List.pairwise_map]
  exact List.Pairwise.iff_of_mem fun hfirst hsecond => not_congr (h _ hfirst _ hsecond)

/-- Keys that have the names that they get where none is given have different names exactly if their
kinds or their joined columns are different. -/
theorem nodup_names_iff {table : String} {keys : List (KeyKind × Key)}
    (h : ∀ key ∈ keys, IsNamedAfter table key) :
    (keys.map fun key => key.2.name).Nodup ↔
      (keys.map fun key => (key.1, Text.join "_" key.2.columns)).Nodup := by
  refine nodup_map_iff_of_iff fun first hfirst second hsecond => ?_
  rw [h first hfirst, h second hsecond, keyName_eq_iff, Prod.mk.injEq]

/-- Columns without underscores can be told from the name. -/
theorem nodup_joined_iff {keys : List (KeyKind × Key)}
    (h : ∀ key ∈ keys, key.2.columns ≠ [] ∧ ∀ column ∈ key.2.columns, '_' ∉ column.toList) :
    (keys.map fun key => (key.1, Text.join "_" key.2.columns)).Nodup ↔
      (keys.map fun key => (key.1, key.2.columns)).Nodup := by
  refine nodup_map_iff_of_iff fun first hfirst second hsecond => ?_
  rw [Prod.mk.injEq, Prod.mk.injEq]
  refine and_congr_right fun _ => ⟨?_, fun hcolumns => congrArg _ hcolumns⟩
  exact Text.join_inj (h first hfirst) (h second hsecond)

namespace CreateTable

/-- Steps that give no names describe a table whose keys have names of their own. The names that are
read off the statements for such a table are different exactly if keys of one kind differ in their
columns as they are joined in the names. Keys over different columns do, unless a column has an
underscore in it or there is none. -/
theorem generated_names_nodup_iff (dialect : Dialect) :
    (∀ name steps, (∀ step ∈ steps, CreateStep.IsUnnamed step) →
      (ofSteps name steps).NamesKeys name) ∧
    ∀ table statements, NamesKeys table.name table → table.compile dialect = .ok statements →
      ∃ sentences : List TableSentence,
        statements.map (fun statement => TableSentence.ofText? dialect statement.sql) =
          sentences.map some ∧
        let keys := sentences.flatMap TableSentence.keys
        keys.Perm (table.writtenKeys dialect) ∧
        ((keys.map fun key => key.2.name).Nodup ↔
          (keys.map fun key => (key.1, Text.join "_" key.2.columns)).Nodup) ∧
        ((∀ key ∈ keys, key.2.columns ≠ [] ∧ ∀ column ∈ key.2.columns, '_' ∉ column.toList) →
          ((keys.map fun key => key.2.name).Nodup ↔
            (keys.map fun key => (key.1, key.2.columns)).Nodup)) := by
  refine ⟨fun name _ => namesKeys_ofSteps name, fun table statements hnamed h => ?_⟩
  obtain ⟨sentences, hread, hperm⟩ := exists_keys dialect table h
  have hkeys : ∀ key ∈ sentences.flatMap TableSentence.keys, IsNamedAfter table.name key :=
    fun key hkey => hnamed.writtenKeys dialect key (hperm.mem_iff.mp hkey)
  refine ⟨sentences, hread, hperm, nodup_names_iff hkeys, fun hcolumns => ?_⟩
  rw [nodup_names_iff hkeys, nodup_joined_iff hcolumns]

/-- Keys of two kinds over the same column, and one over two columns. -/
theorem generated_names_nodup_of_columns :
    let steps : List CreateStep := [.declare (.column ⟨"a", .integer, {}⟩ ⟨[.key .unique], none⟩),
      .declare (.column ⟨"b", .integer, {}⟩ ⟨[.key .index], none⟩),
      .declare (.key .unique none ["a", "b"])]
    (∀ step ∈ steps, step.IsUnnamed) ∧ ∃ statements, ∃ sentences : List TableSentence,
      (ofSteps "t" steps).compile .postgres = .ok statements ∧
      statements.map Compiled.sql = [
        "CREATE TABLE t (\n    a INTEGER,\n    b INTEGER,\n    CONSTRAINT t_uk_a UNIQUE (a),\n" ++
          "    CONSTRAINT t_uk_a_b UNIQUE (a, b)\n)",
        "CREATE INDEX t_ik_b ON t (b)"] ∧
      statements.map (fun statement => TableSentence.ofText? .postgres statement.sql) =
        sentences.map some ∧
      ((sentences.flatMap TableSentence.keys).map fun key => key.2.name).Nodup := by
  intro steps
  have hunnamed : ∀ step ∈ steps, step.IsUnnamed := by
    simp [steps, CreateStep.IsUnnamed, TableStep.IsUnnamed]
  obtain ⟨statements, hcompile, hsql⟩ : ∃ statements,
      (ofSteps "t" steps).compile .postgres = .ok statements ∧ statements.map Compiled.sql = [
        "CREATE TABLE t (\n    a INTEGER,\n    b INTEGER,\n    CONSTRAINT t_uk_a UNIQUE (a),\n" ++
          "    CONSTRAINT t_uk_a_b UNIQUE (a, b)\n)",
        "CREATE INDEX t_ik_b ON t (b)"] := ⟨_, rfl, by decide⟩
  obtain ⟨hsteps, htable⟩ := generated_names_nodup_iff .postgres
  obtain ⟨sentences, hread, hperm, hnodup, -⟩ :=
    htable _ statements (hsteps "t" steps hunnamed) hcompile
  refine ⟨hunnamed, statements, sentences, hcompile, hsql, hread, hnodup.mpr ?_⟩
  refine (hperm.map _).nodup_iff.mpr ?_
  decide

/-- A unique key of one column has the name of a unique key of two. -/
theorem generated_names_clash :
    let steps : List CreateStep := [.declare (.column ⟨"a", .integer, {}⟩ {}),
      .declare (.column ⟨"b", .integer, {}⟩ {}), .declare (.column ⟨"a_b", .integer, {}⟩ {}),
      .declare (.key .unique none ["a_b"]), .declare (.key .unique none ["a", "b"])]
    let text := "CREATE TABLE t (\n    a INTEGER,\n    b INTEGER,\n    a_b INTEGER,\n" ++
      "    CONSTRAINT t_uk_a_b UNIQUE (a_b),\n    CONSTRAINT t_uk_a_b UNIQUE (a, b)\n)"
    (∀ step ∈ steps, step.IsUnnamed) ∧
      ((ofSteps "t" steps).writtenKeys .sqlite).map (fun key => (key.1, key.2.columns)) =
        [(.unique, ["a_b"]), (.unique, ["a", "b"])] ∧
      (ofSteps "t" steps).compile .sqlite = .ok [.plain text] ∧
      (TableSentence.ofText? .sqlite text).map (fun sentence =>
        sentence.keys.map fun key => key.2.name) = some ["t_uk_a_b", "t_uk_a_b"] :=
  ⟨by simp [CreateStep.IsUnnamed, TableStep.IsUnnamed], by decide, by rfl, by decide +kernel⟩

end CreateTable

end SqlDialects
