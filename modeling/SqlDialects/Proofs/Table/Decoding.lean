import SqlDialects.Proofs.Value.Decoding
import SqlDialects.Table.Json

/-! Descriptions of tables come back from their JSON: columns with all their options, keys, foreign
keys and the changes to a table. -/

namespace SqlDialects

open Json

@[simp] theorem ColumnType.choice?_name (type : ColumnType) :
    choice? ColumnType.named (.string type.name) = some type := by cases type <;> rfl

@[simp] theorem SizeClass.choice?_name (size : SizeClass) :
    choice? SizeClass.named (.string size.name) = some size := by cases size <;> rfl

@[simp] theorem ReferentialAction.choice?_name (action : ReferentialAction) :
    choice? ReferentialAction.named (.string action.name) = some action := by cases action <;> rfl

@[simp] theorem KeyKind.choice?_name (kind : KeyKind) :
    choice? KeyKind.named (.string kind.name) = some kind := by cases kind <;> rfl

theorem Json.nullable?_orNull_name {name : α → String} {decode : Json → Option α}
    (h : ∀ a, decode (.string (name a)) = some a) (value : Option α) :
    nullable? decode (orNull (fun a => .string (name a)) value) = some value :=
  nullable?_orNull (fun _ h => by cases h) fun a _ => h a

namespace ColumnOptions

theorem uint32?_nat (n : UInt32) : uint32? (.nat n.toNat) = some n := by
  rw [uint32?, nat?_nat n.toNat_lt, Option.map_some, UInt32.ofNat_toNat]

@[simp] theorem nullable?_uint32 (value : Option UInt32) :
    nullable? uint32? (orNull (fun n : UInt32 => .nat n.toNat) value) = some value :=
  nullable?_orNull (fun _ h => by cases h) fun n _ => uint32?_nat n

@[simp] theorem nullable?_default (value : Option Value) :
    nullable? Value.ofJson? (orNull Value.toJson value) = some value :=
  nullable?_orNull Value.toJson_ne_null fun v _ => v.ofJson?_toJson

@[simp] theorem ofJson?_toJson (options : ColumnOptions) :
    ofJson? options.toJson = some options := by
  rw [toJson, ofJson?, record?_object (by rfl) (by decide)]
  simp [nullable?_orNull_name SizeClass.choice?_name]

@[simp] theorem intsInRange_toJson (options : ColumnOptions) : options.toJson.IntsInRange := by
  have hnat (n : UInt32) : (Json.nat n.toNat).IntsInRange :=
    intsInRange_nat (Nat.lt_trans n.toNat_lt (by decide))
  simp [toJson, hnat]

end ColumnOptions

namespace Column

@[simp] theorem ofJson?_toJson (column : Column) : ofJson? column.toJson = some column := by
  simp [toJson, ofJson?]

@[simp] theorem intsInRange_toJson (column : Column) : column.toJson.IntsInRange := by
  simp [toJson]

end Column

namespace Key

theorem toJson_ne_null (key : Key) : key.toJson ≠ .null := fun h => by cases h

@[simp] theorem ofJson?_toJson (key : Key) : ofJson? key.toJson = some key := by
  simp [toJson, ofJson?]

@[simp] theorem intsInRange_toJson (key : Key) : key.toJson.IntsInRange := by
  simp [toJson]

end Key

namespace ForeignKey

@[simp] theorem ofJson?_toJson (key : ForeignKey) : ofJson? key.toJson = some key := by
  rw [toJson, ofJson?, record?_object (by rfl) (by decide)]
  simp [nullable?_orNull_name ReferentialAction.choice?_name]

@[simp] theorem intsInRange_toJson (key : ForeignKey) : key.toJson.IntsInRange := by
  simp [toJson]

end ForeignKey

namespace CreateTable

@[simp] theorem ofJson?_fieldsToJson (table : CreateTable) :
    ofJson? (.object table.fieldsToJson) = some table := by
  have hkey : nullable? Key.ofJson? (orNull Key.toJson table.primaryKey) = some table.primaryKey :=
    nullable?_orNull Key.toJson_ne_null fun key _ => key.ofJson?_toJson
  have hkeys (keys : List Key) : list? Key.ofJson? (list Key.toJson keys) = some keys :=
    list?_list fun key _ => key.ofJson?_toJson
  have hcolumns : list? Column.ofJson? (list Column.toJson table.columns) = some table.columns :=
    list?_list fun column _ => column.ofJson?_toJson
  have hforeign : list? ForeignKey.ofJson? (list ForeignKey.toJson table.foreignKeys) =
      some table.foreignKeys :=
    list?_list fun key _ => key.ofJson?_toJson
  rw [fieldsToJson, ofJson?, record?_object (by rfl) (by decide)]
  simp [hkey, hkeys, hcolumns, hforeign]

@[simp] theorem intsInRange_fieldsToJson (table : CreateTable) :
    (Json.object table.fieldsToJson).IntsInRange := by
  simp [fieldsToJson]

end CreateTable

namespace AlterOperation

@[simp] theorem ofJson?_toJson (operation : AlterOperation) :
    ofJson? operation.toJson = some operation := by
  cases operation <;> simp [toJson, ofJson?]

@[simp] theorem intsInRange_toJson (operation : AlterOperation) :
    operation.toJson.IntsInRange := by
  cases operation <;> simp [toJson]

end AlterOperation

namespace AlterTable

@[simp] theorem ofJson?_toJson (alter : AlterTable) : ofJson? alter.toJson = some alter := by
  have hoperations : list? AlterOperation.ofJson? (list AlterOperation.toJson alter.operations) =
      some alter.operations :=
    list?_list fun operation _ => operation.ofJson?_toJson
  rw [toJson, ofJson?, record?_object (by rfl) (by decide)]
  simp [hoperations]

@[simp] theorem intsInRange_toJson (alter : AlterTable) : alter.toJson.IntsInRange := by
  simp [toJson]

end AlterTable

namespace ColumnTypes

theorem insertEntry_of_not_mem {name type : String} {entries : List (String × String)}
    (h : name ∉ entries.map Prod.fst) :
    insertEntry name type entries = entries ++ [(name, type)] := by
  induction entries with
  | nil => rfl
  | cons entry rest ih =>
    rw [List.map_cons, List.mem_cons, not_or] at h
    rw [insertEntry, if_neg (Ne.symm h.1), ih h.2, List.cons_append]

/-- Types of different names are all added at the end. -/
theorem entries_foldl_insert {entries : List (String × String)} (types : ColumnTypes)
    (h : ((types.entries ++ entries).map Prod.fst).Nodup) :
    (entries.foldl (fun types entry => types.insert entry.1 entry.2) types).entries =
      types.entries ++ entries := by
  induction entries generalizing types with
  | nil => rw [List.foldl_nil, List.append_nil]
  | cons entry rest ih =>
    have hnew : entry.1 ∉ types.entries.map Prod.fst := fun hmem => by
      rw [List.map_append, List.nodup_append] at h
      exact h.2.2 _ hmem _ List.mem_cons_self rfl
    have hinsert : (types.insert entry.1 entry.2).entries = types.entries ++ [entry] :=
      insertEntry_of_not_mem hnew
    rw [List.foldl_cons, ih _ (by rwa [hinsert, List.append_assoc]), hinsert, List.append_assoc]
    rfl

theorem ofList_entries (types : ColumnTypes) : ofList types.entries = types := by
  have hentries : (ofList types.entries).entries = types.entries :=
    entries_foldl_insert empty types.distinct
  cases hlist : ofList types.entries with
  | mk entries distinct =>
    rw [hlist] at hentries
    cases types
    cases hentries
    rfl

@[simp] theorem ofJson?_toJson (types : ColumnTypes) : ofJson? types.toJson = some types := by
  have hentries (entries : List (String × String)) :
      (entries.map fun entry => (entry.1, Json.string entry.2)).mapM
        (fun entry => entry.2.string?.map fun type => (entry.1, type)) = some entries := by
    induction entries with
    | nil => rfl
    | cons entry rest ih =>
      rw [List.map_cons, List.mapM_cons, ih]
      rfl
  rw [toJson, ofJson?, hentries]
  exact congrArg some types.ofList_entries

@[simp] theorem intsInRange_toJson (types : ColumnTypes) : types.toJson.IntsInRange := by
  rw [toJson, intsInRange_object]
  intro entry hentry
  obtain ⟨_, _, rfl⟩ := List.mem_map.1 hentry
  exact intsInRange_string _

end ColumnTypes

end SqlDialects
