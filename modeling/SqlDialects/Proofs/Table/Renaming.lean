import SqlDialects.Proofs.Rows.Problem
import SqlDialects.Proofs.Table.Plan
import SqlDialects.Table.Alter
import SqlDialects.Table.Plan
import Mathlib.Logic.Function.Basic

/-! The types of columns while a table is changed. MySQL states the type of a column again when it
renames it. The statement of a renaming has the type from before all operations, which is the one
that the column has at that point unless an earlier operation touches the column. -/

namespace SqlDialects

theorem mapM_append_cons (f : α → Except ε β) (before : List α) (item : α) (after : List α) :
    (before ++ item :: after).mapM f = before.mapM f >>= fun earlier =>
      f item >>= fun here => after.mapM f >>= fun later => pure (earlier ++ here :: later) := by
  simp only [List.mapM_append, List.mapM_cons, bind_assoc, pure_bind]

/-- The first item that fails is where a traversal ends. -/
theorem mapM_eq_error_iff {f : α → Except ε β} {items : List α} {e : ε} :
    items.mapM f = .error e ↔ ∃ before item after, items = before ++ item :: after ∧
      (∃ earlier, before.mapM f = .ok earlier) ∧ f item = .error e := by
  constructor
  · intro h
    induction items with
    | nil => cases h
    | cons item rest ih =>
      rw [List.mapM_cons] at h
      cases hitem : f item with
      | error e' =>
        rw [hitem] at h
        cases h
        exact ⟨[], item, rest, rfl, ⟨[], rfl⟩, hitem⟩
      | ok here =>
        rw [hitem] at h
        have hrest : rest.mapM f = .error e := by
          cases hr : rest.mapM f with
          | error e' => rw [hr] at h; exact h
          | ok later => rw [hr] at h; cases h
        obtain ⟨before, failed, after, rfl, ⟨earlier, hearlier⟩, hfailed⟩ := ih hrest
        refine ⟨item :: before, failed, after, rfl, ⟨here :: earlier, ?_⟩, hfailed⟩
        rw [List.mapM_cons, hitem, hearlier]
        rfl
  · rintro ⟨before, item, after, rfl, ⟨earlier, hearlier⟩, hitem⟩
    rw [mapM_append_cons, hearlier, hitem]
    rfl

/-- The native type of each column of a table; none for a name that is no column. -/
abbrev NativeTypes := String → Option String

namespace AlterOperation

/-- The types after one operation, with those that MySQL gives to defined columns. -/
def typesAfter (types : NativeTypes) : AlterOperation → NativeTypes
  | addColumn column | addAutoincrement column _ | modifyColumn column | autoincrement column _ =>
    Function.update types column.name (column.nativeType .mysql).toOption
  | renameColumn source target =>
    Function.update (Function.update types source none) target (types source)
  | dropColumn name => Function.update types name none
  | _ => types

/-- The types after several operations, carried out from left to right. -/
def typesAfterAll (types : NativeTypes) (operations : List AlterOperation) : NativeTypes :=
  operations.foldl typesAfter types

/-- The columns that an operation defines, drops or renames, under their old and new names. -/
def touched : AlterOperation → List String
  | renameColumn source target => [source, target]
  | dropColumn name => [name]
  | operation => operation.column?.toList.map Column.name

theorem typesAfter_of_not_touched {types : NativeTypes} {operation : AlterOperation}
    {name : String} (h : name ∉ operation.touched) :
    operation.typesAfter types name = types name := by
  cases operation with
  | renameColumn source target =>
    obtain ⟨hsource, htarget⟩ : name ≠ source ∧ name ≠ target := by simpa [touched] using h
    simp only [typesAfter, Function.update_of_ne htarget, Function.update_of_ne hsource]
  | dropColumn column =>
    have hname : name ≠ column := by simpa [touched] using h
    exact Function.update_of_ne hname _ _
  | addColumn column | addAutoincrement column _ | modifyColumn column | autoincrement column _ =>
    have hname : name ≠ column.name := by simpa [touched, column?] using h
    exact Function.update_of_ne hname _ _
  | _ => rfl

theorem typesAfterAll_of_not_touched {types : NativeTypes} {operations : List AlterOperation}
    {name : String} (h : ∀ operation ∈ operations, name ∉ operation.touched) :
    typesAfterAll types operations name = types name := by
  induction operations generalizing types with
  | nil => rfl
  | cons operation rest ih =>
    calc typesAfterAll types (operation :: rest) name
        = typesAfterAll (operation.typesAfter types) rest name := rfl
      _ = operation.typesAfter types name := ih fun o ho => h o (List.mem_cons_of_mem _ ho)
      _ = types name := typesAfter_of_not_touched (h operation List.mem_cons_self)

end AlterOperation

/-- The statement of a renaming, which ends in a type. -/
def renamingText (table source target type : String) : String :=
  "ALTER TABLE " ++ Identifier.quote .mysql table ++ " " ++
    ("CHANGE " ++ Identifier.quote .mysql source ++ " " ++ Identifier.quote .mysql target ++ " " ++
      type)

theorem Definition.compile_changeColumn (table source target type : String) :
    (alterTable table [.changeColumn source target type]).compile .mysql =
      .plain (renamingText table source target type) :=
  compile_alterOne .mysql table (.changeColumn source target type)

/-- The result is not the error of a type that is missing. -/
def LacksNoType (result : Except Error α) : Prop :=
  ∀ table column, result ≠ .error (.missingColumnType table column)

namespace LacksNoType

theorem ok (a : α) : LacksNoType (.ok a) := fun _ _ h => by cases h

theorem invalid (cause : InvalidArgument) :
    LacksNoType (.error (.invalid cause) : Except Error α) :=
  fun _ _ h => by cases h

theorem unsupported (dialect : Dialect) (feature : Feature) :
    LacksNoType (.error (.unsupported dialect feature) : Except Error α) :=
  fun _ _ h => by cases h

theorem bind {x : Except Error α} {next : α → Except Error β} (hx : LacksNoType x)
    (hnext : ∀ a, LacksNoType (next a)) : LacksNoType (x >>= next) := by
  intro table column h
  cases x with
  | error e => exact hx table column (by cases h; rfl)
  | ok a => exact hnext a table column h

theorem map {x : Except Error α} (f : α → β) (hx : LacksNoType x) : LacksNoType (x.map f) := by
  intro table column h
  cases x with
  | error e => exact hx table column (by cases h; rfl)
  | ok a => cases h

theorem oneSize (dialect : Dialect) (column : Column) (type : String) :
    LacksNoType (column.oneSize dialect type) := by
  unfold Column.oneSize
  split
  · exact ok _
  · exact unsupported _ _

theorem nativeType (column : Column) : LacksNoType (column.nativeType .mysql) := by
  refine map _ ?_
  unfold Column.mysqlType
  split <;> first | exact ok _ | exact oneSize _ _ _ | skip
  all_goals split <;> first | exact ok _ | exact unsupported _ _

theorem requireInteger (column : Column) : LacksNoType column.requireInteger := by
  unfold Column.requireInteger
  split
  · exact ok _
  · exact invalid _

theorem definition (column : Column) : LacksNoType (column.definition .mysql) := by
  unfold Column.definition
  split
  · exact bind (requireInteger column) fun _ => bind (nativeType column) fun _ => ok _
  · exact bind (nativeType column) fun _ => ok _

theorem check (key : ForeignKey) : LacksNoType key.check := by
  unfold ForeignKey.check
  split
  · exact invalid _
  · split
    · exact invalid _
    · exact ok _

end LacksNoType

namespace AlterOperation

/-- The name of the column that the operation renames. -/
def renamed? : AlterOperation → Option String
  | renameColumn source _ => some source
  | _ => none

/-- Only a renaming can lack a type. -/
theorem plan_lacksNoType {table : String} {types : ColumnTypes} {operation : AlterOperation}
    (h : operation.renamed? = none) : LacksNoType (operation.plan .mysql table types) := by
  cases operation with
  | addColumn column => exact .bind (.definition column) fun _ => .ok _
  | addAutoincrement column key =>
    exact .bind (.bind (.definition column) fun _ => .ok _) fun _ => .ok _
  | modifyColumn column => exact .bind (.bind (.definition column) fun _ => .ok _) fun _ => .ok _
  | renameColumn source target => cases h
  | dropColumn name => exact .ok _
  | addKey kind key =>
    cases kind with
    | foreign => exact .invalid _
    | _ => exact .ok _
  | addForeign key => exact .bind (.check key) fun _ => .ok _
  | dropKey kind name => cases kind <;> exact .ok _
  | setDefault column value => exact .ok _
  | dropDefault column => exact .ok _
  | autoincrement column key =>
    exact .bind (.requireInteger column) fun _ => .bind (.definition column) fun _ => .ok _

theorem plan_renameColumn (table source target : String) (types : ColumnTypes) :
    (renameColumn source target).plan .mysql table types =
      match types.find? source with
      | some type => .ok [.alterTable table [.changeColumn source target type]]
      | none => .error (.missingColumnType table source) := rfl

theorem plan_eq_missing_iff {operation : AlterOperation} {name : String} {types : ColumnTypes}
    {table column : String} :
    operation.plan .mysql name types = .error (.missingColumnType table column) ↔
      table = name ∧ types.find? column = none ∧
        ∃ target, operation = renameColumn column target := by
  constructor
  · intro h
    cases hrenamed : operation.renamed? with
    | none => exact absurd h (plan_lacksNoType hrenamed table column)
    | some source =>
      cases operation with
      | renameColumn source target =>
        rw [plan_renameColumn] at h
        cases htype : types.find? source with
        | some type => rw [htype] at h; cases h
        | none =>
          rw [htype] at h
          cases h
          exact ⟨rfl, htype, target, rfl⟩
      | _ => cases hrenamed
  · rintro ⟨rfl, htype, target, rfl⟩
    rw [plan_renameColumn, htype]

end AlterOperation

namespace AlterTable

open AlterOperation

theorem compile_eq_map (dialect : Dialect) (alter : AlterTable) (types : ColumnTypes) :
    alter.compile dialect types =
      (alter.operations.mapM (AlterOperation.plan dialect alter.name types)).map fun parts =>
        parts.flatten.map (Definition.compile dialect) := by
  unfold compile AlterTable.plan
  cases alter.operations.mapM (AlterOperation.plan dialect alter.name types) <;> rfl

theorem compile_eq_ok_iff {dialect : Dialect} {alter : AlterTable} {types : ColumnTypes}
    {statements : List Compiled} :
    alter.compile dialect types = .ok statements ↔ ∃ parts,
      alter.operations.mapM (AlterOperation.plan dialect alter.name types) = .ok parts ∧
        statements = parts.flatten.map (Definition.compile dialect) := by
  rw [compile_eq_map]
  cases alter.operations.mapM (AlterOperation.plan dialect alter.name types) with
  | error e => simp [Except.map]
  | ok parts => simp [Except.map, eq_comm]

theorem compile_eq_error_iff {dialect : Dialect} {alter : AlterTable} {types : ColumnTypes}
    {e : Error} : alter.compile dialect types = .error e ↔
      alter.operations.mapM (AlterOperation.plan dialect alter.name types) = .error e := by
  rw [compile_eq_map]
  cases alter.operations.mapM (AlterOperation.plan dialect alter.name types) with
  | error e' => simp [Except.map]
  | ok parts => simp [Except.map]

/-- The changes up to some operation. -/
def upTo (alter : AlterTable) (before : List AlterOperation) : AlterTable :=
  { alter with operations := before }

/-- Whether the statements for MySQL take the types of renamed columns from `now`, which says for
the operations before a renaming what the types are at that point. -/
structure RestatesTypes (alter : AlterTable) (types : ColumnTypes)
    (now : List AlterOperation → NativeTypes) : Prop where
  /-- The statement of each renaming ends in the type. -/
  stated : ∀ statements before source target after, alter.compile .mysql types = .ok statements →
    alter.operations = before ++ renameColumn source target :: after →
    ∃ earlier type later, (alter.upTo before).compile .mysql types = .ok earlier ∧
      now before source = some type ∧
      statements = earlier ++ Compiled.plain (renamingText alter.name source target type) :: later
  /-- A type is missing where the first renaming is reached whose column has none. -/
  missing : ∀ table column, alter.compile .mysql types = .error (.missingColumnType table column) ↔
    table = alter.name ∧ ∃ before target after,
      alter.operations = before ++ renameColumn column target :: after ∧
      (∃ earlier, (alter.upTo before).compile .mysql types = .ok earlier) ∧
      now before column = none

theorem restates_types_before (alter : AlterTable) (types : ColumnTypes) :
    alter.RestatesTypes types fun _ => types.find? where
  stated := by
    intro statements before source target after h hoperations
    obtain ⟨parts, hparts, rfl⟩ := compile_eq_ok_iff.1 h
    rw [hoperations, mapM_append_cons] at hparts
    obtain ⟨earlier, hearlier, hparts⟩ := bind_eq_ok_iff.1 hparts
    obtain ⟨here, hhere, hparts⟩ := bind_eq_ok_iff.1 hparts
    obtain ⟨later, hlater, hparts⟩ := bind_eq_ok_iff.1 hparts
    cases hparts
    rw [plan_renameColumn] at hhere
    cases htype : types.find? source with
    | none => rw [htype] at hhere; cases hhere
    | some type =>
      rw [htype] at hhere
      cases hhere
      refine ⟨earlier.flatten.map (Definition.compile .mysql), type,
        later.flatten.map (Definition.compile .mysql),
        compile_eq_ok_iff.2 ⟨earlier, hearlier, rfl⟩, rfl, ?_⟩
      simp only [List.flatten_append, List.flatten_cons, List.map_append, List.map_cons,
        List.singleton_append, Definition.compile_changeColumn]
  missing := by
    intro table column
    rw [compile_eq_error_iff, mapM_eq_error_iff]
    constructor
    · rintro ⟨before, operation, after, hoperations, ⟨earlier, hearlier⟩, hoperation⟩
      obtain ⟨htable, htype, target, rfl⟩ := plan_eq_missing_iff.1 hoperation
      exact ⟨htable, before, target, after, hoperations,
        ⟨_, compile_eq_ok_iff.2 ⟨earlier, hearlier, rfl⟩⟩, htype⟩
    · rintro ⟨htable, before, target, after, hoperations, ⟨statements, hstatements⟩, htype⟩
      obtain ⟨earlier, hearlier, -⟩ := compile_eq_ok_iff.1 hstatements
      exact ⟨before, renameColumn column target, after, hoperations, ⟨earlier, hearlier⟩,
        plan_eq_missing_iff.2 ⟨htable, htype, target, rfl⟩⟩

/-- Whether no operation before a renaming touches the column that is renamed. -/
def RenamesUntouched (alter : AlterTable) : Prop :=
  ∀ before source target after, alter.operations = before ++ renameColumn source target :: after →
    ∀ operation ∈ before, source ∉ operation.touched

theorem RestatesTypes.congr {alter : AlterTable} {types : ColumnTypes}
    {now now' : List AlterOperation → NativeTypes} (h : alter.RestatesTypes types now)
    (hnow : ∀ before source target after,
      alter.operations = before ++ renameColumn source target :: after →
        now' before source = now before source) : alter.RestatesTypes types now' where
  stated := by
    intro statements before source target after hcompile hoperations
    rw [hnow before source target after hoperations]
    exact h.stated statements before source target after hcompile hoperations
  missing := by
    intro table column
    rw [h.missing table column]
    constructor
    · rintro ⟨htable, before, target, after, hoperations, hearlier, htype⟩
      exact ⟨htable, before, target, after, hoperations, hearlier,
        (hnow before column target after hoperations).trans htype⟩
    · rintro ⟨htable, before, target, after, hoperations, hearlier, htype⟩
      exact ⟨htable, before, target, after, hoperations, hearlier,
        (hnow before column target after hoperations).symm.trans htype⟩

/-- A renaming for MySQL states the type that its column has before all operations. That is the
type at that point of the changes if no earlier operation touches a column that is renamed. -/
theorem renamings_restate_types (alter : AlterTable) (types : ColumnTypes) :
    alter.RestatesTypes types (fun _ => types.find?) ∧
      (alter.RenamesUntouched → alter.RestatesTypes types (typesAfterAll types.find?)) :=
  ⟨alter.restates_types_before types, fun h =>
    (alter.restates_types_before types).congr fun before source target after hoperations =>
      typesAfterAll_of_not_touched (h before source target after hoperations)⟩

/-- A column that is renamed after another one is dropped keeps its type. -/
theorem renamings_restate_types_after_drop :
    let alter : AlterTable := ⟨"t", [.dropColumn "c", .renameColumn "a" "b"]⟩
    let types := ColumnTypes.ofList [("a", "varchar(10)"), ("c", "int")]
    alter.compile .mysql types = .ok
        [.plain "ALTER TABLE t DROP COLUMN c", .plain "ALTER TABLE t CHANGE a b varchar(10)"] ∧
      alter.RenamesUntouched ∧ alter.RestatesTypes types (typesAfterAll types.find?) := by
  have huntouched : RenamesUntouched ⟨"t", [.dropColumn "c", .renameColumn "a" "b"]⟩ := by
    intro before source target after h operation hmem
    match before, h, hmem with
    | [dropped], h, hmem =>
      obtain ⟨rfl, hrename, -⟩ : .dropColumn "c" = dropped ∧
          .renameColumn "a" "b" = renameColumn source target ∧ [] = after := by
        simpa using h
      cases hrename
      cases List.mem_singleton.1 hmem
      decide
    | _ :: _ :: _, h, _ => simp at h
  refine ⟨?_, huntouched, (renamings_restate_types _ _).2 huntouched⟩
  rfl

/-- A column that gets a new type and then a new name has its old type back, and one that is added
and then gets a new name has no type. -/
theorem not_restates_types_of_touched :
    let types := ColumnTypes.ofList [("a", "varchar(10)")]
    let modified : AlterTable :=
      ⟨"t", [.modifyColumn ⟨"a", .integer, {}⟩, .renameColumn "a" "b"]⟩
    let added : AlterTable := ⟨"t", [.addColumn ⟨"c", .integer, {}⟩, .renameColumn "c" "d"]⟩
    (modified.compile .mysql types = .ok [.plain "ALTER TABLE t MODIFY COLUMN a INT",
        .plain "ALTER TABLE t CHANGE a b varchar(10)"] ∧
      typesAfterAll types.find? [.modifyColumn ⟨"a", .integer, {}⟩] "a" = some "INT" ∧
      ¬ modified.RestatesTypes types (typesAfterAll types.find?)) ∧
    added.compile .mysql types = .error (.missingColumnType "t" "c") ∧
      typesAfterAll types.find? [.addColumn ⟨"c", .integer, {}⟩] "c" = some "INT" := by
  have hcompile : compile .mysql
      ⟨"t", [.modifyColumn ⟨"a", .integer, {}⟩, .renameColumn "a" "b"]⟩
      (ColumnTypes.ofList [("a", "varchar(10)")]) = .ok [.plain "ALTER TABLE t MODIFY COLUMN a INT",
        .plain "ALTER TABLE t CHANGE a b varchar(10)"] := by rfl
  have hnow : typesAfterAll (ColumnTypes.ofList [("a", "varchar(10)")]).find?
      [.modifyColumn ⟨"a", .integer, {}⟩] "a" = some "INT" := by rfl
  refine ⟨⟨hcompile, hnow, fun h => ?_⟩, by rfl, by rfl⟩
  obtain ⟨_, _, later, hearlier, htype, hstatements⟩ :=
    h.stated _ [.modifyColumn ⟨"a", .integer, {}⟩] "a" "b" [] hcompile rfl
  have hfirst : compile .mysql ⟨"t", [.modifyColumn ⟨"a", .integer, {}⟩]⟩
      (ColumnTypes.ofList [("a", "varchar(10)")]) =
        .ok [.plain "ALTER TABLE t MODIFY COLUMN a INT"] := by rfl
  cases hfirst.symm.trans hearlier
  cases hnow.symm.trans htype
  have hlast : [Compiled.plain "ALTER TABLE t CHANGE a b varchar(10)"] =
      .plain (renamingText "t" "a" "b" "INT") :: later := (List.cons.inj hstatements).2
  have htext : "ALTER TABLE t CHANGE a b varchar(10)" = renamingText "t" "a" "b" "INT" :=
    congrArg Compiled.sql (List.cons.inj hlast).1
  have hint : renamingText "t" "a" "b" "INT" = "ALTER TABLE t CHANGE a b INT" := by rfl
  exact absurd (htext.trans hint) (by decide)

end AlterTable

end SqlDialects
