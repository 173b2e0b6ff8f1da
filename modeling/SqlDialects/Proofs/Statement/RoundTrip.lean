import SqlDialects.Proofs.Query.Decoding
import SqlDialects.Proofs.Table.Decoding
import SqlDialects.Statement.Compile
import SqlDialects.Statement.Json

/-! Statements come back from their text, all kinds of them and to any depth that is read. So a
stored statement compiles to what the statement itself compiles to. -/

namespace SqlDialects

open Json

namespace Written

theorem ofJson?_toJson {written : Written} {fuel : Nat} (h : written.toJson.depth < fuel) :
    ofJson? fuel written.toJson = some written := by
  cases written with
  | value v => simp [toJson, ofJson?]
  | expression terms =>
    simp only [toJson, variant, depth, depthEntries] at h
    have hterms := Term.listOfJson?_listToJson terms fuel (by omega)
    simp [toJson, ofJson?, itemsOf?_object hterms]

@[simp] theorem intsInRange_toJson (written : Written) : written.toJson.IntsInRange := by
  cases written with
  | value v => simp [toJson]
  | expression terms => simpa [toJson] using Term.intsInRange_listToJson terms

end Written

namespace Insert

theorem ofJson?_fieldsToJson {insert : Insert} {fuel : Nat}
    (h : (Json.object insert.fieldsToJson).depth < fuel) :
    ofJson? fuel (.object insert.fieldsToJson) = some insert := by
  have hwritten : ∀ row ∈ insert.rows, ∀ written ∈ row, written.toJson.depth < fuel := by
    intro row hrow written hmem
    calc written.toJson.depth
        < (list Written.toJson row).depth := depth_lt_of_mem_list hmem
      _ < (list (list Written.toJson) insert.rows).depth := depth_lt_of_mem_list hrow
      _ < (Json.object insert.fieldsToJson).depth :=
        depth_lt_of_mem_fields "rows" (.tail _ (.tail _ List.mem_cons_self))
      _ < fuel := h
  have hrows : list? (list? (Written.ofJson? fuel)) (list (list Written.toJson) insert.rows) =
      some insert.rows :=
    list?_list fun row hrow => list?_list fun written hmem =>
      Written.ofJson?_toJson (hwritten row hrow written hmem)
  simp [fieldsToJson, ofJson?, hrows]

@[simp] theorem intsInRange_fieldsToJson (insert : Insert) :
    (Json.object insert.fieldsToJson).IntsInRange := by
  simp [fieldsToJson]

end Insert

namespace Update

theorem ofJson?_fieldsToJson {update : Update} {fuel : Nat}
    (h : (Json.object update.fieldsToJson).depth < fuel) :
    ofJson? fuel (.object update.fieldsToJson) = some update := by
  have hquery : Query.ofJson? fuel update.query.toJson = some update.query :=
    Query.ofJson?_fieldsToJson update.query fuel (Nat.lt_trans
      (depth_lt_of_mem_fields "statement" List.mem_cons_self) h)
  have hwritten : ∀ assignment ∈ update.assignments, assignment.2.toJson.depth < fuel := by
    intro assignment hmem
    calc assignment.2.toJson.depth
        < (Json.array [.string assignment.1, assignment.2.toJson]).depth :=
        depth_lt_of_mem_array (.tail _ List.mem_cons_self)
      _ < (list (fun a : String × Written => .array [.string a.1, a.2.toJson])
            update.assignments).depth :=
        depth_lt_of_mem_array (List.mem_map.2 ⟨assignment, hmem, rfl⟩)
      _ < (Json.object update.fieldsToJson).depth :=
        depth_lt_of_mem_fields "assignments" (.tail _ List.mem_cons_self)
      _ < fuel := h
  have hassignments : list? (pair? string? (Written.ofJson? fuel))
      (list (fun a : String × Written => .array [.string a.1, a.2.toJson]) update.assignments) =
        some update.assignments :=
    list?_list fun assignment hmem =>
      pair?_array rfl (Written.ofJson?_toJson (hwritten assignment hmem))
  simp [fieldsToJson, ofJson?, hquery, hassignments]

@[simp] theorem intsInRange_fieldsToJson (update : Update) :
    (Json.object update.fieldsToJson).IntsInRange := by
  simpa [fieldsToJson, Query.toJson] using Query.intsInRange_fieldsToJson update.query

end Update

namespace Delete

theorem ofJson?_fieldsToJson {delete : Delete} {fuel : Nat}
    (h : (Json.object delete.fieldsToJson).depth < fuel) :
    ofJson? fuel (.object delete.fieldsToJson) = some delete := by
  have hquery : Query.ofJson? fuel delete.query.toJson = some delete.query :=
    Query.ofJson?_fieldsToJson delete.query fuel (Nat.lt_trans
      (depth_lt_of_mem_fields "statement" List.mem_cons_self) h)
  simp [fieldsToJson, ofJson?, hquery]

@[simp] theorem intsInRange_fieldsToJson (delete : Delete) :
    (Json.object delete.fieldsToJson).IntsInRange := by
  simpa [fieldsToJson, Query.toJson] using Query.intsInRange_fieldsToJson delete.query

end Delete

namespace Statement

theorem splitKind?_object {kind : String} {fields : List (String × Json)}
    (h : ∀ field ∈ fields, field.1 ≠ "kind") :
    splitKind? (.object (("kind", .string kind) :: fields)) = some (kind, .object fields) := by
  have hnone : fields.filter (fun field => field.1 == "kind") = [] := by
    rw [List.filter_eq_nil_iff]
    exact fun field hfield => by simpa using h field hfield
  have hall : fields.filter (fun field => field.1 != "kind") = fields := by
    rw [List.filter_eq_self]
    exact fun field hfield => by simpa using h field hfield
  simp [splitKind?, hnone, hall]

theorem fieldsToJson_ne_kind (statement : Statement) :
    ∀ field ∈ statement.fieldsToJson, field.1 ≠ "kind" := by
  cases statement with
  | select query => cases query; simp [fieldsToJson, Query.fieldsToJson]
  | insert insert => simp [fieldsToJson, Insert.fieldsToJson]
  | update update => simp [fieldsToJson, Update.fieldsToJson]
  | delete delete => simp [fieldsToJson, Delete.fieldsToJson]
  | createTable table => simp [fieldsToJson, CreateTable.fieldsToJson]
  | _ => simp [fieldsToJson]

theorem depth_fieldsToJson (statement : Statement) :
    (Json.object statement.fieldsToJson).depth = statement.toJson.depth := by
  simp [toJson, depth, depthEntries]

theorem ofJson?_toJson (statement : Statement) : ofJson? statement.toJson = some statement := by
  have hdepth : (Json.object statement.fieldsToJson).depth < statement.toJson.depth + 1 :=
    Nat.lt_succ_of_le (Nat.le_of_eq statement.depth_fieldsToJson)
  have hsplit : splitKind? statement.toJson =
      some (statement.kind, .object statement.fieldsToJson) :=
    splitKind?_object statement.fieldsToJson_ne_kind
  rw [ofJson?, hsplit, Option.bind_eq_bind, Option.bind_some]
  generalize statement.toJson.depth + 1 = fuel at hdepth ⊢
  cases statement with
  | select query =>
    have hquery := Query.ofJson?_fieldsToJson query fuel hdepth
    simp [kind, fieldsToJson, hquery]
  | insert insert =>
    have hinsert := Insert.ofJson?_fieldsToJson hdepth
    simp [kind, fieldsToJson, hinsert]
  | update update =>
    have hupdate := Update.ofJson?_fieldsToJson hdepth
    simp [kind, fieldsToJson, hupdate]
  | delete delete =>
    have hdelete := Delete.ofJson?_fieldsToJson hdepth
    simp [kind, fieldsToJson, hdelete]
  | createTable table => simp [kind, fieldsToJson]
  | alterTable table types => simp [kind, fieldsToJson]
  | dropTable table => simp [kind, fieldsToJson]
  | truncateTable table => simp [kind, fieldsToJson]
  | renameTable source target => simp [kind, fieldsToJson]

theorem intsInRange_toJson (statement : Statement) : statement.toJson.IntsInRange := by
  have hfields : (Json.object statement.fieldsToJson).IntsInRange := by
    cases statement with
    | select query => exact Query.intsInRange_fieldsToJson query
    | insert insert => exact insert.intsInRange_fieldsToJson
    | update update => exact update.intsInRange_fieldsToJson
    | delete delete => exact delete.intsInRange_fieldsToJson
    | createTable table => exact table.intsInRange_fieldsToJson
    | _ => simp [fieldsToJson]
  rw [intsInRange_object] at hfields
  rw [toJson, intsInRange_object]
  exact List.forall_mem_cons.2 ⟨intsInRange_string _, hfields⟩

/-- A statement comes back from its text, if all its doubles do and the text is nested no deeper
than the reader goes. So a text that is read, written and read again compiles as it did. -/
theorem ofText?_toText {statement : Statement} (hdepth : statement.toJson.depth ≤ maxDepth)
    (hdoubles : ∀ x ∈ statement.toJson.doubles, x.ReadsBack) :
    ofText? statement.toText = some statement ∧
      ∀ text, ofText? text = some statement → ∀ dialect,
        (ofText? statement.toText).map (compile dialect) =
          (ofText? text).map (compile dialect) := by
  have hreadable : statement.toJson.Readable := ⟨statement.intsInRange_toJson, hdoubles⟩
  have hread : ofText? statement.toText = some statement := by
    rw [ofText?, toText, Json.ofText?_compact hreadable hdepth]
    exact statement.ofJson?_toJson
  exact ⟨hread, fun text htext dialect => by rw [hread, htext]⟩

/-- A selection from a nested query and a table with several sorts of defaults. A default of `null`
is not the same as none. -/
theorem ofText?_toText_of_nested :
    let oneAndHalf : Double := ⟨false, 6755399441055744, 1022, by decide, by decide, by decide⟩
    let leapSecond : Timestamp := ⟨-44, 2, 29, 23, 59, 60, 500000000, by decide, by decide,
      by decide, by decide⟩
    let inner : Query := {
      tables := [⟨"u", none⟩]
      wheres := [(.and, .test ⟨.column "a", .gt, .value (.float oneAndHalf)⟩)]
      limit := some 5 }
    let select : Statement := .select {
      tables := [⟨"t", some "x"⟩], wheres := [(.or, .group [(.and, .exists true inner)])] }
    let create : Statement := .createTable {
      name := "t"
      columns := [⟨"a", .float, { default := some .null, nullable := false }⟩,
        ⟨"b", .timestamp, { default := some (.timestamp leapSecond) }⟩]
      foreignKeys := [⟨"fk", ["a"], "u", ["a"], some .cascade, none⟩] }
    ofText? select.toText = some select ∧ ofText? create.toText = some create := by
  intro oneAndHalf leapSecond inner select create
  have hselect : select.toJson.depth ≤ maxDepth ∧ ∀ x ∈ select.toJson.doubles, x.ReadsBack := by
    decide +kernel
  have hcreate : create.toJson.depth ≤ maxDepth ∧ ∀ x ∈ create.toJson.doubles, x.ReadsBack := by
    decide +kernel
  exact ⟨(ofText?_toText hselect.1 hselect.2).1, (ofText?_toText hcreate.1 hcreate.2).1⟩

end Statement

end SqlDialects
