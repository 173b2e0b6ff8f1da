import SqlDialects.Proofs.Json.Reading
import SqlDialects.Proofs.Session.Prefix
import SqlDialects.Proofs.Table.Renaming
import SqlDialects.Session.Rehearsal

/-! The types that MySQL is told when a column gets a new name. They come from the rows that the
database answers with when it is asked for the columns of the table; where several rows name a
column, the last one counts. A row that names a column without saying its type counts as well: the
renaming is then sent with nothing where the type belongs. -/

namespace SqlDialects

namespace ColumnTypes

theorem find?_insertEntry (name type key : String) (entries : List (String × String)) :
    ((insertEntry name type entries).find? fun entry => entry.1 == key).map Prod.snd =
      if name = key then some type
      else (entries.find? fun entry => entry.1 == key).map Prod.snd := by
  induction entries with
  | nil => by_cases hkey : name = key <;> simp [insertEntry, hkey]
  | cons entry rest ih =>
    rw [insertEntry]
    split
    · next hname => by_cases hkey : name = key <;> simp [hname, hkey]
    · next hname =>
      by_cases hentry : entry.1 = key
      · have hkey : name ≠ key := fun h => hname (hentry.trans h.symm)
        simp [hentry, hkey]
      · simpa [hentry] using ih

theorem find?_insert (types : ColumnTypes) (name type key : String) :
    (types.insert name type).find? key = if name = key then some type else types.find? key :=
  find?_insertEntry name type key types.entries

/-- Of several entries for a column the last one counts. -/
theorem find?_ofList (entries : List (String × String)) (key : String) :
    (ofList entries).find? key =
      (entries.reverse.find? fun entry => entry.1 == key).map Prod.snd := by
  have hfoldl (types : ColumnTypes) :
      (entries.foldl (fun types entry => types.insert entry.1 entry.2) types).find? key =
        ((entries.reverse.find? fun entry => entry.1 == key).map Prod.snd).or
          (types.find? key) := by
    induction entries generalizing types with
    | nil => rfl
    | cons entry rest ih =>
      rw [List.foldl_cons, ih, find?_insert, List.reverse_cons, List.find?_append]
      by_cases hentry : entry.1 = key
      · cases rest.reverse.find? fun entry => entry.1 == key <;> simp [hentry]
      · cases rest.reverse.find? fun entry => entry.1 == key <;> simp [hentry]
  rw [ofList, hfoldl]
  exact Option.or_none

/-- The types that are not empty. -/
def nonEmpty (types : ColumnTypes) : ColumnTypes where
  entries := types.entries.filter fun entry => entry.2 != ""
  distinct := types.distinct.sublist (List.filter_sublist.map Prod.fst)

theorem find?_nonEmpty (types : ColumnTypes) (key : String) :
    types.nonEmpty.find? key = (types.find? key).filter fun type => type != "" := by
  obtain ⟨entries, hdistinct⟩ := types
  unfold nonEmpty find?
  induction entries with
  | nil => rfl
  | cons entry rest ih =>
    obtain ⟨hentry, hrest⟩ := List.nodup_cons.1 hdistinct
    by_cases hkey : entry.1 = key
    · have hnone : (rest.filter fun entry => entry.2 != "").find? (fun entry => entry.1 == key) =
          none := by
        rw [List.find?_eq_none]
        intro other hother hother_key
        refine hentry (List.mem_map.2 ⟨other, List.mem_of_mem_filter hother, ?_⟩)
        exact (eq_of_beq hother_key).trans hkey.symm
      by_cases hempty : entry.2 = "" <;> simp [hkey, hempty, hnone, Option.filter]
    · by_cases hempty : entry.2 = "" <;> simpa [hkey, hempty] using ih hrest

theorem find?_nonEmpty_of_ne (types : ColumnTypes) {key : String} (h : types.find? key ≠ some "") :
    types.nonEmpty.find? key = types.find? key := by
  rw [find?_nonEmpty]
  cases htype : types.find? key with
  | none => rfl
  | some type =>
    have hnonempty : type ≠ "" := fun hempty => h (hempty ▸ htype)
    simp [Option.filter, hnonempty]

end ColumnTypes

namespace Json

theorem compact_ne_empty (j : Json) : j.compact ≠ "" := by
  intro h
  have htext := congrArg String.toList h
  cases j with
  | null => cases htext
  | bool b => cases b <;> cases htext
  | int n =>
    obtain ⟨c, rest, hstarts, -⟩ := Json.Token.startsNumber_toString n
    cases hstarts.symm.trans htext
  | double x =>
    obtain ⟨c, rest, hstarts, -⟩ := NumberLayout.json.startsNumber_write x
    cases hstarts.symm.trans htext
  | string s | array elements | object entries =>
    simp [compact, stringText] at htext

end Json

namespace Row

/-- Whether a row says no type: it has no such cell, a null or an empty text. -/
def LacksType (row : Row) : Prop :=
  row.cell? "type" = none ∨ row.cell? "type" = some .null ∨ row.cell? "type" = some (.string "")

theorem lacksType_iff (row : Row) : row.LacksType ↔ (row.text? "type").getD "" = "" := by
  unfold LacksType text?
  cases hcell : row.cell? "type" with
  | none => simp
  | some cell => cases cell <;> simp [Json.compact_ne_empty]

end Row

/-- A request that is rejected is made. -/
theorem Transcript.Follows.exchanges_ne_nil {σ : Type} {requests : List Request}
    {t : Transcript σ Unit} (h : t.Follows requests) {error : Error}
    (hresult : t.result = .error error) : t.exchanges ≠ [] := by
  obtain ⟨-, hok⟩ | ⟨before, rejected, after, error, -, hexchanges, -⟩ := h
  · cases hresult.symm.trans hok
  · rw [hexchanges]
    exact List.append_ne_nil_of_right_ne_nil _ (List.cons_ne_nil _ _)

namespace Catalog

/-- The row that counts for a column: the last one that names it. -/
def rowOf? (rows : List Row) (column : String) : Option Row :=
  rows.reverse.find? fun row => row.text? "name" == some column

/-- The type that a column is renamed with, which is empty where its row says none. -/
def statedType? (rows : List Row) : NativeTypes := fun column =>
  (rowOf? rows column).map fun row => (row.text? "type").getD ""

/-- The types of the columns that rows tell of. -/
def typesOf (rows : List Row) : ColumnTypes := ColumnInfo.types (rows.filterMap ColumnInfo.ofRow?)

theorem text?_name_of_rowOf? {rows : List Row} {column : String} {row : Row}
    (h : rowOf? rows column = some row) : row.text? "name" = some column := by
  have hname := List.find?_some h
  exact eq_of_beq hname

theorem find?_typesOf (rows : List Row) (column : String) :
    (typesOf rows).find? column = statedType? rows column := by
  have hrow (row : Row) : (ColumnInfo.ofRow? row).any (fun info => info.name == column) =
      (row.text? "name" == some column) := by
    unfold ColumnInfo.ofRow?
    cases row.text? "name" <;> rfl
  have hfind : (rows.filterMap ColumnInfo.ofRow?).reverse.find? (fun info => info.name == column) =
      (rowOf? rows column).bind ColumnInfo.ofRow? := by
    simp only [← List.filterMap_reverse, List.find?_filterMap, hrow, rowOf?]
  calc (typesOf rows).find? column
      = ((rowOf? rows column).bind ColumnInfo.ofRow?).map ColumnInfo.nativeType := by
        rw [typesOf, ColumnInfo.types, ColumnTypes.find?_ofList, ← List.map_reverse, List.find?_map,
          Option.map_map]
        exact congrArg _ hfind
    _ = statedType? rows column := by
        unfold statedType?
        cases hcounts : rowOf? rows column with
        | none => rfl
        | some row =>
          simp only [Option.bind_some, ColumnInfo.ofRow?, text?_name_of_rowOf? hcounts,
            Option.map_some]

/-- The type that rows give for a column. -/
def givenType? (rows : List Row) : NativeTypes := fun column =>
  (rowOf? rows column).bind fun row => (row.text? "type").filter fun type => type != ""

theorem find?_nonEmpty_typesOf (rows : List Row) (column : String) :
    (typesOf rows).nonEmpty.find? column = givenType? rows column := by
  rw [ColumnTypes.find?_nonEmpty, find?_typesOf, statedType?, givenType?]
  cases rowOf? rows column with
  | none => rfl
  | some row => cases htype : row.text? "type" <;> simp [htype]

section Answers

variable {σ : Type}

/-- Whether both requests for the columns of a table are answered: the first one with the name of
the database, the second one with rows. -/
def Answers (dialect : Dialect) (table : String) (database : Database σ) (state : σ) (name : String)
    (rows : List Row) (after : σ) : Prop :=
  ∃ names middle, (database.fetch ((Catalog.database dialect).compile dialect)).run.run state =
      (.ok names, middle) ∧
    name = (names.head?.bind fun row => row.text? "name").getD "" ∧
    (database.fetch ((columns dialect name table).compile dialect)).run.run middle =
      (.ok rows, after)

theorem transcript_fetchColumns {dialect : Dialect} {table : String} {database : Database σ}
    {state : σ} {name : String} {rows : List Row} {after : σ}
    (h : Answers dialect table database state name rows after) :
    (fetchColumns dialect table).transcript database state =
      ⟨.ok (rows.filterMap ColumnInfo.ofRow?), after,
        (columnRequests dialect table name).map Request.accepted⟩ := by
  obtain ⟨names, middle, hnames, rfl, hrows⟩ := h
  rw [fetchColumns_eq, Session.transcript_fetch, hnames]
  simp only [Transcript.ofReply, Transcript.andThen, Session.transcript_fetch, hrows]
  rfl

end Answers

end Catalog

namespace AlterOperation

theorem eq_renameColumn_of_renamed? {operation : AlterOperation} {source : String}
    (h : operation.renamed? = some source) : ∃ target, operation = renameColumn source target := by
  cases operation <;> cases h
  exact ⟨_, rfl⟩

/-- Only the type of the column that an operation renames makes a difference. -/
theorem plan_congr {table : String} {types types' : ColumnTypes} {operation : AlterOperation}
    (h : ∀ source, operation.renamed? = some source → types.find? source = types'.find? source) :
    operation.plan .mysql table types = operation.plan .mysql table types' := by
  cases operation with
  | renameColumn source target =>
    rw [plan_renameColumn, plan_renameColumn, h source rfl]
  | addKey kind key => cases kind <;> rfl
  | dropKey kind name => cases kind <;> rfl
  | _ => rfl

end AlterOperation

/-- Traversals agree that agree on every item up to the first that fails. -/
theorem mapM_congr_reached {f g : α → Except ε β} {items : List α}
    (h : ∀ before item after, items = before ++ item :: after →
      (∃ earlier, before.mapM f = .ok earlier) → f item = g item) :
    items.mapM f = items.mapM g := by
  induction items with
  | nil => rfl
  | cons item rest ih =>
    have hitem : f item = g item := h [] item rest rfl ⟨[], rfl⟩
    rw [List.mapM_cons, List.mapM_cons, ← hitem]
    cases hhere : f item with
    | error e => rfl
    | ok here =>
      have hrest : rest.mapM f = rest.mapM g := by
        refine ih fun before reached after hrest ⟨earlier, hearlier⟩ =>
          h (item :: before) reached after (congrArg _ hrest) ⟨here :: earlier, ?_⟩
        rw [List.mapM_cons, hhere, hearlier]
        rfl
      rw [hrest]

namespace AlterTable

open AlterOperation

variable {σ : Type}

/-- Whether the changes come to a renaming of a column: those before it compile. -/
def Reaches (alter : AlterTable) (types : ColumnTypes) (before : List AlterOperation)
    (source : String) : Prop :=
  (∃ target later, alter.operations = before ++ renameColumn source target :: later) ∧
    ∃ earlier, (alter.upTo before).compile .mysql types = .ok earlier

/-- Whether a transcript is one of changes that are made with these types, after some requests. -/
structure MadeWith (alter : AlterTable) (types : ColumnTypes) (asked : List Exchange) (after : σ)
    (t : Transcript σ Unit) : Prop where
  /-- The types are missing where a renaming is reached whose column has none. -/
  missing : ∀ column, t = ⟨.error (.missingColumnType alter.name column), after, asked⟩ ↔
    ∃ before, alter.Reaches types before column ∧ types.find? column = none
  /-- Nothing is executed if the changes do not compile. -/
  refused : ∀ e, alter.compile .mysql types = .error e → t = ⟨.error e, after, asked⟩
  /-- Else all is, up to what is rejected, and each renaming ends in the type of its column. -/
  runs : ∀ statements, alter.compile .mysql types = .ok statements →
    ∃ running : Transcript σ Unit, running.Follows (statements.map Request.execute) ∧
      t = running.behind asked ∧
      ∀ before source target later,
        alter.operations = before ++ renameColumn source target :: later →
        ∃ earlier type rest, types.find? source = some type ∧ statements =
          earlier ++ Compiled.plain (renamingText alter.name source target type) :: rest

/-- What comes of the changes for MySQL once the types of columns are known. -/
def transcriptWith (alter : AlterTable) (types : ColumnTypes) (database : Database σ)
    (asked : List Exchange) (after : σ) : Transcript σ Unit :=
  match alter.compile .mysql types with
  | .ok statements => ((Session.executeAll statements).transcript database after).behind asked
  | .error e => ⟨.error e, after, asked⟩

theorem transcript_alter {alter : AlterTable} {database : Database σ} {state : σ} {name : String}
    {rows : List Row} {after : σ}
    (hrenames : ∃ source target, renameColumn source target ∈ alter.operations)
    (hanswers : Catalog.Answers .mysql alter.name database state name rows after) :
    (SchemaChange.alter alter).transcript .mysql database state =
      alter.transcriptWith (Catalog.typesOf rows) database
        ((Catalog.columnRequests .mysql alter.name name).map Request.accepted) after := by
  have hneeds : alter.needsTypes .mysql = true := SchemaChange.needsTypes_iff.2 ⟨rfl, hrenames⟩
  have hreading : (SchemaChange.alter alter).reading .mysql database state =
      ⟨.ok (Catalog.typesOf rows), after,
        (Catalog.columnRequests .mysql alter.name name).map Request.accepted⟩ := by
    simp only [SchemaChange.reading, SchemaChange.fetchTypes, AlterTable.fetchTypes, hneeds,
      ↓reduceIte]
    rw [Session.transcript_bind, Catalog.transcript_fetchColumns hanswers]
    rfl
  rw [SchemaChange.transcript_eq, hreading]
  simp only [Transcript.andThen, SchemaChange.toStatement, Statement.compile, transcriptWith]
  cases alter.compile .mysql (Catalog.typesOf rows) <;> rfl

theorem transcriptWith_eq_error_iff {alter : AlterTable} {types : ColumnTypes}
    {database : Database σ} {asked : List Exchange} {after : σ} {e : Error} :
    alter.transcriptWith types database asked after = ⟨.error e, after, asked⟩ ↔
      alter.compile .mysql types = .error e := by
  unfold transcriptWith
  cases alter.compile .mysql types with
  | error e' => simp
  | ok statements =>
    simp only [reduceCtorEq, iff_false]
    intro h
    have hresult := congrArg Transcript.result h
    have hexchanges := congrArg Transcript.exchanges h
    rw [Transcript.behind, List.append_right_eq_self] at hexchanges
    exact (Session.follows_executeAll database statements after).exchanges_ne_nil hresult hexchanges

theorem madeWith_transcriptWith (alter : AlterTable) (types : ColumnTypes) (database : Database σ)
    (asked : List Exchange) (after : σ) :
    alter.MadeWith types asked after (alter.transcriptWith types database asked after) where
  missing := by
    intro column
    rw [transcriptWith_eq_error_iff, (alter.restates_types_before types).missing]
    constructor
    · rintro ⟨-, before, target, later, hoperations, hearlier, htype⟩
      exact ⟨before, ⟨⟨target, later, hoperations⟩, hearlier⟩, htype⟩
    · rintro ⟨before, ⟨⟨target, later, hoperations⟩, hearlier⟩, htype⟩
      exact ⟨rfl, before, target, later, hoperations, hearlier, htype⟩
  refused := fun e he => transcriptWith_eq_error_iff.2 he
  runs := by
    intro statements hcompile
    refine ⟨_, Session.follows_executeAll database statements after, ?_, ?_⟩
    · simp only [transcriptWith, hcompile]
    · intro before source target later hoperations
      obtain ⟨earlier, type, rest, -, htype, hstatements⟩ :=
        (alter.restates_types_before types).stated statements before source target later hcompile
          hoperations
      exact ⟨earlier, type, rest, htype, hstatements⟩

/-- Only the types of columns that are renamed make a difference. -/
theorem compile_congr {alter : AlterTable} {types types' : ColumnTypes}
    (h : ∀ before source, alter.Reaches types before source →
      types.find? source = types'.find? source) :
    alter.compile .mysql types = alter.compile .mysql types' := by
  rw [compile_eq_map, compile_eq_map]
  refine congrArg _ (mapM_congr_reached ?_)
  rintro before operation later hoperations ⟨parts, hparts⟩
  refine plan_congr fun source hrenamed => ?_
  obtain ⟨target, rfl⟩ := eq_renameColumn_of_renamed? hrenamed
  exact h before source ⟨⟨target, later, hoperations⟩, _, compile_eq_ok_iff.2 ⟨parts, hparts, rfl⟩⟩

/-- The first renaming with an empty type is reached without the empty types as well. -/
theorem reaches_nonEmpty {alter : AlterTable} {types : ColumnTypes} {before : List AlterOperation}
    {source : String} (hreaches : alter.Reaches types before source)
    (hempty : types.find? source = some "") :
    ∃ before source, alter.Reaches types.nonEmpty before source ∧ types.find? source = some "" := by
  obtain ⟨⟨target, later, hoperations⟩, statements, hstatements⟩ := hreaches
  cases hgiven : (alter.upTo before).compile .mysql types.nonEmpty with
  | ok earlier => exact ⟨before, source, ⟨⟨target, later, hoperations⟩, earlier, hgiven⟩, hempty⟩
  | error e =>
    obtain ⟨first, operation, rest, rfl, ⟨parts, hparts⟩, hoperation⟩ :=
      mapM_eq_error_iff.1 (compile_eq_error_iff.1 hgiven)
    obtain ⟨_, hplanned, -⟩ := compile_eq_ok_iff.1 hstatements
    rw [upTo, mapM_append_cons] at hplanned
    obtain ⟨_, -, hplanned⟩ := bind_eq_ok_iff.1 hplanned
    obtain ⟨here, hhere, -⟩ := bind_eq_ok_iff.1 hplanned
    -- What compiles with the one types and not with the others renames a column whose types differ.
    have hdiffer : ∃ column, operation.renamed? = some column ∧
        types.find? column ≠ types.nonEmpty.find? column := by
      by_contra! hsame
      cases hhere.symm.trans ((plan_congr hsame).trans hoperation)
    obtain ⟨column, hrenamed, hdiffer⟩ := hdiffer
    obtain ⟨_, rfl⟩ := eq_renameColumn_of_renamed? hrenamed
    refine ⟨first, column, ⟨⟨_, _, hoperations.trans (List.append_assoc _ _ _)⟩, _,
      compile_eq_ok_iff.2 ⟨parts, hparts, rfl⟩⟩, ?_⟩
    by_contra hnonempty
    exact hdiffer (types.find?_nonEmpty_of_ne hnonempty).symm

theorem madeWith_nonEmpty_iff {alter : AlterTable} {types : ColumnTypes} {database : Database σ}
    {asked : List Exchange} {after : σ} :
    alter.MadeWith types.nonEmpty asked after (alter.transcriptWith types database asked after) ↔
      ∀ before source, alter.Reaches types before source → types.find? source ≠ some "" := by
  constructor
  · intro h before source hreaches hempty
    obtain ⟨first, column, hfirst, hcolumn⟩ := reaches_nonEmpty hreaches hempty
    have hnone : types.nonEmpty.find? column = none := by
      rw [ColumnTypes.find?_nonEmpty, hcolumn]
      rfl
    obtain ⟨_, -, hmissing⟩ := ((alter.madeWith_transcriptWith types database asked after).missing
      column).1 ((h.missing column).2 ⟨first, hfirst, hnone⟩)
    cases hmissing.symm.trans hcolumn
  · intro h
    have hcompile : alter.compile .mysql types = alter.compile .mysql types.nonEmpty := by
      refine compile_congr fun before source hreaches => ?_
      exact (types.find?_nonEmpty_of_ne (h before source hreaches)).symm
    have hwith : alter.transcriptWith types database asked after =
        alter.transcriptWith types.nonEmpty database asked after := by
      simp only [transcriptWith, hcompile]
    rw [hwith]
    exact alter.madeWith_transcriptWith types.nonEmpty database asked after

/-- Alterations that rename a column in MySQL are made with the types that the rows state. They are
made with the types that the rows give, so that a type that is missing in the answer is missing in
the alteration, exactly if no renaming is reached whose row lacks its type. -/
theorem made_with_given_types_iff {alter : AlterTable} {database : Database σ} {state : σ}
    {name : String} {rows : List Row} {after : σ}
    (hrenames : ∃ source target, renameColumn source target ∈ alter.operations)
    (hanswers : Catalog.Answers .mysql alter.name database state name rows after) :
    let t := (SchemaChange.alter alter).transcript .mysql database state
    let asked := (Catalog.columnRequests .mysql alter.name name).map Request.accepted
    let types := Catalog.typesOf rows
    (∀ column, types.find? column = Catalog.statedType? rows column ∧
      types.nonEmpty.find? column = Catalog.givenType? rows column) ∧
    alter.MadeWith types asked after t ∧
    (alter.MadeWith types.nonEmpty asked after t ↔ ∀ before source row,
      alter.Reaches types before source → Catalog.rowOf? rows source = some row →
        ¬row.LacksType) := by
  intro t asked types
  have ht : t = alter.transcriptWith types database asked after :=
    transcript_alter hrenames hanswers
  refine ⟨fun column => ⟨Catalog.find?_typesOf rows column,
    Catalog.find?_nonEmpty_typesOf rows column⟩, ?_, ?_⟩
  · rw [ht]
    exact alter.madeWith_transcriptWith types database asked after
  · rw [ht, madeWith_nonEmpty_iff]
    refine forall_congr' fun before => forall_congr' fun source => ?_
    rw [Catalog.find?_typesOf, Catalog.statedType?]
    cases Catalog.rowOf? rows source with
    | none => simp
    | some row => simp [row.lacksType_iff]

/-- A renaming of a column whose type is known. -/
theorem made_with_given_types_of_varchar :
    let alter : AlterTable := ⟨"t", [.renameColumn "a" "b"]⟩
    let rows : List Row := [⟨["name", "type"], [.string "a", .string "varchar(10)"]⟩]
    let state : Rehearsal := { responses := [[], rows] }
    let t := (SchemaChange.alter alter).transcript .mysql Rehearsal.database state
    let asked := (Catalog.columnRequests .mysql "t" "").map Request.accepted
    t.exchanges = asked ++ [Request.accepted
        (.execute (Compiled.plain "ALTER TABLE t CHANGE a b varchar(10)"))] ∧
      ∃ after, alter.MadeWith (Catalog.typesOf rows).nonEmpty asked after t := by
  refine ⟨by rfl, _, ((made_with_given_types_iff ⟨"a", "b", List.mem_cons_self⟩
    ⟨[], _, by rfl, by rfl, by rfl⟩).2.2).2 ?_⟩
  rintro before source row ⟨⟨target, later, hoperations⟩, -⟩ hrow
  cases before with
  | nil =>
    cases hoperations
    cases hrow
    rw [Row.lacksType_iff]
    decide
  | cons operation rest => simp at hoperations

/-- A row without a type is taken for one with an empty type, with which the renaming is sent. -/
theorem not_made_with_given_types_of_no_type :
    let alter : AlterTable := ⟨"t", [.renameColumn "a" "b"]⟩
    let rows : List Row := [⟨["name"], [.string "a"]⟩]
    let state : Rehearsal := { responses := [[], rows] }
    let t := (SchemaChange.alter alter).transcript .mysql Rehearsal.database state
    let asked := (Catalog.columnRequests .mysql "t" "").map Request.accepted
    Catalog.givenType? rows "a" = none ∧
      t.result = .ok () ∧
      t.exchanges = asked ++
        [Request.accepted (.execute (Compiled.plain "ALTER TABLE t CHANGE a b "))] ∧
      ∀ after, ¬alter.MadeWith (Catalog.typesOf rows).nonEmpty asked after t := by
  refine ⟨by rfl, by rfl, by rfl, fun after h => ?_⟩
  have hrefused := (h.missing "a").2 ⟨[], ⟨⟨"b", [], rfl⟩, [], by rfl⟩, by rfl⟩
  have hresult := congrArg Transcript.result hrefused
  cases hresult

end AlterTable

end SqlDialects
