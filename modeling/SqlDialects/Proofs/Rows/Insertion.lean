import Mathlib.Data.List.Perm.Subperm
import Mathlib.Data.List.Nodup
import SqlDialects.Change.Build
import SqlDialects.Proofs.Result
import SqlDialects.Proofs.Rows.Validity

/-! Rows that are collected for an insertion. The first row fixes the columns, and the insertion has
every value that was given, once and under the column that it was given for. -/

namespace SqlDialects

/-- A call that goes on with the collection of rows. -/
inductive InsertCall where
  | value (column : String) (written : Written)
  | row (row : NamedRow)

/-- The values that a call gives. -/
def InsertCall.entries : InsertCall → NamedRow
  | .value column written => [(column, written)]
  | .row given => given

namespace PendingRows

def record (pending : PendingRows) : InsertCall → PendingRows
  | .value column written => pending.addValue column written
  | .row row => pending.addRow row

/-- The rows after the first row and calls in order. -/
def ofCalls (first : NamedRow) (calls : List InsertCall) : PendingRows :=
  calls.foldl record { latest := first }

/-- A call adds its values behind those that are there. -/
theorem flatten_toList_record (pending : PendingRows) (call : InsertCall) :
    (pending.record call).toList.flatten = pending.toList.flatten ++ call.entries := by
  cases call <;> simp [record, addValue, addRow, toList, InsertCall.entries]

theorem flatten_toList_foldl_record (pending : PendingRows) (calls : List InsertCall) :
    (calls.foldl record pending).toList.flatten =
      pending.toList.flatten ++ calls.flatMap InsertCall.entries := by
  induction calls generalizing pending with
  | nil => simp
  | cons call rest ih =>
    rw [List.foldl_cons, ih, flatten_toList_record, List.append_assoc, List.flatMap_cons]

/-- The rows hold what the calls gave, in the order in which they gave it. -/
theorem flatten_toList_ofCalls (first : NamedRow) (calls : List InsertCall) :
    (ofCalls first calls).toList.flatten = first ++ calls.flatMap InsertCall.entries := by
  rw [ofCalls, flatten_toList_foldl_record]
  simp [toList]

theorem findRepeated_eq_none_iff (seen names : List String) :
    findRepeated seen names = none ↔ names.Nodup ∧ ∀ name ∈ names, name ∉ seen := by
  induction names generalizing seen with
  | nil => simp [findRepeated]
  | cons name rest ih =>
    unfold findRepeated
    by_cases hseen : name ∈ seen
    · simp [hseen]
    · rw [if_neg (by simpa using hseen), ih, List.nodup_cons, List.forall_mem_cons]
      simp only [List.mem_append, List.mem_singleton, not_or]
      constructor
      · rintro ⟨hnodup, hrest⟩
        exact ⟨⟨fun hmem => (hrest name hmem).2 rfl, hnodup⟩, hseen, fun n hn => (hrest n hn).1⟩
      · rintro ⟨⟨hname, hnodup⟩, -, hrest⟩
        exact ⟨hnodup, fun n hn => ⟨hrest n hn, fun h => hname (h ▸ hn)⟩⟩

section

variable {columns : List String} {index : Nat} {row : NamedRow} {column : String}

/-- The value for a column was given for this column. -/
theorem mem_of_valueFor {written : Written} (h : valueFor index row column = .ok written) :
    (column, written) ∈ row := by
  unfold valueFor at h
  split at h
  case h_1 entry hfind =>
    have hname : entry.1 = column := by simpa using List.find?_some hfind
    cases h
    exact hname ▸ List.mem_of_find?_eq_some hfind
  case h_2 => cases h

theorem valueFor_isOk_iff :
    (∃ written, valueFor index row column = .ok written) ↔ column ∈ row.map Prod.fst := by
  constructor
  · rintro ⟨written, h⟩
    exact List.mem_map_of_mem (mem_of_valueFor h)
  · intro h
    obtain ⟨entry, hmem, rfl⟩ := List.mem_map.mp h
    unfold valueFor
    split
    case h_1 found _ => exact ⟨found.2, rfl⟩
    case h_2 hnone => exact absurd (beq_self_eq_true _) (List.find?_eq_none.mp hnone entry hmem)

/-- Distinct columns are as many as the names of the row and all among them only if they are these
names in some order. -/
theorem orderRow_isOk_iff (hcolumns : columns.Nodup) :
    (∃ values, orderRow columns index row = .ok values) ↔ (row.map Prod.fst).Perm columns := by
  unfold orderRow
  by_cases hlength : row.length = columns.length
  · rw [if_neg (not_not_intro hlength)]
    have hall : (∃ values, columns.mapM (valueFor index row) = .ok values) ↔
        columns ⊆ row.map Prod.fst := by
      simp only [mapM_isOk_iff, valueFor_isOk_iff]
      rfl
    refine hall.trans ?_
    constructor
    · intro hsubset
      have hsubperm : columns.Subperm (row.map Prod.fst) :=
        List.subperm_of_subset hcolumns hsubset
      exact (hsubperm.perm_of_length_le (by simp [hlength])).symm
    · intro hperm
      exact hperm.symm.subset
  · rw [if_pos hlength]
    refine iff_of_false (fun ⟨_, h⟩ => by cases h) fun hperm => hlength ?_
    rw [← hperm.length_eq, List.length_map]

/-- Under distinct columns there is nothing but what the row gives, and with as many values as the
row has there is all of it. -/
theorem perm_of_orderRow {values : List Written} (hcolumns : columns.Nodup)
    (h : orderRow columns index row = .ok values) :
    values.length = columns.length ∧ (columns.zip values).Perm row := by
  unfold orderRow at h
  split at h
  case isTrue => cases h
  case isFalse hlength =>
    obtain ⟨hvalues, hgiven⟩ := List.forall₂_iff_zip.mp (forall₂_of_mapM_eq_ok h)
    have hnames : (columns.zip values).map Prod.fst = columns :=
      List.map_fst_zip (Nat.le_of_eq hvalues)
    have hnodup : (columns.zip values).Nodup := List.Nodup.of_map Prod.fst (by rwa [hnames])
    have hsubperm : (columns.zip values).Subperm row :=
      List.subperm_of_subset hnodup fun entry hmem => mem_of_valueFor (hgiven hmem)
    refine ⟨hvalues.symm, hsubperm.perm_of_length_le ?_⟩
    rw [List.length_zip, ← hvalues, Nat.min_self]
    exact Nat.le_of_eq (Decidable.not_not.mp hlength)

theorem orderRows_isOk_iff (hcolumns : columns.Nodup) (rows : List NamedRow) :
    (∃ ordered, orderRows columns index rows = .ok ordered) ↔
      ∀ row ∈ rows, (row.map Prod.fst).Perm columns := by
  induction rows generalizing index with
  | nil => exact iff_of_true ⟨[], rfl⟩ fun row h => absurd h List.not_mem_nil
  | cons row rest ih =>
    rw [List.forall_mem_cons, ← orderRow_isOk_iff hcolumns, ← ih, orderRows]
    constructor
    · rintro ⟨ordered, h⟩
      obtain ⟨values, hrow, h⟩ := bind_eq_ok_iff.mp h
      obtain ⟨more, hrest, -⟩ := bind_eq_ok_iff.mp h
      exact ⟨⟨values, hrow⟩, more, hrest⟩
    · rintro ⟨⟨values, hrow⟩, more, hrest⟩
      exact ⟨values :: more, by rw [hrow, hrest]; rfl⟩

theorem perm_of_orderRows {rows : List NamedRow} {ordered : List (List Written)}
    (hcolumns : columns.Nodup) (h : orderRows columns index rows = .ok ordered) :
    List.Forall₂ (fun values row => values.length = columns.length ∧
      (columns.zip values).Perm row) ordered rows := by
  induction rows generalizing index ordered with
  | nil =>
    cases h
    exact .nil
  | cons row rest ih =>
    rw [orderRows] at h
    obtain ⟨values, hrow, h⟩ := bind_eq_ok_iff.mp h
    obtain ⟨more, hrest, h⟩ := bind_eq_ok_iff.mp h
    cases h
    exact .cons (perm_of_orderRow hcolumns hrow) (ih hrest)

end

/-- Row by row in the same order, so all in all. -/
theorem flatMap_zip_perm {columns : List String} {ordered : List (List Written)}
    {rows : List NamedRow}
    (h : List.Forall₂ (fun values row => values.length = columns.length ∧
      (columns.zip values).Perm row) ordered rows) :
    (ordered.flatMap columns.zip).Perm rows.flatten ∧
      ∀ values ∈ ordered, values.length = columns.length := by
  induction h with
  | nil => exact ⟨.nil, fun values h => absurd h List.not_mem_nil⟩
  | cons hrow _ ih =>
    obtain ⟨hperm, hlengths⟩ := ih
    exact ⟨hrow.2.append hperm, List.forall_mem_cons.mpr ⟨hrow.1, hlengths⟩⟩

/-- What an insertion is made of, if it can be made. -/
theorem toInsert_eq_ok_iff {pending : PendingRows} {table : String} {insert : Insert} :
    pending.toInsert table = .ok insert ↔
      pending.first ≠ [] ∧ (pending.first.map Prod.fst).Nodup ∧ ∃ rows,
        orderRows (pending.first.map Prod.fst) 0 pending.toList = .ok rows ∧
          insert = ⟨table, pending.first.map Prod.fst, rows⟩ := by
  have hnames : findRepeated [] (pending.first.map Prod.fst) = none ↔
      (pending.first.map Prod.fst).Nodup := by
    simp [findRepeated_eq_none_iff]
  unfold toInsert
  cases hfirst : pending.first with
  | nil => exact iff_of_false (fun h => by cases h) fun h => h.1 rfl
  | cons entry rest =>
    rw [hfirst] at hnames
    rw [← hnames]
    cases hrepeated : findRepeated [] ((entry :: rest).map Prod.fst) with
    | some column =>
      refine iff_of_false (fun h => ?_) fun h => by cases h.2.1
      simp only [List.map_cons] at hrepeated
      simp [hrepeated] at h
    | none =>
      simp only [List.map_cons] at hrepeated
      simp only [List.map_cons, hrepeated, ne_eq, List.cons_ne_nil, not_false_eq_true, true_and]
      exact map_eq_ok_iff

/-- An insertion can be made exactly if the first row names some columns, none of them twice, and
every row names these columns in some order. -/
theorem toInsert_isOk_iff (pending : PendingRows) (table : String) :
    (∃ insert, pending.toInsert table = .ok insert) ↔
      pending.first ≠ [] ∧ (pending.first.map Prod.fst).Nodup ∧
        ∀ row ∈ pending.toList, (row.map Prod.fst).Perm (pending.first.map Prod.fst) := by
  constructor
  · rintro ⟨insert, h⟩
    obtain ⟨hfirst, hcolumns, rows, hrows, -⟩ := toInsert_eq_ok_iff.mp h
    exact ⟨hfirst, hcolumns, (orderRows_isOk_iff hcolumns _).mp ⟨rows, hrows⟩⟩
  · rintro ⟨hfirst, hcolumns, hperm⟩
    obtain ⟨rows, hrows⟩ : ∃ rows,
        orderRows (pending.first.map Prod.fst) 0 pending.toList = .ok rows :=
      (orderRows_isOk_iff hcolumns _).mpr hperm
    exact ⟨_, toInsert_eq_ok_iff.mpr ⟨hfirst, hcolumns, rows, hrows, rfl⟩⟩

end PendingRows

/-- Whether a part is a whole change of rows. -/
def Visit.isChange : Visit → Bool
  | .insert _ | .update _ | .delete _ => true
  | _ => false

theorem Call.not_isChange_of_mem_walk (call : Call) :
    ∀ visit ∈ call.walk, visit.isChange = false := by
  refine List.forall_mem_cons.mpr ⟨rfl, fun visit hvisit => ?_⟩
  obtain ⟨_, _, rfl⟩ := List.mem_map.mp hvisit
  rfl

mutual

theorem Term.not_isChange_of_mem_walk : (term : Term) →
    ∀ visit ∈ term.walk, visit.isChange = false
  | .column _ => by simp [Term.walk]
  | .value _ => by simp [Term.walk, Visit.isChange]
  | .operator _ => by simp [Term.walk]
  | .call call => by
    rw [Term.walk]
    exact call.not_isChange_of_mem_walk
  | .group terms => by
    rw [Term.walk]
    exact Term.not_isChange_of_mem_walkList terms
  | .subquery query => by
    rw [Term.walk]
    exact Query.not_isChange_of_mem_walk query

theorem Term.not_isChange_of_mem_walkList : (terms : List Term) →
    ∀ visit ∈ Term.walkList terms, visit.isChange = false
  | [] => by simp [Term.walkList]
  | term :: rest => by
    rw [Term.walkList]
    exact List.forall_mem_append.mpr
      ⟨Term.not_isChange_of_mem_walk term, Term.not_isChange_of_mem_walkList rest⟩

theorem Operand.not_isChange_of_mem_walk : (operand : Operand) →
    ∀ visit ∈ operand.walk, visit.isChange = false
  | .column _ => by simp [Operand.walk]
  | .expression terms => by
    rw [Operand.walk]
    exact Term.not_isChange_of_mem_walkList terms

theorem Comparand.not_isChange_of_mem_walk : (comparand : Comparand) →
    ∀ visit ∈ comparand.walk, visit.isChange = false
  | .nothing => by simp [Comparand.walk]
  | .value _ => by simp [Comparand.walk, Visit.isChange]
  | .column _ => by simp [Comparand.walk]
  | .list _ => by simp [Comparand.walk, Visit.isChange]
  | .range _ _ => by simp [Comparand.walk, Visit.isChange]
  | .subquery query => by
    rw [Comparand.walk]
    exact Query.not_isChange_of_mem_walk query

theorem Condition.not_isChange_of_mem_walk : (condition : Condition) →
    ∀ visit ∈ condition.walk, visit.isChange = false
  | ⟨operand, comparison, comparand⟩ => by
    have hoperand := Operand.not_isChange_of_mem_walk operand
    have hcomparand := Comparand.not_isChange_of_mem_walk comparand
    by_cases hempty : comparand = .list [] ∧ (comparison = .isIn ∨ comparison = .notIn)
    · obtain ⟨rfl, rfl | rfl⟩ := hempty <;> simp [Condition.walk]
    by_cases hnull : comparison = .isNull ∨ comparison = .isNotNull
    · rw [Condition.walk_of_null hnull]
      exact List.forall_mem_append.mpr ⟨hoperand, by simp [Visit.isChange]⟩
    · rw [Condition.walk_of_operand hempty hnull]
      exact List.forall_mem_append.mpr
        ⟨hoperand, List.forall_mem_cons.mpr ⟨rfl, hcomparand⟩⟩

theorem ConditionNode.not_isChange_of_mem_walk : (node : ConditionNode) →
    ∀ visit ∈ node.walk, visit.isChange = false
  | .test condition => by
    rw [ConditionNode.walk]
    exact Condition.not_isChange_of_mem_walk condition
  | .exists _ query => by
    rw [ConditionNode.walk]
    exact Query.not_isChange_of_mem_walk query
  | .group items => by
    rw [ConditionNode.walk]
    exact ConditionNode.not_isChange_of_mem_walkItems items

theorem ConditionNode.not_isChange_of_mem_walkItems :
    (items : List (Connective × ConditionNode)) →
    ∀ visit ∈ ConditionNode.walkItems items, visit.isChange = false
  | [] => by simp [ConditionNode.walkItems]
  | (_, node) :: rest => by
    rw [ConditionNode.walkItems]
    exact List.forall_mem_append.mpr ⟨ConditionNode.not_isChange_of_mem_walk node,
      ConditionNode.not_isChange_of_mem_walkItems rest⟩

theorem Projection.not_isChange_of_mem_walk : (column : Projection) →
    ∀ visit ∈ column.walk, visit.isChange = false
  | ⟨terms, _⟩ => by
    rw [Projection.walk]
    exact Term.not_isChange_of_mem_walkList terms

theorem Projection.not_isChange_of_mem_walkList : (columns : List Projection) →
    ∀ visit ∈ Projection.walkList columns, visit.isChange = false
  | [] => by simp [Projection.walkList]
  | column :: rest => by
    rw [Projection.walkList]
    exact List.forall_mem_append.mpr ⟨Projection.not_isChange_of_mem_walk column,
      Projection.not_isChange_of_mem_walkList rest⟩

theorem Query.not_isChange_of_mem_walk : (query : Query) →
    ∀ visit ∈ query.walk, visit.isChange = false
  | ⟨tables, columns, _, wheres, _, having, _, _, _, _, into⟩ => by
    have hinto : ∀ visit ∈ into.toList.map Visit.into, visit.isChange = false := by
      simp [Visit.isChange]
    simp only [Query.walk, List.cons_append, List.append_assoc]
    refine List.forall_mem_cons.mpr ⟨rfl, List.forall_mem_append.mpr
      ⟨Projection.not_isChange_of_mem_walkList columns, List.forall_mem_append.mpr
        ⟨hinto, List.forall_mem_append.mpr ⟨ConditionNode.not_isChange_of_mem_walkItems wheres,
          ConditionNode.not_isChange_of_mem_walkItems having⟩⟩⟩⟩

end

theorem Written.not_isChange_of_mem_walk (written : Written) :
    ∀ visit ∈ written.walk, visit.isChange = false := by
  cases written with
  | value _ => simp [walk, Visit.isChange]
  | expression terms => exact Term.not_isChange_of_mem_walkList terms

section

variable {dialect : Dialect} {index values columns : Nat}

/-- Only an insertion has ragged rows. -/
theorem Visit.isChange_of_ragged {visit : Visit}
    (h : visit.problem? dialect = some (.invalid (.raggedRow index values columns))) :
    visit.isChange = true := by
  cases visit with
  | insert _ | update _ | delete _ => rfl
  | value _ => cases h
  | call call =>
    have hjudged := call.judged dialect
    rw [h] at hjudged
    cases hjudged with
    | invalid hinvalid _ =>
      obtain ⟨function, names, distinct⟩ := call
      cases function with
      | aggregate function => exact absurd (fun scalar h => by cases h) hinvalid
      | scalar function => cases names <;> cases function <;> cases h
  | test comparison comparand =>
    simp only [problem?] at h
    split at h <;> cases h
  | source tables =>
    simp only [problem?] at h
    split at h <;> cases h
  | into target =>
    have hjudged := target.judged dialect
    rw [h] at hjudged
    cases hjudged with
    | invalid hinvalid _ => exact absurd trivial hinvalid

/-- An insertion with a value for every column in every row is not refused for ragged rows. -/
theorem Insert.compile_ne_ragged {insert : Insert}
    (h : ∀ row ∈ insert.rows, row.length = insert.columns.length) :
    insert.compile dialect ≠ .error (.invalid (.raggedRow index values columns)) := by
  intro herror
  have hmeets := (RowStatement.insert insert).compile_meets dialect
  obtain ⟨visit, hvisit, hproblem⟩ :=
    List.exists_of_findSome?_eq_some ((hmeets.error_iff _).mp herror)
  rcases List.mem_cons.mp hvisit with rfl | hinside
  · have hragged := (findRagged_eq_none_iff insert.columns.length 0 insert.rows).mpr h
    obtain ⟨cause, hcause, hsame⟩ := Option.map_eq_some_iff.mp hproblem
    cases hsame
    unfold problem? at hcause
    rw [hragged] at hcause
    split_ifs at hcause <;> cases hcause
  · obtain ⟨row, _, hrow⟩ := List.mem_flatMap.mp hinside
    obtain ⟨written, _, hwritten⟩ := List.mem_flatMap.mp hrow
    have hchange := Visit.isChange_of_ragged hproblem
    rw [written.not_isChange_of_mem_walk visit hwritten] at hchange
    cases hchange

end

namespace PendingRows

/-- Rows that are collected by calls become an insertion exactly if the first row names some
columns, none of them twice, and every row names the same columns in some order. The insertion then
has these columns and a row for each row that was given, in order, with the values that were given
in it, once each and under the column that each was given for. So nothing is lost of what the calls
gave, and the insertion is not refused for ragged rows. -/
theorem values_stay_under_columns (first : NamedRow) (calls : List InsertCall) (table : String) :
    let pending := ofCalls first calls
    let columns := pending.first.map Prod.fst
    ((∃ insert, pending.toInsert table = .ok insert) ↔
      pending.first ≠ [] ∧ columns.Nodup ∧
        ∀ row ∈ pending.toList, (row.map Prod.fst).Perm columns) ∧
    ∀ insert, pending.toInsert table = .ok insert →
      insert.table = table ∧ insert.columns = columns ∧
      List.Forall₂ (fun values row => values.length = columns.length ∧
        (columns.zip values).Perm row) insert.rows pending.toList ∧
      (insert.rows.flatMap columns.zip).Perm (first ++ calls.flatMap InsertCall.entries) ∧
      ∀ dialect index found expected,
        insert.compile dialect ≠ .error (.invalid (.raggedRow index found expected)) := by
  intro pending columns
  refine ⟨toInsert_isOk_iff pending table, fun insert h => ?_⟩
  obtain ⟨-, hcolumns, rows, hrows, rfl⟩ := toInsert_eq_ok_iff.mp h
  have hordered := perm_of_orderRows hcolumns hrows
  obtain ⟨hall, hlengths⟩ := flatMap_zip_perm hordered
  refine ⟨rfl, rfl, hordered, ?_, fun dialect index found expected => ?_⟩
  · rwa [flatten_toList_ofCalls] at hall
  · exact Insert.compile_ne_ragged hlengths

/-- The second row names the columns in another order, and its last value comes with a call of its
own. -/
theorem values_stay_under_columns_of_reordered :
    let first : NamedRow := [("name", .value (.string "Ada")), ("age", .value (.int 36))]
    let calls : List InsertCall :=
      [.row [("age", .value (.int 54))], .value "name" (.value (.string "Linus"))]
    ∃ insert, (ofCalls first calls).toInsert "users" = .ok insert ∧
      insert.rows = [[.value (.string "Ada"), .value (.int 36)],
        [.value (.string "Linus"), .value (.int 54)]] ∧
      (insert.rows.flatMap ["name", "age"].zip).Perm
        (first ++ calls.flatMap InsertCall.entries) ∧
      insert.compile .mysql ≠ .error (.invalid (.raggedRow 1 1 2)) := by
  intro first calls
  obtain ⟨insert, h, hrows⟩ : ∃ insert, (ofCalls first calls).toInsert "users" = .ok insert ∧
      insert.rows = [[.value (.string "Ada"), .value (.int 36)],
        [.value (.string "Linus"), .value (.int 54)]] := ⟨_, rfl, rfl⟩
  obtain ⟨-, -, -, hperm, hragged⟩ := (values_stay_under_columns first calls "users").2 insert h
  exact ⟨insert, h, hrows, hperm, hragged .mysql 1 1 2⟩

end PendingRows

end SqlDialects
