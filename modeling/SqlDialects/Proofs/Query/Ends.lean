import SqlDialects.Proofs.Query.ResultClause
import SqlDialects.Proofs.Rows.Rendering

/-! The two ends of a query: what stands in front of its columns, and what stands behind its
conditions. Nothing between them depends on how the result is sorted and cut, and both are read
back as the clauses that they are made of. -/

namespace SqlDialects

open Text.Reader

namespace ResultClause

variable {dialect : Dialect}

/-- A text at the end of a query that says `clause`, before any other clause. -/
structure Says (dialect : Dialect) (text : List Char) (clause : ResultClause) : Prop where
  starts : ∃ letter ∈ ['L', 'O', 'F'], ∃ more, text = ' ' :: letter :: more
  read_append : ∀ rest, EndsClause rest → read dialect (text ++ rest) = some (clause, rest)

theorem read_page (clause : PageClause) {rest : List Char} (hrest : EndsClause rest) :
    read dialect (clause.sql.toList ++ rest) = some (.page clause, rest) := by
  simp only [read, PageClause.readSort_sql, PageClause.read_sql clause hrest, Option.map_some]

theorem says_page {clause : PageClause} (h : ∀ n, clause ≠ .top n) :
    Says dialect clause.sql.toList (.page clause) := by
  refine ⟨?_, fun rest hrest => read_page clause hrest⟩
  cases clause <;> simp only [PageClause.sql, String.toList_append]
  case top n => exact absurd rfl (h n)
  case limit => exact ⟨'L', by decide, _, rfl⟩
  case unlimited => exact ⟨'L', by decide, _, rfl⟩
  case fetchNext => exact ⟨'F', by decide, _, rfl⟩
  all_goals exact ⟨'O', by decide, _, rfl⟩

theorem says_sort {items : List OrderItem} (h : items ≠ []) :
    Says dialect (Sorting.text dialect items).toList (.sort (Sorting.terms dialect items)) := by
  constructor
  · rw [Sorting.text_of_ne_nil h, String.toList_append]
    exact ⟨'O', by decide, _, rfl⟩
  · intro rest hrest
    simp only [read, Sorting.readSort_text h hrest]

theorem endsClause_flatMap {texts : List (List Char × ResultClause)}
    (h : ∀ entry ∈ texts, Says dialect entry.1 entry.2) : EndsClause (texts.flatMap Prod.fst) := by
  cases texts with
  | nil => exact .inl rfl
  | cons entry others =>
    obtain ⟨letter, hletter, more, hmore⟩ := (h entry List.mem_cons_self).starts
    rw [List.flatMap_cons, hmore]
    exact .inr ⟨letter, hletter, _, rfl⟩

/-- Clauses one after the other are read back. -/
theorem several_flatMap {texts : List (List Char × ResultClause)}
    (h : ∀ entry ∈ texts, Says dialect entry.1 entry.2) :
    several (read dialect) (texts.flatMap Prod.fst) = some (texts.map Prod.snd, []) := by
  have hitem (before : List (List Char × ResultClause)) (entry : List Char × ResultClause)
      (after : List (List Char × ResultClause)) (hsplit : texts = before ++ entry :: after) :
      read dialect (entry.1 ++ (after.flatMap Prod.fst ++ [])) =
        some (entry.2, after.flatMap Prod.fst ++ []) := by
    have hafter : ∀ other ∈ after, Says dialect other.1 other.2 := fun other hmem =>
      h other (by simp [hsplit, hmem])
    rw [List.append_nil]
    exact (h entry (by simp [hsplit])).read_append _ (endsClause_flatMap hafter)
  have hne : ∀ entry ∈ texts, entry.1 ≠ [] := fun entry hmem => by
    obtain ⟨letter, -, more, hmore⟩ := (h entry hmem).starts
    simp [hmore]
  rw [← List.append_nil (texts.flatMap Prod.fst)]
  exact several_append hne hitem (by cases dialect <;> rfl)

/-- The texts at the end of a query, each beside what it says: a sort, if there is anything to sort
by, and a page. -/
def closingTexts (dialect : Dialect) (items : List OrderItem) (clauses : List PageClause) :
    List (List Char × ResultClause) :=
  (if items = [] then []
    else [((Sorting.text dialect items).toList, .sort (Sorting.terms dialect items))]) ++
    clauses.map fun clause => (clause.sql.toList, .page clause)

def ofClosing (dialect : Dialect) (items : List OrderItem) (clauses : List PageClause) :
    List ResultClause :=
  (if items = [] then [] else [.sort (Sorting.terms dialect items)]) ++ clauses.map .page

section

variable (dialect) (items : List OrderItem) {clauses : List PageClause}

theorem says_of_mem_closingTexts (h : ∀ n, .top n ∉ clauses) :
    ∀ entry ∈ closingTexts dialect items clauses, Says dialect entry.1 entry.2 := by
  refine List.forall_mem_append.mpr ⟨?_, List.forall_mem_map.mpr fun clause hmem => ?_⟩
  · split
    case isTrue => exact List.forall_mem_nil _
    case isFalse hitems => exact List.forall_mem_singleton.mpr (says_sort hitems)
  · exact says_page fun n hn => h n (hn ▸ hmem)

theorem flatMap_fst_closingTexts :
    (closingTexts dialect items clauses).flatMap Prod.fst =
      (Sorting.text dialect items ++ Pagination.text clauses).toList := by
  have hsort : (if items = [] then []
      else [((Sorting.text dialect items).toList,
        ResultClause.sort (Sorting.terms dialect items))]).flatMap Prod.fst =
        (Sorting.text dialect items).toList := by
    split
    case isTrue hitems =>
      subst hitems
      rfl
    case isFalse => rw [List.flatMap_singleton]
  rw [closingTexts, List.flatMap_append, hsort, String.toList_append, Pagination.text,
    String.toList_join, List.flatMap_map, List.flatMap_map]

theorem map_snd_closingTexts :
    (closingTexts dialect items clauses).map Prod.snd = ofClosing dialect items clauses := by
  rw [closingTexts, ofClosing, List.map_append, List.map_map]
  split <;> rfl

/-- The end of a query is read back. -/
theorem listOf?_closing (h : ∀ n, .top n ∉ clauses) :
    listOf? dialect (Sorting.text dialect items ++ Pagination.text clauses) =
      some (ofClosing dialect items clauses) := by
  have hread := several_flatMap (says_of_mem_closingTexts dialect items h)
  rw [flatMap_fst_closingTexts, map_snd_closingTexts] at hread
  rw [listOf?, readAll, StateT.run, hread]

end

example : listOf? .sqlServer
    " ORDER BY CASE WHEN t.[a b] IS NULL THEN 0 ELSE 1 END, x DESC OFFSET 5 ROWS" =
      some [.sort [⟨.rank [['t'], ['a', ' ', 'b']] 0 1, .ascending, none⟩,
        ⟨.cell [['x']], .descending, none⟩], .page (.offsetRows 5)] := by
  decide

theorem listOf?_sql (clause : PageClause) : listOf? dialect clause.sql = some [.page clause] := by
  have hread : several (read dialect) ([clause].flatMap (fun c => c.sql.toList) ++ []) =
      some ([clause].map .page, []) := by
    refine several_append ?_ ?_ (by cases dialect <;> rfl)
    · intro other hmem
      obtain rfl := List.mem_singleton.mp hmem
      cases other <;> simp [PageClause.sql]
    · intro before other after hsplit
      obtain ⟨rfl, rfl, rfl⟩ : before = [] ∧ other = clause ∧ after = [] := by
        cases before <;> simp_all
      exact read_page other (.inl rfl)
  rw [List.flatMap_singleton, List.append_nil] at hread
  rw [listOf?, readAll, StateT.run, hread]
  rfl

/-- What stands in front of the columns is read back. -/
theorem listOf?_headText (limit offset : Option UInt64) :
    listOf? dialect (Pagination.headText dialect limit offset) =
      some ((Pagination.head dialect limit offset).map .page) := by
  unfold Pagination.headText Pagination.head
  split
  case h_1 count =>
    have htext : Pagination.text [.top count.toNat] = (PageClause.top count.toNat).sql := by
      simp only [Pagination.text, List.map_cons, List.map_nil, String.join_cons, String.join_nil,
        String.append_empty]
    rw [htext, listOf?_sql]
    rfl
  case h_2 => rfl

end ResultClause

namespace Query

variable {dialect : Dialect} {query : Query} {sql : Sql}

/-- The query with its rows in any order, and with all of them. -/
def unpaged (query : Query) : Query := { query with orderBy := [], limit := none, offset := none }

def selectText (query : Query) : String :=
  "SELECT " ++ (if query.distinct then "DISTINCT " else "")

/-- What stands between the two ends of a query is the same without a sort and a page. -/
theorem exists_body (h : query.render dialect = .ok sql) :
    ∃ body, sql = Sql.text (query.opening dialect) ++ body ++ Sql.text (query.closing dialect) ∧
      query.unpaged.render dialect = .ok (Sql.text query.selectText ++ body ++ Sql.text "") := by
  rw [render_eq] at h
  split at h
  case isTrue => cases h
  case isFalse htables =>
    obtain ⟨columns, hcolumns, h⟩ := bind_eq_ok_iff.mp h
    obtain ⟨target, htarget, h⟩ := bind_eq_ok_iff.mp h
    obtain ⟨wheres, hwheres, h⟩ := bind_eq_ok_iff.mp h
    obtain ⟨having, hhaving, h⟩ := bind_eq_ok_iff.mp h
    have hopening : query.unpaged.opening dialect = query.selectText := by
      cases dialect <;> exact String.append_empty
    have hclosing : query.unpaged.closing dialect = "" := by
      cases dialect <;> rfl
    have hunpaged : query.unpaged.render dialect =
        .ok (query.unpaged.assemble dialect columns target wheres having) := by
      rw [render_eq, if_neg (show ¬query.unpaged.tables.isEmpty from htables)]
      simp only [unpaged]
      rw [hcolumns, htarget, hwheres, hhaving]
      rfl
    refine ⟨(if query.columns.isEmpty then Sql.text "*" else Sql.join ", " columns) ++
      Sql.text (query.route dialect target) ++ conditionClause " WHERE " wheres ++
      Sql.text (query.grouping dialect) ++ conditionClause " HAVING " having, ?_, ?_⟩
    · rw [← Except.ok.inj h, assemble]
      simp only [List.append_assoc]
    · rw [hunpaged, assemble, hopening, hclosing]
      simp only [List.append_assoc]
      rfl

/-- The text `sql` of a query has the clauses `heads` in front of its columns and `tails` at its
end. Between them stands what the text has if the query neither sorts nor cuts its rows. -/
def ReadsAs (dialect : Dialect) (query : Query) (sql : Sql) (heads tails : List ResultClause) :
    Prop :=
  ∃ head body tail, sql = Sql.text (query.selectText ++ head) ++ body ++ Sql.text tail ∧
    query.unpaged.render dialect = .ok (Sql.text query.selectText ++ body ++ Sql.text "") ∧
    ResultClause.listOf? dialect head = some heads ∧ ResultClause.listOf? dialect tail = some tails

theorem readsAs_of_render (h : query.render dialect = .ok sql) :
    query.ReadsAs dialect sql ((Pagination.head dialect query.limit query.offset).map .page)
      (ResultClause.ofClosing dialect query.orderBy
        (Pagination.tail dialect query.limit query.offset (!query.orderBy.isEmpty))) := by
  obtain ⟨body, hsql, hunpaged⟩ := exists_body h
  exact ⟨_, body, _, hsql, hunpaged, ResultClause.listOf?_headText _ _,
    ResultClause.listOf?_closing _ _ Pagination.top_not_mem_tail⟩

end Query

end SqlDialects
