import SqlDialects.Proofs.Grouping.Rendering
import SqlDialects.Proofs.Grouping.Traces
import SqlDialects.Proofs.Result
import SqlDialects.Proofs.Rows.Changes

/-! The clauses of conditions in a statement, read off its text. The text is taken apart into what
the statement writes around its clauses and joins, and every clause is read by itself. -/

namespace SqlDialects

/-- Whether a clause can be read off this text, and groups without a leaf leave no trace of it
exactly if the items of every group are as `p` has it. -/
def TracelessIff (p : List (Connective × Grouped α) → Bool) (keyword : String)
    (leaves : List (α × List Char)) (items : List (Connective × Grouped α)) (text : String) :
    Prop :=
  ∃ clause, Token.ofClause? keyword leaves text = some clause ∧
    (Token.Traceless clause items ↔ Grouped.everyGroupIn p items)

section

variable {dialect : Dialect}

theorem Spells.eq_nil_iff {tokens : List (Token ConditionNode)} {sql : Sql}
    (h : Spells dialect tokens sql) : sql = [] ↔ tokens = [] := by
  constructor
  · intro hsql
    cases tokens with
    | nil => rfl
    | cons token rest =>
      have hwritten := h.text
      rw [hsql, List.flatMap_cons, eq_comm, List.append_eq_nil_iff] at hwritten
      cases token with
      | atom leaf =>
        have hleaf := (h.leaves leaf List.mem_cons_self).2
        exact absurd hwritten.1 (ConditionNode.ne_nil_of_render hleaf)
      | _ => cases hwritten.1
  · rintro rfl
    exact h.text

/-- The number of values that leaves bind. -/
def ConditionNode.boundBy (dialect : Dialect) (leaves : List ConditionNode) : Nat :=
  (leaves.flatMap fun leaf => (leaf.sql dialect).values).length

theorem Spells.length_values {tokens : List (Token ConditionNode)} {sql : Sql}
    (h : Spells dialect tokens sql) :
    sql.values.length = ConditionNode.boundBy dialect (Token.atoms tokens) := by
  rw [h.text]
  clear h
  induction tokens with
  | nil => rfl
  | cons token rest ih =>
    rw [List.flatMap_cons, Sql.values_append, List.length_append, ih]
    cases token with
    | atom leaf => simp [Token.write, Token.atoms, ConditionNode.boundBy]
    | _ => rw [Token.write_of_isMark rfl]; simp [Sql.values, Token.atoms]

/-- The clause of a tree of conditions. -/
theorem ConditionTree.tracelessIff {items : ConditionTree} {part : Sql} {keyword : String}
    (h : ConditionTree.render dialect items = .ok part) (hkeyword : keyword ≠ "") (next : Nat) :
    TracelessIff Grouped.emptyOrLeafy keyword (ConditionTree.writtenLeaves dialect next items)
      (ConditionNode.groupedItems items) ((conditionClause keyword part).write dialect next) := by
  have hspells := ConditionNode.renderItems_spells dialect items true part h
  have hlaid := hspells.laid next
  rw [Grouped.atoms_tokensOf] at hlaid
  have htext : (conditionClause keyword part).write dialect next =
      if (Grouped.tokensOf true (ConditionNode.groupedItems items)).isEmpty then ""
      else keyword ++ part.write dialect next := by
    have hempty : (Grouped.tokensOf true (ConditionNode.groupedItems items)).isEmpty =
        part.isEmpty := by
      rw [Bool.eq_iff_iff, List.isEmpty_iff, List.isEmpty_iff, hspells.eq_nil_iff]
    rw [hempty]
    cases part <;> rfl
  rw [htext]
  exact ⟨_, hlaid.ofClause?_eq hkeyword, Grouped.traceless_tokensOf_iff _⟩

theorem ConditionTree.length_values {items : ConditionTree} {part : Sql}
    (h : ConditionTree.render dialect items = .ok part) :
    part.values.length =
      ConditionNode.boundBy dialect (Grouped.leavesOf (ConditionNode.groupedItems items)) := by
  rw [(ConditionNode.renderItems_spells dialect items true part h).length_values,
    Grouped.atoms_tokensOf]

end

mutual

theorem JoinNode.spell_allTokens (dialect : Dialect) : (node : JoinNode) →
    JoinNode.spell dialect node.grouped.allTokens = node.render dialect
  | .columns left comparison right => by
    simp [JoinNode.grouped, Grouped.allTokens, JoinNode.spell, Token.write]
  | .group items => by
    simp only [JoinNode.grouped, Grouped.allTokens, JoinNode.render, JoinNode.spell_parens,
      JoinNode.spell_allTokensOf dialect items true]

/-- A join condition is written with all of its groups. -/
theorem JoinNode.spell_allTokensOf (dialect : Dialect) :
    (items : List (Connective × JoinNode)) → (first : Bool) →
    JoinNode.spell dialect (Grouped.allTokensOf first (JoinNode.groupedItems items)) =
      JoinNode.renderItems dialect first items
  | [], _ => by
    simp only [JoinNode.groupedItems, Grouped.allTokensOf, JoinNode.renderItems]
    rfl
  | (connective, node) :: rest, first => by
    simp only [JoinNode.groupedItems, Grouped.allTokensOf, JoinNode.renderItems,
      JoinNode.spell_append, JoinNode.spell_link]
    rw [JoinNode.spell_allTokens dialect node, JoinNode.spell_allTokensOf dialect rest false]

end

namespace Join

/-- The text of a join, with a clause that only a cross join is always without. -/
def WrittenAs (dialect : Dialect) (join : Join) (text : String) : Prop :=
  ∃ clause, text = " " ++ join.kind.sql ++ " " ++ join.table.render dialect ++ clause ∧
    if join.kind = .cross then clause = ""
    else TracelessIff Grouped.anyLeaf " ON " (JoinTree.writtenLeaves dialect join.on)
      (JoinNode.groupedItems join.on) clause

theorem writtenAs_render (dialect : Dialect) (join : Join) :
    join.WrittenAs dialect (join.render dialect) := by
  refine ⟨join.conditionText dialect, rfl, ?_⟩
  by_cases hcross : join.kind = .cross
  · rw [if_pos hcross, conditionText, if_pos (.inl hcross)]
  · rw [if_neg hcross]
    have hlaid := JoinNode.laid dialect
      (Grouped.atoms_allTokensOf (JoinNode.groupedItems join.on) true ▸
        JoinNode.isLeaf_of_mem_leavesOf join.on)
    rw [Grouped.atoms_allTokensOf, JoinNode.spell_allTokensOf] at hlaid
    have htext : join.conditionText dialect =
        if (Grouped.allTokensOf true (JoinNode.groupedItems join.on)).isEmpty then ""
        else " ON " ++ JoinNode.renderItems dialect true join.on := by
      have htokens := Grouped.allTokensOf_ne_nil_iff (JoinNode.groupedItems join.on)
      have hempty : (Grouped.allTokensOf true (JoinNode.groupedItems join.on)).isEmpty =
          join.on.isEmpty := by
        cases hon : join.on with
        | nil => rfl
        | cons item rest =>
          rw [hon] at htokens
          simpa [JoinNode.groupedItems] using htokens
      simp only [conditionText, hcross, false_or, hempty]
    rw [htext]
    exact ⟨_, hlaid.ofClause?_eq (by decide), Grouped.traceless_allTokensOf_iff _⟩

end Join

namespace RowStatement

def joins : RowStatement → List Join
  | .select q => q.joins
  | .delete d => d.query.joins
  | _ => []

def wheres : RowStatement → ConditionTree
  | .select q => q.wheres
  | .update u => u.query.wheres
  | .delete d => d.query.wheres
  | .insert _ => []

def having : RowStatement → ConditionTree
  | .select q => q.having
  | _ => []

/-- The number of values that the clause of `WHERE` binds. -/
def boundByWheres (dialect : Dialect) (s : RowStatement) : Nat :=
  ConditionNode.boundBy dialect (Grouped.leavesOf (ConditionNode.groupedItems s.wheres))

/-- What a statement writes before its clauses that is not the same for all: the columns of a
selection, the assignments of an update, the tables that lose rows, or all of an insertion. -/
def lead (dialect : Dialect) : RowStatement → Except Error Sql
  | .select q =>
    if q.columns.isEmpty then .ok (Sql.text "*")
    else (Projection.renderList dialect q.columns).map (Sql.join ", ")
  | .insert i => i.render dialect
  | .update u => (u.assignments.mapM (Update.renderAssignment dialect)).map (Sql.join ", ")
  | .delete d => .ok (Sql.text (d.targetsInPlace dialect))

/-- The text of a statement around its joins and its clauses of conditions. -/
def around (dialect : Dialect) (lead : String) (joins : List String) (wheres having : String) :
    RowStatement → String
  | .select q =>
    q.opening dialect ++ lead ++ q.into.elim "" (IntoTarget.text dialect) ++ " FROM " ++
      TableRef.renderList dialect q.tables ++ String.join joins ++ wheres ++ q.grouping dialect ++
      having ++ q.closing dialect
  | .insert _ => lead
  | .update u =>
    "UPDATE " ++ TableRef.renderList dialect u.query.tables ++ " SET " ++ lead ++ wheres
  | .delete d =>
    "DELETE " ++ lead ++ "FROM " ++ TableRef.renderList dialect d.query.tables ++
      String.join joins ++ wheres

variable {dialect : Dialect} {sql : Sql}

theorem forall₂_joins (dialect : Dialect) (joins : List Join) :
    List.Forall₂ (Join.WrittenAs dialect) joins (joins.map (Join.render dialect)) := by
  rw [List.forall₂_map_right_iff, List.forall₂_same]
  exact fun join _ => join.writtenAs_render dialect

/-- A statement is its lead, its joins and its clauses, put together. -/
theorem write_eq_around {s : RowStatement} (h : s.render dialect = .ok sql) (next : Nat) :
    ∃ lead wheres having, s.lead dialect = .ok lead ∧
      ConditionTree.render dialect s.wheres = .ok wheres ∧
      ConditionTree.render dialect s.having = .ok having ∧
      sql.write dialect next = s.around dialect (lead.write dialect next)
        (s.joins.map (Join.render dialect))
        ((conditionClause " WHERE " wheres).write dialect (next + lead.values.length))
        ((conditionClause " HAVING " having).write dialect
          (next + lead.values.length + wheres.values.length)) := by
  cases s with
  | select q =>
    simp only [render, Query.render_eq] at h
    split at h
    · cases h
    · obtain ⟨columns, hcolumns, h⟩ := bind_eq_ok_iff.mp h
      obtain ⟨target, htarget, h⟩ := bind_eq_ok_iff.mp h
      obtain ⟨wheres, hwheres, h⟩ := bind_eq_ok_iff.mp h
      obtain ⟨having, hhaving, h⟩ := bind_eq_ok_iff.mp h
      cases h
      have htext := (IntoTarget.renderOption_meets dialect q.into).good_of_eq_ok htarget
      refine ⟨if q.columns.isEmpty then Sql.text "*" else Sql.join ", " columns, wheres, having, ?_,
        hwheres, hhaving, ?_⟩
      · rw [lead, hcolumns]
        cases q.columns.isEmpty <;> rfl
      · simp only [Query.assemble, around, joins, Sql.write_append, Sql.write_text,
          Sql.values_append, Sql.values_text, conditionClause_values, List.nil_append,
          List.append_nil, List.length_append, List.length_nil, Nat.add_zero, Nat.add_assoc,
          Query.route, htext, Join.renderList, String.append_assoc]
  | insert i =>
    refine ⟨sql, [], [], h, rfl, rfl, ?_⟩
    rfl
  | update u =>
    simp only [render, Update.render] at h
    split at h
    · cases h
    split at h
    · cases h
    obtain ⟨assignments, hassignments, h⟩ := bind_eq_ok_iff.mp h
    obtain ⟨wheres, hwheres, h⟩ := bind_eq_ok_iff.mp h
    cases h
    refine ⟨Sql.join ", " assignments, wheres, [], ?_, hwheres, rfl, ?_⟩
    · rw [lead, hassignments]
      rfl
    · simp only [around, Sql.write_append, Sql.write_text, Sql.values_append, Sql.values_text,
        List.nil_append, List.length_nil, Nat.add_zero, String.append_assoc]
  | delete d =>
    cases htables : d.query.tables with
    | nil =>
      simp only [render, Delete.render, htables] at h
      cases h
    | cons table rest =>
      simp only [render, Delete.render_eq htables] at h
      obtain ⟨targets, htargets, h⟩ := bind_eq_ok_iff.mp h
      obtain ⟨wheres, hwheres, h⟩ := bind_eq_ok_iff.mp h
      cases h
      have htext := (Delete.renderTargets_meets htables).good_of_eq_ok htargets
      refine ⟨Sql.text (d.targetsInPlace dialect), wheres, [], rfl, hwheres, rfl, ?_⟩
      simp only [around, joins, Sql.write_append, Sql.write_text, Sql.values_text, List.length_nil,
        Nat.add_zero, htext, Join.renderList, String.append_assoc]

/-- Where groups without a leaf leave no trace. The text of a statement, whatever number its
placeholders start with, is taken apart into its lead, its joins and its clauses of conditions. Each
clause can be read, is there exactly if its tree has a leaf, and has no empty parentheses, exactly
if every group in the tree that has items has a leaf. The same holds of each join that is no cross
join, but there a group without items leaves a trace too. A subquery is a selection whose
placeholders start with the number that is next where it stands. -/
theorem groups_traceless_iff {dialect : Dialect} {s : RowStatement} {sql : Sql}
    (h : s.render dialect = .ok sql) (next : Nat) :
    ∃ (lead : Sql) (joins : List String) (wheres having : String),
      s.lead dialect = .ok lead ∧
      sql.write dialect next = s.around dialect (lead.write dialect next) joins wheres having ∧
      List.Forall₂ (fun join text =>
        ∃ clause, text = " " ++ join.kind.sql ++ " " ++ join.table.render dialect ++ clause ∧
          if join.kind = .cross then clause = ""
          else TracelessIff Grouped.anyLeaf " ON " (JoinTree.writtenLeaves dialect join.on)
            (JoinNode.groupedItems join.on) clause) s.joins joins ∧
      TracelessIff Grouped.emptyOrLeafy " WHERE "
        (ConditionTree.writtenLeaves dialect (next + lead.values.length) s.wheres)
        (ConditionNode.groupedItems s.wheres) wheres ∧
      TracelessIff Grouped.emptyOrLeafy " HAVING "
        (ConditionTree.writtenLeaves dialect (next + lead.values.length + s.boundByWheres dialect)
          s.having)
        (ConditionNode.groupedItems s.having) having := by
  obtain ⟨lead, wheres, having, hlead, hwheres, hhaving, htext⟩ := write_eq_around h next
  refine ⟨lead, _, _, _, hlead, htext, forall₂_joins dialect s.joins,
    ConditionTree.tracelessIff hwheres (by decide) _, ?_⟩
  rw [boundByWheres, ← ConditionTree.length_values hwheres]
  exact ConditionTree.tracelessIff hhaving (by decide) _

/-- A group that holds nothing but an empty group, in a condition, and an empty group in a join
condition: none of them has a leaf, but the keyword and an empty pair of parentheses are written. -/
theorem leafless_groups_leave_traces :
    let nest : ConditionTree := [(.and, .group [(.and, .group [])])]
    let on : JoinTree := [(.and, .group [])]
    (Grouped.anyLeaf (ConditionNode.groupedItems nest) = false ∧
      compile .mysql (.select { tables := [⟨"t", none⟩], wheres := nest }) =
        .ok ⟨"SELECT * FROM t WHERE ()", []⟩) ∧
    Grouped.anyLeaf (JoinNode.groupedItems on) = false ∧
    compile .mysql (.select { tables := [⟨"t", none⟩], joins := [⟨.inner, ⟨"u", none⟩, on⟩] }) =
      .ok ⟨"SELECT * FROM t INNER JOIN u ON ()", []⟩ := by
  refine ⟨⟨rfl, ?_⟩, rfl, ?_⟩ <;> rfl

/-- Groups with items that all have a leaf, one of them behind an empty group. -/
theorem groups_traceless_iff_of_leaves :
    let leaf : ConditionNode := .test ⟨.column "a", .isNull, .nothing⟩
    let tree : ConditionTree := [(.and, .group []), (.or, .group [(.and, .group []), (.or, leaf)])]
    let query : Query := { tables := [⟨"t", none⟩], wheres := tree }
    ∃ joins wheres having clause,
      "SELECT * FROM t WHERE (a IS NULL)" =
        (select query).around .mysql "*" joins wheres having ∧
      Token.ofClause? " WHERE " [(leaf, "a IS NULL".toList)] wheres = some clause ∧
      Token.Traceless clause (ConditionNode.groupedItems tree) := by
  intro leaf tree query
  obtain ⟨sql, hsql, htext⟩ : ∃ sql, (select query).render .mysql = .ok sql ∧
      sql.write .mysql 1 = "SELECT * FROM t WHERE (a IS NULL)" := ⟨_, rfl, by decide⟩
  obtain ⟨lead, joins, wheres, having, hlead, haround, -, ⟨clause, hclause, hiff⟩, -⟩ :=
    groups_traceless_iff hsql 1
  cases hlead
  exact ⟨joins, wheres, having, clause, htext.symm.trans haround, hclause, hiff.mpr rfl⟩

end RowStatement

end SqlDialects
