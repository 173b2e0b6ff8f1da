import SqlDialects.Change.Render
import SqlDialects.Proofs.Lexing.Spelling
import SqlDialects.Proofs.Rows.InPlace

/-! The parts of statements that are text in every case: tables, joins, sorts, pages and calls. None
of them holds a placeholder, whatever the names in it are. -/

namespace SqlDialects

section

variable {dialect : Dialect} {R : String → String → Prop}

theorem Comparison.readAlike_sql (comparison : Comparison) :
    ReadAlike dialect R comparison.sql comparison.sql := by
  cases comparison <;> exact .word rfl

theorem Connective.glues_sql (connective : Connective) :
    Glues dialect (" " ++ connective.sql ++ " ") := by
  cases connective <;> exact .around (.word rfl)

namespace TableRef

theorem readAlike_render (table : TableRef) :
    ReadAlike dialect R (table.render dialect) (table.render dialect) := by
  obtain ⟨name, label⟩ := table
  cases label with
  | none => exact Identifier.readAlike_quote dialect R name
  | some label =>
    exact (Identifier.readAlike_quote dialect R name).glue (.of rfl)
      (Identifier.readAlike_quote dialect R label)

theorem readAlike_renderList (tables : List TableRef) :
    ReadAlike dialect R (renderList dialect tables) (renderList dialect tables) := by
  refine ReadAlike.joinSame (.of rfl) fun text hmem => ?_
  obtain ⟨table, _, rfl⟩ := List.mem_map.mp hmem
  exact table.readAlike_render

end TableRef

namespace JoinNode

mutual

theorem readAlike_render : (node : JoinNode) →
    ReadAlike dialect R (node.render dialect) (node.render dialect)
  | columns left comparison right => by
    rw [render]
    exact ((Identifier.readAlike_quote dialect R left).glue (.of rfl)
      comparison.readAlike_sql).glue (.of rfl) (Identifier.readAlike_quote dialect R right)
  | group items => by
    rw [render]
    exact ((readAlike_renderItems items).lead (.of rfl)).trail (.of rfl)

theorem readAlike_renderItems : (items : List (Connective × JoinNode)) →
    ReadAlike dialect R (renderItems dialect true items) (renderItems dialect true items)
  | [] => by
    rw [renderItems]
    exact .empty
  | (connective, node) :: rest => by
    rw [renderItems, if_pos rfl, String.empty_append]
    exact (readAlike_render node).follow (follows_renderItems rest)

/-- Items that others stand before. -/
theorem follows_renderItems : (items : List (Connective × JoinNode)) →
    Follows dialect R (renderItems dialect false items) (renderItems dialect false items)
  | [] => by
    rw [renderItems]
    exact .empty
  | (connective, node) :: rest => by
    rw [renderItems, if_neg Bool.false_ne_true]
    exact (Follows.glue connective.glues_sql (readAlike_render node)).append
      (follows_renderItems rest)

end

end JoinNode

namespace Join

theorem follows_render (join : Join) :
    Follows dialect R (join.render dialect) (join.render dialect) := by
  have hcondition :
      Follows dialect R (join.conditionText dialect) (join.conditionText dialect) := by
    unfold conditionText
    split
    · exact .empty
    · exact .glue (.of rfl) (JoinNode.readAlike_renderItems join.on)
  have hkind : Glues dialect (" " ++ join.kind.sql ++ " ") := by
    cases join.kind <;> exact .around (.word rfl)
  exact (Follows.glue hkind join.table.readAlike_render).append hcondition

theorem follows_renderList (joins : List Join) :
    Follows dialect R (renderList dialect joins) (renderList dialect joins) := by
  refine Follows.join fun text hmem => ?_
  obtain ⟨join, _, rfl⟩ := List.mem_map.mp hmem
  exact join.follows_render

end Join

theorem IntoTarget.follows_text (target : IntoTarget) :
    Follows dialect R (target.text dialect) (target.text dialect) := by
  obtain ⟨table, database⟩ := target
  have hname (name : String) := Identifier.readAlike_quote dialect R name
  cases database with
  | none => exact .glue (.of rfl) (hname table)
  | some database =>
    simp only [text]
    rw [String.append_assoc]
    exact (Follows.glue (.of rfl) (hname database)).append (.glue (.of rfl) (hname table))

/-- What a key sorts by. -/
def SortKey.name : SortKey → String
  | column name _ _ => name
  | isNull name _ => name
  | rank name _ _ => name

theorem SortKey.readAlike_sql {key : SortKey} (h : ReadAlike dialect R key.name key.name) :
    ReadAlike dialect R key.sql key.sql := by
  have hdirection (direction : Direction) :
      ReadAlike dialect R direction.sql direction.sql := by
    cases direction <;> exact .word rfl
  cases key with
  | column name direction nulls =>
    refine (ReadAlike.glue h (.of rfl) (hdirection direction)).follow ?_
    cases nulls with
    | none => exact .empty
    | some placement => cases placement <;> exact .literal (.of rfl)
  | isNull name direction => exact ReadAlike.glue h (.of rfl) (hdirection direction)
  | rank name ofNull ofOther =>
    exact (((ReadAlike.lead (.of rfl) h).glue (.of rfl) (readAlike_nat dialect R ofNull)).glue
      (.of rfl) (readAlike_nat dialect R ofOther)).trail (.of rfl)

theorem OrderItem.name_of_mem_keys {item : OrderItem} {key : SortKey}
    (h : key ∈ item.keys dialect) : key.name = Identifier.quote dialect item.column := by
  unfold keys at h
  split at h <;> simp only [List.mem_cons, List.not_mem_nil, or_false] at h
  case h_5 =>
    subst h
    rfl
  all_goals rcases h with rfl | rfl <;> rfl

theorem Sorting.follows_text (items : List OrderItem) :
    Follows dialect R (text dialect items) (text dialect items) := by
  cases items with
  | nil => exact .empty
  | cons item rest =>
    refine Follows.glue (.of rfl) (ReadAlike.joinSame (.of rfl) fun text hmem => ?_)
    obtain ⟨key, hkey, rfl⟩ := List.mem_map.mp hmem
    obtain ⟨item, _, hkey⟩ := List.mem_flatMap.mp hkey
    refine SortKey.readAlike_sql ?_
    rw [OrderItem.name_of_mem_keys hkey]
    exact Identifier.readAlike_quote dialect R item.column

theorem PageClause.follows_sql {clause : PageClause} (h : ∀ n, clause ≠ .top n) :
    Follows dialect R clause.sql clause.sql := by
  have hcount (n : Nat) := readAlike_nat dialect R n
  cases clause with
  | top n => exact absurd rfl (h n)
  | limit n => exact .glue (.of rfl) (hcount n)
  | unlimited => exact .literal (.of rfl)
  | offset n => exact .glue (.of rfl) (hcount n)
  | sortByConstant => exact .literal (.of rfl)
  | offsetRows n => exact (Follows.glue (.of rfl) (hcount n)).append (.literal (.of rfl))
  | fetchNext n => exact (Follows.glue (.of rfl) (hcount n)).append (.literal (.of rfl))

namespace Pagination

theorem top_not_mem_tail {limit offset : Option UInt64} {ordered : Bool} (n : Nat) :
    .top n ∉ tail dialect limit offset ordered := by
  cases dialect <;> cases limit <;> cases offset <;> cases ordered <;>
    simp [tail, limitOr, plainOffset]

theorem follows_tailText (limit offset : Option UInt64) (ordered : Bool) :
    Follows dialect R (tailText dialect limit offset ordered)
      (tailText dialect limit offset ordered) := by
  refine Follows.join fun text hmem => ?_
  obtain ⟨clause, hclause, rfl⟩ := List.mem_map.mp hmem
  exact PageClause.follows_sql fun n hn => top_not_mem_tail n (hn ▸ hclause)

/-- In front of the columns there is nothing, or a clause that ends in a blank. -/
theorem headText_cases (dialect : Dialect) (limit offset : Option UInt64) :
    headText dialect limit offset = "" ∨
      ∃ n, headText dialect limit offset = (PageClause.top n).sql := by
  unfold headText head
  split
  case h_1 count =>
    refine .inr ⟨count.toNat, ?_⟩
    simp only [text, List.map_cons, List.map_nil, String.join_cons, String.join_nil,
      String.append_empty]
  case h_2 => exact .inl rfl

end Pagination

theorem Query.readAlike_opening (query : Query) :
    ReadAlike dialect R (query.opening dialect) (query.opening dialect) ∧
      EndsApart (query.opening dialect).toList := by
  have hselect : Leads dialect ("SELECT " ++ (if query.distinct then "DISTINCT " else "")) := by
    cases query.distinct with
    | false =>
      have hplain : "SELECT " ++ "" = "SELECT " := by decide
      rw [if_neg Bool.false_ne_true, hplain]
      exact .of rfl
    | true =>
      have hdistinct : "SELECT " ++ "DISTINCT " = "SELECT DISTINCT " := by decide
      rw [if_pos rfl, hdistinct]
      exact .of rfl
  unfold opening
  obtain hnone | ⟨n, htop⟩ := Pagination.headText_cases dialect query.limit query.offset
  · rw [hnone, String.append_empty]
    exact ⟨.of_inert hselect.inert, hselect.endsApart⟩
  · have hblank : Leads dialect ") " := .of rfl
    rw [htop]
    have hends : EndsApart (PageClause.top n).sql.toList := by
      rw [PageClause.sql, String.toList_append]
      exact hblank.endsApart_append _
    rw [String.toList_append]
    refine ⟨.lead hselect (((readAlike_nat dialect R n).lead (.of rfl)).trail (.of rfl)), ?_⟩
    exact hselect.endsApart.append hends

theorem Query.follows_route (query : Query) {target : String}
    (htarget : Follows dialect R target target) :
    Follows dialect R (query.route dialect target) (query.route dialect target) := by
  simp only [route, String.append_assoc]
  exact htarget.append (.glue (.of rfl)
    ((TableRef.readAlike_renderList query.tables).follow (Join.follows_renderList query.joins)))

theorem Query.follows_grouping (query : Query) :
    Follows dialect R (query.grouping dialect) (query.grouping dialect) := by
  unfold grouping
  split
  · exact .empty
  · exact .glue (.of rfl) (Identifier.readAlike_quoteList dialect R query.groupBy)

theorem Query.follows_closing (query : Query) :
    Follows dialect R (query.closing dialect) (query.closing dialect) :=
  (Sorting.follows_text query.orderBy).append (Pagination.follows_tailText _ _ _)

theorem Aggregate.readAlike_callText (function : Aggregate) (distinct : Bool) {arguments : String}
    (h : ReadAlike dialect R arguments arguments) :
    ReadAlike dialect R (function.callText distinct arguments)
      (function.callText distinct arguments) := by
  have hparen : Glues dialect (if distinct then "(DISTINCT " else "(") := by
    cases distinct <;> exact .of rfl
  have hword : ReadAlike dialect R function.sql function.sql := by
    cases function <;> exact .word rfl
  exact (hword.glue hparen h).trail (.of rfl)

theorem Aggregate.readAlike_argumentText (distinct : Bool) (names : List String) :
    ReadAlike dialect R (argumentText dialect distinct (names.map (Identifier.quote dialect)))
      (argumentText dialect distinct (names.map (Identifier.quote dialect))) := by
  have hlist := Identifier.readAlike_quoteList dialect R names
  unfold argumentText
  split
  · exact .word rfl
  split
  · exact (hlist.lead (.of rfl)).trail (.of rfl)
  · exact hlist

theorem ScalarFunction.readAlike_midText {column : String}
    (hcolumn : ReadAlike dialect R column column) (start : Int64) (count : Option Int64) :
    ReadAlike dialect R (midText dialect column start count)
      (midText dialect column start count) := by
  have hnumber (n : Int64) := readAlike_int dialect R n.toInt
  cases count with
  | some count =>
    cases dialect <;>
      exact (((hcolumn.lead (.of rfl)).glue (.of rfl) (hnumber start)).glue (.of rfl)
        (hnumber count)).trail (.of rfl)
  | none =>
    cases dialect with
    | sqlServer =>
      exact (((hcolumn.lead (.of rfl)).glue (.of rfl) (hnumber start)).glue (.of rfl)
        hcolumn).trail (.of rfl)
    | _ =>
      exact ((hcolumn.lead (.of rfl)).glue (.of rfl) (hnumber start)).trail (.of rfl)

end

end SqlDialects
