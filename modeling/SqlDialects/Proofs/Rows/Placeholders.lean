import SqlDialects.Proofs.Lexing.Clauses
import SqlDialects.Proofs.Lexing.Numbering
import SqlDialects.Proofs.Result
import SqlDialects.Proofs.Rows.Changes

/-! The placeholders that are read in the text of a statement. Names are quoted so that no sign in
them counts, and a placeholder always ends where it was meant to, so that a lexer finds those of the
bound values and no others. Operators are the one thing that is written as it is given. -/

namespace SqlDialects

mutual

/-- The operators that are written as they are, from left to right. -/
def Term.operators : Term → List String
  | .column _ | .value _ | .call _ => []
  | .operator token => [token]
  | .group terms => Term.operatorsList terms
  | .subquery query => query.operators

def Term.operatorsList : List Term → List String
  | [] => []
  | term :: rest => term.operators ++ Term.operatorsList rest

def Operand.operators : Operand → List String
  | .column _ => []
  | .expression terms => Term.operatorsList terms

def Comparand.operators : Comparand → List String
  | .subquery query => query.operators
  | _ => []

def Condition.operators : Condition → List String
  | ⟨operand, _, comparand⟩ => operand.operators ++ comparand.operators

def ConditionNode.operators : ConditionNode → List String
  | .test condition => condition.operators
  | .exists _ query => query.operators
  | .group items => ConditionNode.operatorsItems items

def ConditionNode.operatorsItems : List (Connective × ConditionNode) → List String
  | [] => []
  | (_, node) :: rest => node.operators ++ ConditionNode.operatorsItems rest

def Projection.operators : Projection → List String
  | ⟨terms, _⟩ => Term.operatorsList terms

def Projection.operatorsList : List Projection → List String
  | [] => []
  | column :: rest => column.operators ++ Projection.operatorsList rest

def Query.operators : Query → List String
  | ⟨_, columns, _, wheres, _, having, _, _, _, _, _⟩ =>
    Projection.operatorsList columns ++
      (ConditionNode.operatorsItems wheres ++ ConditionNode.operatorsItems having)

end

def Written.operators : Written → List String
  | .value _ => []
  | .expression terms => Term.operatorsList terms

/-- The operators in what a statement writes. -/
def RowStatement.operators : RowStatement → List String
  | .select q => q.operators
  | .insert i => i.rows.flatten.flatMap Written.operators
  | .update u =>
    u.assignments.flatMap (fun assignment => assignment.2.operators) ++
      ConditionNode.operatorsItems u.query.wheres
  | .delete d => ConditionNode.operatorsItems d.query.wheres

/-- Operators without any sign that begins quotes or a placeholder. -/
def OrdinaryOperators (operators : List String) : Prop :=
  ∀ token ∈ operators, ∀ c ∈ token.toList, isOrdinary c

theorem ordinaryOperators_append {first second : List String}
    (h : OrdinaryOperators (first ++ second)) :
    OrdinaryOperators first ∧ OrdinaryOperators second :=
  List.forall_mem_append.mp h

section

variable {dialect : Dialect}

theorem ScalarFunction.numbered_render (function : ScalarFunction) {column : String}
    (hcolumn : Inert dialect column) : Numbered dialect (function.render dialect column) := by
  have hcall {opening : String} (hs : Leads dialect opening) :
      Numbered dialect (Sql.text (opening ++ column ++ ")")) :=
    .text ((hcolumn.lead hs).trail (.of rfl))
  cases function with
  | upper => cases dialect <;> exact hcall (.of rfl)
  | lower => cases dialect <;> exact hcall (.of rfl)
  | mid start count => exact .text (readAlike_midText hcolumn start count)
  | length => cases dialect <;> exact hcall (.of rfl)
  | round decimals =>
    have hdecimals := readAlike_nat dialect (fun _ _ => False) decimals.toNat
    cases dialect <;>
      exact .text (((hcolumn.lead (.of rfl)).glue (.of rfl) hdecimals).trail (.of rfl))
  | format pattern =>
    have hlast {opening : String} (hs : Leads dialect opening) : Numbered dialect
        [.text (opening ++ column ++ ", "), .bind (.string pattern), .text ")"] :=
      .glueText (hcolumn.lead hs) (.of rfl) ((Numbered.bind _).trail (.of rfl))
    cases dialect with
    | sqlite =>
      have hbehind : NumberedBehind .sqlite (Sql.text (", " ++ column ++ ")")) :=
        .text ((Follows.glue (.of rfl) hcolumn).append (.literal (.of rfl)))
      exact ((Numbered.bind _).follow hbehind).lead (.of rfl)
    | _ => exact hlast (.of rfl)
  | now =>
    cases dialect with
    | sqlite => exact .text (.lexed rfl)
    | _ => exact .text (.word rfl)

theorem Call.numbered_render (call : Call) : Yields (Numbered dialect) (call.render dialect) := by
  obtain ⟨function, columns, distinct⟩ := call
  cases function with
  | aggregate function =>
    intro sql h
    obtain ⟨text, htext, h⟩ := bind_eq_ok_iff.mp h
    cases h
    rw [Aggregate.render_eq_ok htext]
    exact .text (function.readAlike_callText distinct
      (Aggregate.readAlike_argumentText distinct columns))
  | scalar function =>
    have hname (name : String) := Identifier.readAlike_quote dialect (fun _ _ => False) name
    cases function with
    | now => exact .ok (ScalarFunction.now.numbered_render .empty)
    | _ =>
      cases columns with
      | nil =>
        rintro _ ⟨⟩
      | cons column rest => exact .ok (ScalarFunction.numbered_render _ (hname column))

namespace Comparand

/-- The right side behind its operand: it stands behind a blank, or there is none. -/
theorem numbered_render {comparand : Comparand} (comparison : Comparison)
    (h : Yields (NumberedBehind dialect) (comparand.renderAlone dialect)) :
    Yields (NumberedBehind dialect) (comparand.render dialect comparison) := by
  by_cases hshape : comparison.shape = .nothing
  · rw [render_of_null hshape]
    exact .ok .nil
  · rw [render_eq hshape]
    split
    · exact h
    · rintro _ ⟨⟩

end Comparand

theorem Condition.numbered_of_sides {operand : Operand} {comparison : Comparison}
    {comparand : Comparand} (hleft : Yields (Numbered dialect) (operand.render dialect))
    (hright : Yields (NumberedBehind dialect) (comparand.renderAlone dialect)) :
    Yields (Numbered dialect) (render dialect ⟨operand, comparison, comparand⟩) := by
  by_cases hempty : comparand = .list [] ∧ (comparison = .isIn ∨ comparison = .notIn)
  · obtain ⟨rfl, rfl | rfl⟩ := hempty <;> exact .ok (.text (.word rfl))
  · have hword : NumberedBehind dialect (Sql.text (" " ++ comparison.sql)) :=
      .text (.glue (.of rfl) comparison.readAlike_sql)
    rw [render_of_operand hempty]
    exact hleft.bind fun left hl => (Comparand.numbered_render comparison hright).map
      fun right hr => hl.follow (hword.append hr)

namespace ConditionNode

/-- Items of a condition; `first` says that none stands before them. -/
def ItemsNumbered (dialect : Dialect) (first : Bool) (sql : Sql) : Prop :=
  if first then Numbered dialect sql else NumberedBehind dialect sql

theorem numbered_items_cons {connective : Connective} {node : ConditionNode}
    {rest : List (Connective × ConditionNode)} (first : Bool)
    (hnode : Yields (Numbered dialect) (node.render dialect))
    (hrest : ∀ first, Yields (ItemsNumbered dialect first) (renderItems dialect first rest)) :
    Yields (ItemsNumbered dialect first)
      (renderItems dialect first ((connective, node) :: rest)) := by
  by_cases hempty : node = .group []
  · subst hempty
    rw [renderItems]
    exact hrest first
  · rw [renderItems_cons hempty]
    refine hnode.bind fun part hpart => (hrest false).map fun more hmore => ?_
    have hmore : NumberedBehind dialect more := hmore
    cases first with
    | true => exact hpart.follow hmore
    | false => exact (NumberedBehind.glue connective.glues_sql hpart).append hmore

end ConditionNode

theorem IntoTarget.follows_renderOption (into : Option IntoTarget) :
    Yields (fun text => Follows dialect (fun _ _ => False) text text)
      (renderOption dialect into) := by
  intro text h
  rw [(renderOption_meets dialect into).good_of_eq_ok h]
  cases into with
  | none => exact .empty
  | some target => exact target.follows_text

theorem Query.numbered_assemble {query : Query} {columns : List Sql} {target : String}
    {wheres having : Sql} (hcolumns : ∀ column ∈ columns, Numbered dialect column)
    (htarget : Follows dialect (fun _ _ => False) target target)
    (hwheres : Numbered dialect wheres) (hhaving : Numbered dialect having) :
    Numbered dialect (query.assemble dialect columns target wheres having) := by
  obtain ⟨hopening, hends⟩ : Inert dialect (query.opening dialect) ∧
      EndsApart (query.opening dialect).toList := query.readAlike_opening
  have hlist : Numbered dialect
      (if query.columns.isEmpty then Sql.text "*" else Sql.join ", " columns) := by
    split
    · exact .text (.word rfl)
    · exact .join (.of rfl) hcolumns
  have hhead : Numbered dialect (Sql.text (query.opening dialect) ++
      (if query.columns.isEmpty then Sql.text "*" else Sql.join ", " columns)) :=
    (Numbered.text hopening).append hlist fun _ _ => .inl (by rwa [Sql.write_text])
  exact ((((hhead.follow (.text (query.follows_route htarget))).follow
    (.conditionClause (.of rfl) hwheres)).follow (.text query.follows_grouping)).follow
    (.conditionClause (.of rfl) hhaving)).follow (.text query.follows_closing)

theorem Query.numbered_of_clauses {query : Query}
    (hcolumns : Yields (fun columns => ∀ column ∈ columns, Numbered dialect column)
      (Projection.renderList dialect query.columns))
    (hwheres : Yields (Numbered dialect) (ConditionNode.renderItems dialect true query.wheres))
    (hhaving : Yields (Numbered dialect) (ConditionNode.renderItems dialect true query.having)) :
    Yields (Numbered dialect) (query.render dialect) := by
  rw [render_eq]
  split
  · rintro _ ⟨⟩
  · exact hcolumns.bind fun columns hc =>
      (IntoTarget.follows_renderOption query.into).bind fun target ht =>
      hwheres.bind fun wheres hw => hhaving.map fun having hh =>
      numbered_assemble hc ht hw hh

end

-- The renderers, along the syntax.
mutual

theorem Term.numbered (dialect : Dialect) : (term : Term) → OrdinaryOperators term.operators →
    Yields (Numbered dialect) (term.render dialect)
  | .column name, _ => by
    rw [Term.render]
    exact .ok (.text (Identifier.readAlike_quote dialect _ name))
  | .value v, _ => by
    rw [Term.render]
    exact .ok (.bind v)
  | .operator token, h => by
    rw [Term.operators] at h
    rw [Term.render]
    exact .ok (.text (.ordinary (h token List.mem_cons_self)))
  | .call call, _ => by
    rw [Term.render]
    exact call.numbered_render
  | .group terms, h => by
    rw [Term.operators] at h
    rw [Term.render]
    exact (Term.numberedList dialect terms h).map fun parts hp =>
      (Numbered.join (.of rfl) hp).parens
  | .subquery query, h => by
    rw [Term.operators] at h
    rw [Term.render]
    exact (Query.numbered dialect query h).map fun inner hi => hi.parens

theorem Term.numberedList (dialect : Dialect) : (terms : List Term) →
    OrdinaryOperators (Term.operatorsList terms) →
    Yields (fun parts => ∀ part ∈ parts, Numbered dialect part) (Term.renderList dialect terms)
  | [], _ => by
    rw [Term.renderList]
    exact .ok fun _ h => absurd h List.not_mem_nil
  | term :: rest, h => by
    rw [Term.operatorsList] at h
    obtain ⟨hterm, hrest⟩ := ordinaryOperators_append h
    rw [Term.renderList]
    exact (Term.numbered dialect term hterm).bind fun sql hs =>
      (Term.numberedList dialect rest hrest).map fun more hm =>
        List.forall_mem_cons.mpr ⟨hs, hm⟩

theorem Operand.numbered (dialect : Dialect) : (operand : Operand) →
    OrdinaryOperators operand.operators → Yields (Numbered dialect) (operand.render dialect)
  | .column name, _ => by
    rw [Operand.render]
    exact .ok (.text (Identifier.readAlike_quote dialect _ name))
  | .expression terms, h => by
    rw [Operand.operators] at h
    rw [Operand.render]
    exact (Term.numberedList dialect terms h).map fun parts hp => Numbered.join (.of rfl) hp

theorem Comparand.numbered (dialect : Dialect) : (comparand : Comparand) →
    OrdinaryOperators comparand.operators →
    Yields (NumberedBehind dialect) (comparand.renderAlone dialect)
  | .nothing, _ => .ok .nil
  | .value v, _ => .ok (.glue (.of rfl) (.bind v))
  | .column name, _ =>
    .ok (.text (.glue (.of rfl) (Identifier.readAlike_quote dialect _ name)))
  | .list values, _ => by
    refine .ok (.glue (.of rfl) (Numbered.parens (.join (.of rfl) fun part hpart => ?_)))
    obtain ⟨v, _, rfl⟩ := List.mem_map.mp hpart
    exact .bind v
  | .range low high, _ => .ok (.glue (.of rfl) ((Numbered.bind low).glue (.of rfl) (.bind high)))
  | .subquery query, h => by
    rw [Comparand.operators] at h
    exact (Query.numbered dialect query h).map fun inner hi => .glue (.of rfl) hi.parens

theorem Condition.numbered (dialect : Dialect) : (condition : Condition) →
    OrdinaryOperators condition.operators → Yields (Numbered dialect) (condition.render dialect)
  | ⟨operand, _, comparand⟩, h => by
    rw [Condition.operators] at h
    obtain ⟨hleft, hright⟩ := ordinaryOperators_append h
    exact Condition.numbered_of_sides (Operand.numbered dialect operand hleft)
      (Comparand.numbered dialect comparand hright)

theorem ConditionNode.numbered (dialect : Dialect) : (node : ConditionNode) →
    OrdinaryOperators node.operators → Yields (Numbered dialect) (node.render dialect)
  | .test condition, h => by
    rw [ConditionNode.operators] at h
    rw [ConditionNode.render]
    exact Condition.numbered dialect condition h
  | .exists negated query, h => by
    rw [ConditionNode.operators] at h
    rw [ConditionNode.render]
    have hword : Leads dialect (if negated then "NOT EXISTS " else "EXISTS ") := by
      cases negated <;> exact .of rfl
    exact (Query.numbered dialect query h).map fun inner hi => hi.parens.lead hword
  | .group items, h => by
    rw [ConditionNode.operators] at h
    rw [ConditionNode.render]
    exact (ConditionNode.numberedItems dialect items h true).map fun inner (hi : Numbered _ _) =>
      hi.parens

theorem ConditionNode.numberedItems (dialect : Dialect) :
    (items : List (Connective × ConditionNode)) →
    OrdinaryOperators (ConditionNode.operatorsItems items) → (first : Bool) →
    Yields (ConditionNode.ItemsNumbered dialect first)
      (ConditionNode.renderItems dialect first items)
  | [], _, first => by
    rw [ConditionNode.renderItems]
    cases first with
    | true => exact .ok Numbered.nil
    | false => exact .ok NumberedBehind.nil
  | (_, node) :: rest, h, first => by
    rw [ConditionNode.operatorsItems] at h
    obtain ⟨hnode, hrest⟩ := ordinaryOperators_append h
    exact ConditionNode.numbered_items_cons first (ConditionNode.numbered dialect node hnode)
      (ConditionNode.numberedItems dialect rest hrest)

theorem Projection.numbered (dialect : Dialect) : (column : Projection) →
    OrdinaryOperators column.operators → Yields (Numbered dialect) (column.render dialect)
  | ⟨terms, none⟩, h => by
    rw [Projection.operators] at h
    rw [Projection.render]
    exact (Term.numberedList dialect terms h).map fun parts hp => Numbered.join (.of rfl) hp
  | ⟨terms, some label⟩, h => by
    rw [Projection.operators] at h
    rw [Projection.render]
    have hlabel : NumberedBehind dialect
        (Sql.text (" AS " ++ Identifier.quote dialect label)) :=
      .text (.glue (.of rfl) (Identifier.readAlike_quote dialect _ label))
    exact (Term.numberedList dialect terms h).map fun parts hp =>
      (Numbered.join (.of rfl) hp).follow hlabel

theorem Projection.numberedList (dialect : Dialect) : (columns : List Projection) →
    OrdinaryOperators (Projection.operatorsList columns) →
    Yields (fun parts => ∀ part ∈ parts, Numbered dialect part)
      (Projection.renderList dialect columns)
  | [], _ => by
    rw [Projection.renderList]
    exact .ok fun _ h => absurd h List.not_mem_nil
  | column :: rest, h => by
    rw [Projection.operatorsList] at h
    obtain ⟨hcolumn, hrest⟩ := ordinaryOperators_append h
    rw [Projection.renderList]
    exact (Projection.numbered dialect column hcolumn).bind fun sql hs =>
      (Projection.numberedList dialect rest hrest).map fun more hm =>
        List.forall_mem_cons.mpr ⟨hs, hm⟩

theorem Query.numbered (dialect : Dialect) : (query : Query) →
    OrdinaryOperators query.operators → Yields (Numbered dialect) (query.render dialect)
  | ⟨_, columns, _, wheres, _, having, _, _, _, _, _⟩, h => by
    rw [Query.operators] at h
    obtain ⟨hcolumns, h⟩ := ordinaryOperators_append h
    obtain ⟨hwheres, hhaving⟩ := ordinaryOperators_append h
    exact Query.numbered_of_clauses (Projection.numberedList dialect columns hcolumns)
      (ConditionNode.numberedItems dialect wheres hwheres true)
      (ConditionNode.numberedItems dialect having hhaving true)

end

section

variable {dialect : Dialect}

theorem Written.numbered {written : Written} (h : OrdinaryOperators written.operators) :
    Yields (Numbered dialect) (written.render dialect) := by
  cases written with
  | value v => exact .ok (.bind v)
  | expression terms =>
    exact (Term.numberedList dialect terms h).map fun parts hp => Numbered.join (.of rfl) hp

theorem Insert.numbered {insert : Insert}
    (h : OrdinaryOperators (RowStatement.insert insert).operators) :
    Yields (Numbered dialect) (insert.render dialect) := by
  have hrow (row : List Written) (hmem : row ∈ insert.rows) :
      Yields (Numbered dialect) (renderRow dialect row) := by
    have hwritten : ∀ written ∈ row, Yields (Numbered dialect) (written.render dialect) :=
      fun written hw => Written.numbered fun token htoken =>
        h token (List.mem_flatMap.mpr ⟨written, List.mem_flatten.mpr ⟨row, hmem, hw⟩, htoken⟩)
    exact (Yields.mapM hwritten).map fun values hv => (Numbered.join (.of rfl) hv).parens
  unfold render
  split
  · rintro _ ⟨⟩
  · have hopening : Inert dialect ("INSERT INTO " ++ Identifier.quote dialect insert.table ++
        " (" ++ Identifier.quoteList dialect insert.columns) :=
      ((Identifier.readAlike_quote dialect _ insert.table).lead (.of rfl)).glue (.of rfl)
        (Identifier.readAlike_quoteList dialect _ insert.columns)
    exact (Yields.mapM hrow).map fun rows hr => .glueText hopening (.of rfl)
      (.join (.of rfl) hr)

theorem Update.numbered {update : Update}
    (h : OrdinaryOperators (RowStatement.update update).operators) :
    Yields (Numbered dialect) (update.render dialect) := by
  obtain ⟨hassignments, hwheres⟩ := ordinaryOperators_append h
  have hassignment (assignment : String × Written) (hmem : assignment ∈ update.assignments) :
      Yields (Numbered dialect) (renderAssignment dialect assignment) := by
    have hwritten : OrdinaryOperators assignment.2.operators := fun token htoken =>
      hassignments token (List.mem_flatMap.mpr ⟨assignment, hmem, htoken⟩)
    exact (Written.numbered hwritten).map fun written hw =>
      .glueText (Identifier.readAlike_quote dialect _ assignment.1) (.of rfl) hw
  have hopening : Inert dialect
      ("UPDATE " ++ TableRef.renderList dialect update.query.tables) :=
    (TableRef.readAlike_renderList update.query.tables).lead (.of rfl)
  unfold render
  cases update.query.tables.isEmpty with
  | true => rintro _ ⟨⟩
  | false =>
    cases update.assignments.isEmpty with
    | true => rintro _ ⟨⟩
    | false =>
      exact (Yields.mapM hassignment).bind fun assignments ha =>
        (ConditionNode.numberedItems dialect update.query.wheres hwheres true).map fun wheres hw =>
        (Numbered.glueText hopening (.of rfl) (.join (.of rfl) ha)).follow
          (.conditionClause (.of rfl) hw)

namespace Delete

theorem yields_renderTargets (delete : Delete) (table : TableRef) :
    Yields (fun targets => targets = "" ∨
      ∃ names, targets = Identifier.quoteList dialect names ++ " ")
      (renderTargets dialect delete table) := by
  unfold renderTargets
  split
  · intro targets h
    obtain ⟨text, htext, h⟩ := bind_eq_ok_iff.mp h
    cases h
    exact .inr ⟨_, by rw [targetText_eq_ok htext]⟩
  · exact .ok (.inl rfl)

theorem numbered {delete : Delete}
    (h : OrdinaryOperators (RowStatement.delete delete).operators) :
    Yields (Numbered dialect) (delete.render dialect) := by
  cases htables : delete.query.tables with
  | nil =>
    unfold render
    rw [htables]
    rintro _ ⟨⟩
  | cons table rest =>
    rw [render_eq htables]
    refine (yields_renderTargets delete table).bind fun targets ht => ?_
    refine (ConditionNode.numberedItems dialect delete.query.wheres h true).map fun wheres hw => ?_
    refine Numbered.follow (.text ?_) (.conditionClause (.of rfl) hw)
    refine ReadAlike.follow ?_ (Join.follows_renderList delete.query.joins)
    have hsource : Inert dialect (TableRef.renderList dialect delete.query.tables) :=
      TableRef.readAlike_renderList delete.query.tables
    rcases ht with rfl | ⟨names, rfl⟩
    · have hjoined : "DELETE " ++ "" ++ "FROM " = "DELETE FROM " := by decide
      rw [hjoined]
      exact hsource.lead (.of rfl)
    · have hjoined : "DELETE " ++ (Identifier.quoteList dialect names ++ " ") ++ "FROM " =
          "DELETE " ++ Identifier.quoteList dialect names ++ " FROM " := by
        have hfrom : " FROM " = " " ++ "FROM " := by decide
        simp only [hfrom, String.append_assoc]
      rw [hjoined]
      exact ((Identifier.readAlike_quoteList dialect _ names).lead (.of rfl)).glue (.of rfl)
        hsource

end Delete

theorem RowStatement.numbered {s : RowStatement} (h : OrdinaryOperators s.operators) :
    Yields (Numbered dialect) (s.render dialect) := by
  cases s with
  | select q => exact Query.numbered dialect q h
  | insert i => exact Insert.numbered h
  | update u => exact Update.numbered h
  | delete d => exact Delete.numbered h

end

/-- A lexer finds as many placeholders in a compiled statement as it has parameters, with the
numbers from one on where they show numbers, however names are spelled, as long as no operator has a
sign in it that begins quotes or a placeholder. -/
theorem RowStatement.placeholders_of_compile {s : RowStatement} {dialect : Dialect}
    {compiled : Compiled} (hoperators : OrdinaryOperators s.operators)
    (h : s.compile dialect = .ok compiled) :
    placeholders? dialect compiled.sql =
      some ((List.range' 1 compiled.params.length).map dialect.shownNumber) := by
  rw [s.compile_eq_map_render dialect] at h
  cases hsql : s.render dialect with
  | error e =>
    rw [hsql] at h
    cases h
  | ok sql =>
    rw [hsql] at h
    cases h
    exact RowStatement.numbered hoperators sql hsql 1

/-- Names full of signs, an operator and a subquery: two values are bound, and two placeholders are
read. -/
theorem RowStatement.placeholders_of_compile_of_signs :
    let inner : Query :=
      { tables := [⟨"u?", some "@p9"⟩]
        columns := [⟨[.column "$7"], none⟩]
        wheres := [(.and, .test ⟨.column "it's", .eq, .value (.string "$3")⟩)] }
    let s : RowStatement := .select
      { tables := [⟨"a]b.c\"d", none⟩]
        columns := [⟨[.column "n", .operator "+", .value (.int 1)], some "?"⟩]
        wheres := [(.and, .test ⟨.column "id", .isIn, .subquery inner⟩)] }
    OrdinaryOperators s.operators ∧
    ∃ compiled, s.compile .sqlServer = .ok compiled ∧
      compiled.params = [.int 1, .string "$3"] ∧
      placeholders? .sqlServer compiled.sql = some [some 1, some 2] := by
  intro inner s
  have hoperators : OrdinaryOperators s.operators := by
    have hoperators : s.operators = ["+"] := rfl
    have hplus : "+".toList = ['+'] := by decide
    intro operator hmem c hc
    rw [hoperators] at hmem
    rw [List.mem_singleton.mp hmem, hplus] at hc
    rw [List.mem_singleton.mp hc]
    decide
  obtain ⟨compiled, hok, hparams⟩ : ∃ compiled, s.compile .sqlServer = .ok compiled ∧
      compiled.params = [.int 1, .string "$3"] := ⟨_, rfl, rfl⟩
  refine ⟨hoperators, compiled, hok, hparams, ?_⟩
  rw [placeholders_of_compile hoperators hok, hparams]
  rfl

end SqlDialects
