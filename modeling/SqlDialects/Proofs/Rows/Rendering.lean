import SqlDialects.Proofs.Rows.InPlace
import SqlDialects.Proofs.Rows.Problem
import SqlDialects.Proofs.Sql.Template

/-! What every renderer does, one lemma for each: it takes the walk of its part, binds the values on
it in order, and puts them where the text with the values in place has them. -/

namespace SqlDialects

/-- SQL that binds `values`, and is `text` when they are spelled in their places. -/
structure Writes (values : List Value) (text : (Value → String) → String) (sql : Sql) : Prop where
  values_eq : sql.values = values
  spell_eq : ∀ ofValue, sql.spell ofValue = text ofValue

/-- The same of several pieces of SQL. -/
structure WritesList (values : List Value) (texts : (Value → String) → List String)
    (parts : List Sql) : Prop where
  values_eq : parts.flatMap Sql.values = values
  spell_eq : ∀ ofValue, parts.map (Sql.spell ofValue) = texts ofValue

/-- A rendering takes `walk`, and with no problem on it, writes the values of the walk as `text`
has them. -/
def Renders (dialect : Dialect) (walk : List Visit) (text : (Value → String) → String)
    (result : Except Error Sql) : Prop :=
  Meets dialect walk (Writes (boundValues walk) text) result

/-- The same of a rendering in several pieces. -/
def RendersList (dialect : Dialect) (walk : List Visit) (texts : (Value → String) → List String)
    (result : Except Error (List Sql)) : Prop :=
  Meets dialect walk (WritesList (boundValues walk) texts) result

namespace Writes

variable {first second values : List Value} {sql more : Sql} {text : (Value → String) → String}

theorem literal (s : String) : Writes [] (fun _ => s) (Sql.text s) :=
  ⟨rfl, fun ofValue => Sql.spell_text ofValue s⟩

theorem nil : Writes [] (fun _ => "") [] := ⟨rfl, fun _ => rfl⟩

theorem append {last : (Value → String) → String} (h : Writes first text sql)
    (hmore : Writes second last more) :
    Writes (first ++ second) (fun ofValue => text ofValue ++ last ofValue) (sql ++ more) :=
  ⟨by rw [Sql.values_append, h.values_eq, hmore.values_eq],
    fun ofValue => by rw [Sql.spell_append, h.spell_eq, hmore.spell_eq]⟩

theorem cons (s : String) (h : Writes values text sql) :
    Writes values (fun ofValue => s ++ text ofValue) (.text s :: sql) :=
  (literal s).append h

theorem parens (h : Writes values text sql) :
    Writes values (fun ofValue => inParens (text ofValue)) sql.parens :=
  ⟨by rw [Sql.values_parens, h.values_eq],
    fun ofValue => by rw [Sql.spell_parens, h.spell_eq, inParens]⟩

end Writes

namespace WritesList

variable {first second values : List Value} {sql : Sql} {parts : List Sql}
  {text : (Value → String) → String} {texts : (Value → String) → List String}

theorem nil : WritesList [] (fun _ => []) [] := ⟨rfl, fun _ => rfl⟩

theorem cons (h : Writes first text sql) (hparts : WritesList second texts parts) :
    WritesList (first ++ second) (fun ofValue => text ofValue :: texts ofValue) (sql :: parts) :=
  ⟨by rw [List.flatMap_cons, h.values_eq, hparts.values_eq],
    fun ofValue => by rw [List.map_cons, h.spell_eq, hparts.spell_eq]⟩

theorem join (h : WritesList values texts parts) (separator : String) :
    Writes values (fun ofValue => Text.join separator (texts ofValue)) (Sql.join separator parts) :=
  ⟨by rw [Sql.values_join, h.values_eq], fun ofValue => by rw [Sql.spell_join, h.spell_eq]⟩

theorem binds (values : List Value) :
    WritesList values (fun ofValue => values.map ofValue)
      (values.map fun v => [Fragment.bind v]) := by
  constructor
  · simp [List.flatMap_map]
  · intro ofValue
    simp

end WritesList

namespace Renders

variable {dialect : Dialect} {walk : List Visit} {text : (Value → String) → String}
  {x : Except Error Sql}

theorem plain (s : String) : Renders dialect [] (fun _ => s) (.ok (Sql.text s)) :=
  Meets.ok (Writes.literal s)

end Renders

theorem ScalarFunction.render_writes (dialect : Dialect) (function : ScalarFunction)
    (column : String) :
    Writes (Function.scalar function).patterns
      (fun ofValue => function.inPlace dialect ofValue column)
      (function.render dialect column) := by
  cases function <;> cases dialect <;>
    exact ⟨rfl, fun ofValue => by simp [render, inPlace, String.append_assoc]⟩

theorem Aggregate.render_eq_ok {dialect : Dialect} {function : Aggregate} {distinct : Bool}
    {columns : List String} {text : String}
    (h : function.render dialect distinct columns = .ok text) :
    text = function.callText distinct (argumentText dialect distinct columns) := by
  simp only [render] at h
  split at h
  · rename_i hmany
    have hne : columns.isEmpty = false := by
      cases columns with
      | nil => simp at hmany
      | cons _ _ => rfl
    simp only [Bool.and_eq_true] at hmany
    cases dialect <;> simp_all [argumentText, inParens]
  · rename_i hfew
    simp only [Except.ok.injEq] at h
    simp [argumentText, hfew, ← h]

namespace Call

theorem writes_of_render {dialect : Dialect} {call : Call} {sql : Sql}
    (h : call.render dialect = .ok sql) :
    Writes call.function.patterns (fun ofValue => call.inPlace dialect ofValue) sql := by
  obtain ⟨function, columns, distinct⟩ := call
  cases function with
  | aggregate function =>
    cases hr : function.render dialect distinct (columns.map (Identifier.quote dialect)) with
    | error e => simp only [render, hr] at h; cases h
    | ok text =>
      simp only [render, hr] at h
      cases h
      rw [Aggregate.render_eq_ok hr]
      exact Writes.literal _
  | scalar function =>
    cases function with
    | now =>
      cases h
      exact ScalarFunction.render_writes dialect .now ""
    | _ =>
      cases columns with
      | nil => cases h
      | cons column rest =>
        cases h
        exact ScalarFunction.render_writes dialect _ (Identifier.quote dialect column)

theorem renders (dialect : Dialect) (call : Call) :
    Renders dialect call.walk (fun ofValue => call.inPlace dialect ofValue)
      (call.render dialect) := by
  have hbound : boundValues call.walk = call.function.patterns :=
    boundValues_map_value call.function.patterns
  unfold Renders
  rw [hbound]
  exact Meets.check call.function.patterns rfl fun _ h => writes_of_render h

end Call

theorem Comparison.shape_eq_nothing_iff (comparison : Comparison) :
    comparison.shape = .nothing ↔ comparison = .isNull ∨ comparison = .isNotNull := by
  cases comparison <;> decide

namespace Comparand

variable {dialect : Dialect} {comparison : Comparison}

theorem render_of_null (h : comparison.shape = .nothing) (comparand : Comparand) :
    comparand.render dialect comparison = .ok [] := by
  cases comparand <;> simp only [render, h]

/-- The right side by itself, after any comparison that takes it. -/
def renderAlone (dialect : Dialect) : Comparand → Except Error Sql
  | .nothing => .ok []
  | .value v => .ok [.text " ", .bind v]
  | .column name => .ok (.text (" " ++ Identifier.quote dialect name))
  | .list values => .ok (.text " " :: Sql.parens (Sql.join ", " (values.map fun v => [.bind v])))
  | .range low high => .ok [.text " ", .bind low, .text " AND ", .bind high]
  | .subquery query => do
    let inner ← query.render dialect
    return Fragment.text " " :: Sql.parens inner

theorem render_eq (h : comparison.shape ≠ .nothing) (comparand : Comparand) :
    comparand.render dialect comparison =
      if comparison.takes comparand then comparand.renderAlone dialect
      else .error (.invalid (.badComparand comparison comparand)) := by
  cases comparison <;> cases comparand <;> first | rfl | exact absurd rfl h

end Comparand

/-- A condition is written left side first. -/
theorem Condition.renders_of_sides {dialect : Dialect} {operand : Operand} {comparison : Comparison}
    {comparand : Comparand}
    (hleft : Renders dialect operand.walk (fun ofValue => operand.inPlace dialect ofValue)
      (operand.render dialect))
    (hright : Renders dialect comparand.walk (fun ofValue => comparand.inPlace dialect ofValue)
      (comparand.renderAlone dialect)) :
    Renders dialect (walk ⟨operand, comparison, comparand⟩)
      (fun ofValue => inPlace dialect ofValue ⟨operand, comparison, comparand⟩)
      (render dialect ⟨operand, comparison, comparand⟩) := by
  by_cases hempty : comparand = .list [] ∧ (comparison = .isIn ∨ comparison = .notIn)
  · obtain ⟨rfl, rfl | rfl⟩ := hempty
    · exact Renders.plain "1 = 0"
    · exact Renders.plain "1 = 1"
  rw [render_of_operand hempty]
  by_cases hnull : comparison = .isNull ∨ comparison = .isNotNull
  · -- The right side is not looked at: the walk ends with the comparison.
    have hshape := (Comparison.shape_eq_nothing_iff comparison).mpr hnull
    have htakes : comparison.takes comparand = true := by
      rcases hnull with rfl | rfl <;> rfl
    simp only [Renders, walk_of_null hnull, inPlace_of_null dialect _ hnull, boundValues_append,
      Comparand.render_of_null hshape]
    refine Meets.bind hleft fun left h => ?_
    exact Meets.pass (by simp [Visit.problem?, htakes]) (Meets.ok (h.append (Writes.literal _)))
  · have hshape : comparison.shape ≠ .nothing := fun h =>
      hnull ((Comparison.shape_eq_nothing_iff comparison).mp h)
    simp only [Renders, walk_of_operand hempty hnull, inPlace_of_operand dialect _ hempty hnull,
      boundValues_append, Comparand.render_eq hshape]
    refine Meets.bind hleft fun left h => ?_
    cases htakes : comparison.takes comparand with
    | false => exact Meets.stop (by simp [Visit.problem?, htakes])
    | true =>
      refine Meets.pass (by simp [Visit.problem?, htakes]) ?_
      exact Meets.map hright fun right hr => h.append (hr.cons _)

theorem ConditionNode.rendersItems_cons {dialect : Dialect} {first : Bool} {connective : Connective}
    {node : ConditionNode} {rest : List (Connective × ConditionNode)}
    (hnode : Renders dialect node.walk (fun ofValue => node.inPlace dialect ofValue)
      (node.render dialect))
    (hrest : ∀ first, Renders dialect (walkItems rest)
      (fun ofValue => inPlaceItems dialect ofValue first rest) (renderItems dialect first rest)) :
    Renders dialect (walkItems ((connective, node) :: rest))
      (fun ofValue => inPlaceItems dialect ofValue first ((connective, node) :: rest))
      (renderItems dialect first ((connective, node) :: rest)) := by
  by_cases hempty : node = .group []
  · subst hempty
    simp only [walkItems, walk, inPlaceItems, renderItems, List.nil_append]
    exact hrest first
  · simp only [walkItems, inPlaceItems_cons dialect _ hempty, renderItems_cons hempty, Renders,
      boundValues_append]
    refine Meets.bind hnode fun part h => Meets.map (hrest false) fun more hmore => ?_
    have hlink : Writes [] (fun _ => if first then "" else " " ++ connective.sql ++ " ")
        (if first then [] else Sql.text (" " ++ connective.sql ++ " ")) := by
      cases first
      · exact Writes.literal _
      · exact Writes.nil
    exact (hlink.append h).append hmore

/-- An item that is no group without items leaves a text. -/
theorem ConditionNode.exists_text_of_render {dialect : Dialect} {node : ConditionNode} {sql : Sql}
    (h : node.render dialect = .ok sql) : ∃ s, Fragment.text s ∈ sql ∧ s ≠ "" := by
  cases node with
  | test condition =>
    simp only [render] at h
    unfold Condition.render at h
    split at h
    · cases h
      exact ⟨"1 = 0", List.mem_singleton_self _, by decide⟩
    · cases h
      exact ⟨"1 = 1", List.mem_singleton_self _, by decide⟩
    · rename_i comparison _ _ _
      obtain ⟨left, _, h⟩ := bind_eq_ok_iff.mp h
      obtain ⟨right, _, h⟩ := bind_eq_ok_iff.mp h
      cases h
      exact ⟨" " ++ comparison.sql, by simp, by cases comparison <;> decide⟩
  | «exists» negated query =>
    simp only [render] at h
    obtain ⟨inner, _, h⟩ := bind_eq_ok_iff.mp h
    cases h
    exact ⟨_, List.mem_cons_self, by cases negated <;> decide⟩
  | group items =>
    simp only [render] at h
    obtain ⟨inner, _, h⟩ := bind_eq_ok_iff.mp h
    cases h
    exact ⟨"(", List.mem_cons_self, by decide⟩

theorem ConditionNode.ne_nil_of_render {dialect : Dialect} {node : ConditionNode} {sql : Sql}
    (h : node.render dialect = .ok sql) : sql ≠ [] := by
  obtain ⟨s, hmem, -⟩ := exists_text_of_render h
  exact List.ne_nil_of_mem hmem

theorem ConditionNode.isEmpty_of_renderItems {dialect : Dialect} {first : Bool}
    {items : List (Connective × ConditionNode)} {sql : Sql}
    (h : renderItems dialect first items = .ok sql) : sql.isEmpty = !hasEntries items := by
  induction items generalizing first sql with
  | nil =>
    simp only [renderItems] at h
    cases h
    rfl
  | cons item rest ih =>
    obtain ⟨connective, node⟩ := item
    by_cases hempty : node = .group []
    · subst hempty
      simp only [renderItems] at h
      exact ih h
    · rw [renderItems_cons hempty] at h
      obtain ⟨part, hpart, h⟩ := bind_eq_ok_iff.mp h
      obtain ⟨more, _, h⟩ := bind_eq_ok_iff.mp h
      cases h
      have hentries : hasEntries ((connective, node) :: rest) = true := by
        simp [hasEntries, hempty]
      simp [hentries, ne_nil_of_render hpart]

theorem conditionClause_values (keyword : String) (condition : Sql) :
    (conditionClause keyword condition).values = condition.values := by
  cases condition <;> rfl

/-- The clause of a tree of conditions, from a rendering of the tree. -/
theorem conditionClause_writes {dialect : Dialect} {items : List (Connective × ConditionNode)}
    {values : List Value} {text : (Value → String) → String} {sql : Sql} (keyword : String)
    (hsql : Writes values text sql) (h : ConditionNode.renderItems dialect true items = .ok sql) :
    Writes values (fun ofValue => clauseInPlace keyword items (text ofValue))
      (conditionClause keyword sql) := by
  have hempty := ConditionNode.isEmpty_of_renderItems h
  cases hentries : hasEntries items with
  | false =>
    have hnil : sql = [] := by simpa [hentries] using hempty
    subst hnil
    have hvalues : values = [] := hsql.values_eq.symm
    subst hvalues
    simpa [clauseInPlace, conditionClause, hentries] using Writes.nil
  | true =>
    have hcons : sql.isEmpty = false := by simpa [hentries] using hempty
    simpa [clauseInPlace, conditionClause, hentries, hcons] using hsql.cons keyword

/-- A target, which a query may be without. -/
def IntoTarget.renderOption (dialect : Dialect) : Option IntoTarget → Except Error String
  | none => .ok ""
  | some target => target.render dialect

theorem IntoTarget.renderOption_meets (dialect : Dialect) (into : Option IntoTarget) :
    Meets dialect (into.toList.map .into)
      (fun text => text = into.elim "" (IntoTarget.text dialect))
      (renderOption dialect into) := by
  cases into with
  | none => exact Meets.ok rfl
  | some target =>
    show Meets dialect [.into target] _ (target.render dialect)
    refine Meets.check [] rfl fun text h => ?_
    obtain ⟨table, database⟩ := target
    cases dialect <;> cases database <;> cases h <;> rfl

namespace Query

/-- The clauses of a query, put together. -/
def assemble (dialect : Dialect) (query : Query) (columns : List Sql) (target : String)
    (wheres having : Sql) : Sql :=
  Sql.text (query.opening dialect) ++
    (if query.columns.isEmpty then Sql.text "*" else Sql.join ", " columns) ++
    Sql.text (query.route dialect target) ++ conditionClause " WHERE " wheres ++
    Sql.text (query.grouping dialect) ++ conditionClause " HAVING " having ++
    Sql.text (query.closing dialect)

theorem render_eq (dialect : Dialect) (query : Query) :
    query.render dialect =
      if query.tables.isEmpty then .error (.invalid .selectWithoutTable)
      else
        Projection.renderList dialect query.columns >>= fun columns =>
        IntoTarget.renderOption dialect query.into >>= fun target =>
        ConditionNode.renderItems dialect true query.wheres >>= fun wheres =>
        ConditionNode.renderItems dialect true query.having >>= fun having =>
        pure (query.assemble dialect columns target wheres having) := by
  obtain ⟨tables, _, _, _, _, _, _, _, _, _, into⟩ := query
  rw [render]
  split
  · rfl
  · cases into <;> rfl

theorem walk_eq (query : Query) :
    query.walk = .source query.tables :: (Projection.walkList query.columns ++
      (query.into.toList.map .into ++ (ConditionNode.walkItems query.wheres ++
        ConditionNode.walkItems query.having))) := by
  cases query
  simp [walk]

theorem inPlace_eq (dialect : Dialect) (ofValue : Value → String) (query : Query) :
    query.inPlace dialect ofValue =
      query.clausesInPlace dialect (Projection.inPlaceList dialect ofValue query.columns)
        (ConditionNode.inPlaceItems dialect ofValue true query.wheres)
        (ConditionNode.inPlaceItems dialect ofValue true query.having) := by
  cases query
  rw [inPlace]

/-- The columns, or the star if there are none. -/
theorem columns_writes {columns : List Projection} {values : List Value}
    {texts : (Value → String) → List String} {parts : List Sql}
    (h : WritesList values texts parts) (hnone : columns = [] → values = []) :
    Writes values (fun ofValue => if columns.isEmpty then "*" else Text.join ", " (texts ofValue))
      (if columns.isEmpty then Sql.text "*" else Sql.join ", " parts) := by
  cases columns with
  | nil =>
    rw [hnone rfl]
    exact Writes.literal "*"
  | cons column rest => exact h.join ", "

theorem assemble_writes {dialect : Dialect} {query : Query} {columns : List Sql}
    {values whereValues havingValues : List Value} {texts : (Value → String) → List String}
    {whereText havingText : (Value → String) → String} {wheres having : Sql}
    (hcolumns : WritesList values texts columns) (hnone : query.columns = [] → values = [])
    (hwheres : Writes whereValues (fun ofValue => clauseInPlace " WHERE " query.wheres
      (whereText ofValue)) (conditionClause " WHERE " wheres))
    (hhaving : Writes havingValues (fun ofValue => clauseInPlace " HAVING " query.having
      (havingText ofValue)) (conditionClause " HAVING " having)) :
    Writes (values ++ (whereValues ++ havingValues))
      (fun ofValue => query.clausesInPlace dialect (texts ofValue) (whereText ofValue)
        (havingText ofValue))
      (query.assemble dialect columns (query.into.elim "" (IntoTarget.text dialect)) wheres
        having) := by
  have hstar := columns_writes hcolumns hnone
  constructor
  · simp only [assemble, Sql.values_append, Sql.values_text, hstar.values_eq, hwheres.values_eq,
      hhaving.values_eq, List.nil_append, List.append_nil, List.append_assoc]
  · intro ofValue
    simp only [assemble, clausesInPlace, Sql.spell_append, Sql.spell_text, hstar.spell_eq,
      hwheres.spell_eq, hhaving.spell_eq, String.append_assoc]

theorem renders_of_clauses {dialect : Dialect} {query : Query}
    (hcolumns : RendersList dialect (Projection.walkList query.columns)
      (fun ofValue => Projection.inPlaceList dialect ofValue query.columns)
      (Projection.renderList dialect query.columns))
    (hwheres : Renders dialect (ConditionNode.walkItems query.wheres)
      (fun ofValue => ConditionNode.inPlaceItems dialect ofValue true query.wheres)
      (ConditionNode.renderItems dialect true query.wheres))
    (hhaving : Renders dialect (ConditionNode.walkItems query.having)
      (fun ofValue => ConditionNode.inPlaceItems dialect ofValue true query.having)
      (ConditionNode.renderItems dialect true query.having)) :
    Renders dialect query.walk (fun ofValue => query.inPlace dialect ofValue)
      (query.render dialect) := by
  have hbound : boundValues query.walk = boundValues (Projection.walkList query.columns) ++
      (boundValues (ConditionNode.walkItems query.wheres) ++
        boundValues (ConditionNode.walkItems query.having)) := by
    have htarget : boundValues (query.into.toList.map .into) = [] := by
      cases query.into <;> rfl
    have hsource (rest : List Visit) :
        boundValues (.source query.tables :: rest) = boundValues rest := rfl
    simp only [walk_eq, hsource, boundValues_append, htarget, List.nil_append]
  have hnone : query.columns = [] → boundValues (Projection.walkList query.columns) = [] := by
    intro h
    simp only [h, Projection.walkList, boundValues_nil]
  simp only [Renders, hbound, inPlace_eq]
  rw [walk_eq, render_eq]
  cases htables : query.tables.isEmpty with
  | true => exact Meets.stop (by simp [Visit.problem?, htables])
  | false =>
    refine Meets.pass (by simp [Visit.problem?, htables]) ?_
    refine Meets.bind hcolumns fun columns hc => ?_
    refine Meets.bind (IntoTarget.renderOption_meets dialect query.into) fun target ht => ?_
    refine Meets.bind hwheres.and_eq fun wheres hw => ?_
    refine Meets.map hhaving.and_eq fun having hh => ?_
    rw [ht]
    exact assemble_writes hc hnone (conditionClause_writes " WHERE " hw.1 hw.2)
      (conditionClause_writes " HAVING " hh.1 hh.2)

end Query

mutual

theorem Term.renders (dialect : Dialect) : (term : Term) →
    Renders dialect term.walk (fun ofValue => term.inPlace dialect ofValue) (term.render dialect)
  | .column name => by
    simp only [Term.walk, Term.inPlace, Term.render]
    exact Renders.plain _
  | .value v => by
    simp only [Term.walk, Term.inPlace, Term.render]
    exact Meets.ok_values [v] ⟨rfl, fun ofValue => String.append_empty⟩
  | .operator token => by
    simp only [Term.walk, Term.inPlace, Term.render]
    exact Renders.plain _
  | .call call => by
    simp only [Term.walk, Term.inPlace, Term.render]
    exact call.renders dialect
  | .group terms => by
    simp only [Term.walk, Term.inPlace, Term.render]
    exact Meets.map (Term.rendersList dialect terms) fun parts h => (h.join " ").parens
  | .subquery query => by
    simp only [Term.walk, Term.inPlace, Term.render]
    exact Meets.map (Query.renders dialect query) fun inner h => h.parens

theorem Term.rendersList (dialect : Dialect) : (terms : List Term) →
    RendersList dialect (Term.walkList terms)
      (fun ofValue => Term.inPlaceList dialect ofValue terms) (Term.renderList dialect terms)
  | [] => by
    simp only [Term.walkList, Term.inPlaceList, Term.renderList]
    exact Meets.ok WritesList.nil
  | term :: rest => by
    simp only [Term.walkList, Term.inPlaceList, Term.renderList, RendersList, boundValues_append]
    exact Meets.bind (Term.renders dialect term) fun sql h =>
      Meets.map (Term.rendersList dialect rest) fun more hmore => WritesList.cons h hmore

theorem Operand.renders (dialect : Dialect) : (operand : Operand) →
    Renders dialect operand.walk (fun ofValue => operand.inPlace dialect ofValue)
      (operand.render dialect)
  | .column name => by
    simp only [Operand.walk, Operand.inPlace, Operand.render]
    exact Renders.plain _
  | .expression terms => by
    simp only [Operand.walk, Operand.inPlace, Operand.render]
    exact Meets.map (Term.rendersList dialect terms) fun parts h => h.join " "

theorem Comparand.renders (dialect : Dialect) : (comparand : Comparand) →
    Renders dialect comparand.walk (fun ofValue => comparand.inPlace dialect ofValue)
      (comparand.renderAlone dialect)
  | .nothing => by
    simp only [Comparand.walk, Comparand.inPlace, Comparand.renderAlone]
    exact Meets.ok Writes.nil
  | .value v => by
    simp only [Comparand.walk, Comparand.inPlace, Comparand.renderAlone]
    exact Meets.ok_values [v] ⟨rfl, fun ofValue => by simp⟩
  | .column name => by
    simp only [Comparand.walk, Comparand.inPlace, Comparand.renderAlone]
    exact Renders.plain _
  | .list values => by
    simp only [Comparand.walk, Comparand.inPlace, Comparand.renderAlone, Renders,
      boundValues_map_value]
    exact Meets.ok_values values ((((WritesList.binds values).join ", ").parens).cons " ")
  | .range low high => by
    simp only [Comparand.walk, Comparand.inPlace, Comparand.renderAlone]
    exact Meets.ok_values [low, high] ⟨rfl, fun ofValue => by simp [String.append_assoc]⟩
  | .subquery query => by
    simp only [Comparand.walk, Comparand.inPlace, Comparand.renderAlone]
    exact Meets.map (Query.renders dialect query) fun inner h => h.parens.cons " "

theorem Condition.renders (dialect : Dialect) : (condition : Condition) →
    Renders dialect condition.walk (fun ofValue => condition.inPlace dialect ofValue)
      (condition.render dialect)
  | ⟨operand, _, comparand⟩ =>
    Condition.renders_of_sides (Operand.renders dialect operand)
      (Comparand.renders dialect comparand)

theorem ConditionNode.renders (dialect : Dialect) : (node : ConditionNode) →
    Renders dialect node.walk (fun ofValue => node.inPlace dialect ofValue) (node.render dialect)
  | .test condition => by
    simp only [ConditionNode.walk, ConditionNode.inPlace, ConditionNode.render]
    exact Condition.renders dialect condition
  | .exists _ query => by
    simp only [ConditionNode.walk, ConditionNode.inPlace, ConditionNode.render]
    exact Meets.map (Query.renders dialect query) fun inner h => h.parens.cons _
  | .group items => by
    simp only [ConditionNode.walk, ConditionNode.inPlace, ConditionNode.render]
    exact Meets.map (ConditionNode.rendersItems dialect items true) fun inner h => h.parens

theorem ConditionNode.rendersItems (dialect : Dialect) :
    (items : List (Connective × ConditionNode)) → (first : Bool) →
    Renders dialect (ConditionNode.walkItems items)
      (fun ofValue => ConditionNode.inPlaceItems dialect ofValue first items)
      (ConditionNode.renderItems dialect first items)
  | [], first => by
    simp only [ConditionNode.walkItems, ConditionNode.inPlaceItems, ConditionNode.renderItems]
    exact Meets.ok Writes.nil
  | (_, node) :: rest, _ =>
    ConditionNode.rendersItems_cons (ConditionNode.renders dialect node)
      (ConditionNode.rendersItems dialect rest)

theorem Projection.renders (dialect : Dialect) : (column : Projection) →
    Renders dialect column.walk (fun ofValue => column.inPlace dialect ofValue)
      (column.render dialect)
  | ⟨terms, none⟩ => by
    simp only [Projection.walk, Projection.inPlace, Projection.render]
    exact Meets.map (Term.rendersList dialect terms) fun parts h => h.join " "
  | ⟨terms, some label⟩ => by
    simp only [Projection.walk, Projection.inPlace, Projection.render, String.append_assoc]
    refine Meets.map (Term.rendersList dialect terms) fun parts h => ?_
    have hall := (h.join " ").append (Writes.literal (" AS " ++ Identifier.quote dialect label))
    rwa [List.append_nil] at hall

theorem Projection.rendersList (dialect : Dialect) : (columns : List Projection) →
    RendersList dialect (Projection.walkList columns)
      (fun ofValue => Projection.inPlaceList dialect ofValue columns)
      (Projection.renderList dialect columns)
  | [] => by
    simp only [Projection.walkList, Projection.inPlaceList, Projection.renderList]
    exact Meets.ok WritesList.nil
  | column :: rest => by
    simp only [Projection.walkList, Projection.inPlaceList, Projection.renderList, RendersList,
      boundValues_append]
    exact Meets.bind (Projection.renders dialect column) fun sql h =>
      Meets.map (Projection.rendersList dialect rest) fun more hmore => WritesList.cons h hmore

theorem Query.renders (dialect : Dialect) : (query : Query) →
    Renders dialect query.walk (fun ofValue => query.inPlace dialect ofValue) (query.render dialect)
  | ⟨_, columns, _, wheres, _, having, _, _, _, _, _⟩ =>
    Query.renders_of_clauses (Projection.rendersList dialect columns)
      (ConditionNode.rendersItems dialect wheres true)
      (ConditionNode.rendersItems dialect having true)

end

end SqlDialects
