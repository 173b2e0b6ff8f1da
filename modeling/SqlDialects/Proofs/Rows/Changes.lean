import SqlDialects.Proofs.Rows.Rendering

/-! What the renderers of changes do, and with them the renderer of every statement that works on
rows. -/

namespace SqlDialects

/-- Pieces that are rendered one after the other take their walks one after the other. -/
theorem RendersList.mapM {dialect : Dialect} {render : α → Except Error Sql}
    {walk : α → List Visit} {text : (Value → String) → α → String}
    (h : ∀ item, Renders dialect (walk item) (fun ofValue => text ofValue item) (render item))
    (items : List α) :
    RendersList dialect (items.flatMap walk) (fun ofValue => items.map (text ofValue))
      (items.mapM render) := by
  induction items with
  | nil => exact Meets.ok WritesList.nil
  | cons item rest ih =>
    simp only [List.mapM_cons, List.flatMap_cons, List.map_cons, RendersList, boundValues_append]
    exact Meets.bind (h item) fun sql hsql =>
      Meets.map ih fun more hmore => WritesList.cons hsql hmore

/-- The clause `WHERE` of a change. -/
theorem where_renders (dialect : Dialect) (items : ConditionTree) :
    Meets dialect (ConditionNode.walkItems items)
      (fun sql => Writes (boundValues (ConditionNode.walkItems items))
        (fun ofValue => whereInPlace dialect ofValue items) (conditionClause " WHERE " sql))
      (ConditionTree.render dialect items) :=
  (Meets.and_eq (ConditionNode.rendersItems dialect items true)).mono fun _ h =>
    conditionClause_writes " WHERE " h.1 h.2

theorem Written.renders (dialect : Dialect) : (written : Written) →
    Renders dialect written.walk (fun ofValue => written.inPlace dialect ofValue)
      (written.render dialect)
  | .value v => Meets.ok_values [v] ⟨rfl, fun _ => String.append_empty⟩
  | .expression terms => Meets.map (Term.rendersList dialect terms) fun _ h => h.join " "

theorem Insert.renderRow_renders (dialect : Dialect) (row : List Written) :
    Renders dialect (row.flatMap Written.walk)
      (fun ofValue => inParens (Text.join ", " (row.map (Written.inPlace dialect ofValue))))
      (Insert.renderRow dialect row) :=
  Meets.map (RendersList.mapM (Written.renders dialect) row) fun _ h => (h.join ", ").parens

theorem Insert.renders (dialect : Dialect) (insert : Insert) :
    Renders dialect (RowStatement.insert insert).walk
      (fun ofValue => insert.inPlace dialect ofValue) (insert.render dialect) := by
  unfold Insert.render
  cases hproblem : insert.problem? with
  | some problem => exact Meets.stop (by simp [Visit.problem?, hproblem])
  | none =>
    refine Meets.pass (by simp [Visit.problem?, hproblem]) ?_
    exact Meets.map (RendersList.mapM (Insert.renderRow_renders dialect) insert.rows) fun rows h =>
      (Writes.literal _).append (h.join ", ")

theorem Update.renderAssignment_renders (dialect : Dialect) (assignment : String × Written) :
    Renders dialect assignment.2.walk
      (fun ofValue => Identifier.quote dialect assignment.1 ++ " = " ++
        assignment.2.inPlace dialect ofValue)
      (Update.renderAssignment dialect assignment) :=
  Meets.map (Written.renders dialect assignment.2) fun _ h => (Writes.literal _).append h

theorem Update.renders (dialect : Dialect) (update : Update) :
    Renders dialect (RowStatement.update update).walk
      (fun ofValue => update.inPlace dialect ofValue) (update.render dialect) := by
  have hbound : boundValues (RowStatement.update update).walk =
      boundValues (update.assignments.flatMap fun assignment => assignment.2.walk) ++
        boundValues (ConditionNode.walkItems update.query.wheres) :=
    boundValues_append _ _
  unfold Update.render Renders
  rw [hbound]
  cases htables : update.query.tables.isEmpty with
  | true => exact Meets.stop (by simp [Visit.problem?, htables])
  | false =>
    cases hassignments : update.assignments.isEmpty with
    | true => exact Meets.stop (by simp [Visit.problem?, htables, hassignments])
    | false =>
      refine Meets.pass (by simp [Visit.problem?, htables, hassignments]) ?_
      refine Meets.bind (RendersList.mapM (Update.renderAssignment_renders dialect)
        update.assignments) fun assignments ha => ?_
      refine Meets.map (where_renders dialect update.query.wheres) fun wheres hw => ?_
      exact ((Writes.literal _).append (ha.join ", ")).append hw

namespace Delete

/-- The tables that lose rows, if they are named. -/
def renderTargets (dialect : Dialect) (delete : Delete) (table : TableRef) : Except Error String :=
  if delete.namesTargets then do
    let names := if delete.targets.isEmpty then [table.label.getD table.name] else delete.targets
    let text ← targetText dialect names
    pure (text ++ " ")
  else
    pure ""

theorem render_eq {dialect : Dialect} {delete : Delete} {table : TableRef} {rest : List TableRef}
    (h : delete.query.tables = table :: rest) :
    delete.render dialect =
      renderTargets dialect delete table >>= fun targets =>
      ConditionTree.render dialect delete.query.wheres >>= fun wheres =>
      pure (Sql.text ("DELETE " ++ targets ++ "FROM " ++
        TableRef.renderList dialect delete.query.tables ++
        Join.renderList dialect delete.query.joins) ++ conditionClause " WHERE " wheres) := by
  unfold render renderTargets
  rw [h]
  cases delete.namesTargets with
  | false => rfl
  | true =>
    simp only [↓reduceIte, bind_assoc]

theorem targetText_eq_ok {dialect : Dialect} {names : List String} {text : String}
    (h : targetText dialect names = .ok text) : text = Identifier.quoteList dialect names := by
  unfold targetText at h
  split at h <;> cases h <;> rfl

theorem renderTargets_meets {dialect : Dialect} {delete : Delete} {table : TableRef}
    {rest : List TableRef} (h : delete.query.tables = table :: rest) :
    Meets dialect [.delete delete] (fun text => text = delete.targetsInPlace dialect)
      (renderTargets dialect delete table) := by
  unfold renderTargets
  cases hnames : delete.namesTargets with
  | false =>
    refine Meets.pass (by simp [Visit.problem?, h, hnames]) (Meets.ok ?_)
    simp only [namesTargets, h, Bool.or_eq_false_iff, Bool.not_eq_false', List.isEmpty_iff,
      decide_eq_false_iff_not] at hnames
    obtain ⟨⟨htargets, hjoins⟩, hfew⟩ := hnames
    simp only [targetsInPlace, htargets, hjoins, h, hfew, ne_eq, not_true_eq_false, or_self,
      ↓reduceIte]
  | true =>
    simp only [↓reduceIte]
    have htext : Meets dialect [.delete delete]
        (fun text => text ++ " " = delete.targetsInPlace dialect)
        (targetText dialect
          (if delete.targets.isEmpty then [table.label.getD table.name] else delete.targets)) := by
      refine Meets.check [] (by simp only [Visit.problem?, h, hnames, ↓reduceIte]) fun text ht => ?_
      rw [targetText_eq_ok ht]
      cases htargets : delete.targets with
      | cons target more => simp [targetsInPlace, htargets]
      | nil =>
        have hmany : delete.query.joins ≠ [] ∨ 1 < delete.query.tables.length := by
          simpa [namesTargets, htargets] using hnames
        simp only [targetsInPlace, htargets, ne_eq, not_true_eq_false, ↓reduceIte, if_pos hmany]
        simp [h, Identifier.quoteList, Text.join]
    exact Meets.map htext fun _ ht => ht

theorem renders (dialect : Dialect) (delete : Delete) :
    Renders dialect (RowStatement.delete delete).walk
      (fun ofValue => delete.inPlace dialect ofValue) (delete.render dialect) := by
  cases htables : delete.query.tables with
  | nil =>
    have hstop : delete.render dialect = .error (.invalid .deleteWithoutTable) := by
      unfold render
      rw [htables]
      rfl
    rw [hstop]
    exact Meets.stop (by simp [Visit.problem?, htables])
  | cons table rest =>
    rw [render_eq htables]
    have htargets : Meets dialect [.delete delete] _ _ := renderTargets_meets htables
    refine htargets.bind fun targets ht => ?_
    refine Meets.map (where_renders dialect delete.query.wheres) fun wheres hw => ?_
    subst ht
    exact (Writes.literal _).append hw

end Delete

theorem RowStatement.renders (dialect : Dialect) (s : RowStatement) :
    Renders dialect s.walk (fun ofValue => s.inPlace dialect ofValue) (s.render dialect) := by
  cases s with
  | select q => exact Query.renders dialect q
  | insert i => exact Insert.renders dialect i
  | update u => exact Update.renders dialect u
  | delete d => exact Delete.renders dialect d

end SqlDialects
