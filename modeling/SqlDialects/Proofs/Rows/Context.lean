import SqlDialects.Proofs.Result
import SqlDialects.Proofs.Rows.Changes
import SqlDialects.Proofs.Rows.Threading

/-! Statements with their parameters threaded through, and queries in the middle of them. They are
rendered in the way in which they are rendered in fragments that are numbered at the end, whatever
parameters are there before: the same values are bound behind those, and the numbers of the
placeholders go on where they ended. -/

namespace SqlDialects

namespace Sql

theorem write_ne_empty {dialect : Dialect} {next : Nat} {sql : Sql} {s : String}
    (hmem : Fragment.text s ∈ sql) (hs : s ≠ "") : write dialect next sql ≠ "" := by
  obtain ⟨before, after, rfl⟩ := List.append_of_mem hmem
  rw [write_append, write]
  intro h
  exact hs (String.append_eq_empty_iff.mp (String.append_eq_empty_iff.mp h).2).1

/-- Where all placeholders are the same sign, the numbers play no part. -/
theorem write_eq_of_signs {dialect : Dialect} (h : dialect = .mysql ∨ dialect = .sqlite)
    (sql : Sql) (next other : Nat) : write dialect next sql = write dialect other sql := by
  induction sql generalizing next other with
  | nil => rfl
  | cons fragment rest ih =>
    cases fragment with
    | text s => rw [write, write, ih next other]
    | bind v =>
      have hsign : dialect.placeholder next = dialect.placeholder other := by
        rcases h with rfl | rfl <;> rfl
      rw [write, write, hsign, ih (next + 1) (other + 1)]

end Sql

namespace Parameters

@[simp] theorem extend_nil (parameters : Parameters) : parameters.extend [] = parameters := by
  simp [extend]

theorem extend_append (parameters : Parameters) (first second : List Value) :
    parameters.extend (first ++ second) = (parameters.extend first).extend second := by
  simp [extend, Nat.add_assoc]

theorem InStep.extend {parameters : Parameters} (h : parameters.InStep) (values : List Value) :
    (parameters.extend values).InStep := by
  have hindex : parameters.index = parameters.values.length := h
  simp [InStep, Parameters.extend, hindex]

end Parameters

/-- A rendering with parameters ends like one without: in the same error, or with results that are
related. -/
inductive EndsLike (Good : α → β → Parameters → Prop) :
    Except Error α → EStateM.Result Error Parameters β → Prop
  | error (e : Error) (after : Parameters) : EndsLike Good (.error e) (.error e after)
  | ok {a : α} {b : β} {after : Parameters} (h : Good a b after) :
    EndsLike Good (.ok a) (.ok b after)

namespace EndsLike

variable {Good : α → β → Parameters → Prop} {Better : γ → δ → Parameters → Prop}
  {x : Except Error α} {m : Threaded β} {before : Parameters}

theorem bind {next : α → Except Error γ} {next' : β → Threaded δ}
    (h : EndsLike Good x (m before))
    (hnext : ∀ a b after, Good a b after → EndsLike Better (next a) (next' b after)) :
    EndsLike Better (x >>= next) ((m >>= next') before) := by
  show EndsLike Better (x >>= next) (EStateM.bind m next' before)
  unfold EStateM.bind
  generalize m before = result at h
  cases h with
  | error e after => exact .error e after
  | ok h => exact hnext _ _ _ h

theorem map {f : α → γ} {g : β → δ} (h : EndsLike Good x (m before))
    (hf : ∀ a b after, Good a b after → Better (f a) (g b) after) :
    EndsLike Better (x >>= fun a => pure (f a)) ((m >>= fun b => pure (g b)) before) :=
  h.bind fun a b after hab => .ok (hf a b after hab)

theorem mapLeft {r : EStateM.Result Error Parameters β} {f : α → γ}
    {Better : γ → β → Parameters → Prop} (h : EndsLike Good x r)
    (hf : ∀ a b after, Good a b after → Better (f a) b after) :
    EndsLike Better (x >>= fun a => pure (f a)) r := by
  cases h with
  | error e after => exact .error e after
  | ok h => exact .ok (hf _ _ _ h)

theorem mono {r : EStateM.Result Error Parameters β} {Weaker : α → β → Parameters → Prop}
    (h : EndsLike Good x r) (hw : ∀ a b after, Good a b after → Weaker a b after) :
    EndsLike Weaker x r := by
  cases h with
  | error e after => exact .error e after
  | ok h => exact .ok (hw _ _ _ h)

theorem isOk_iff {r : EStateM.Result Error Parameters β} (h : EndsLike Good x r) :
    (∃ b after, r = .ok b after) ↔ ∃ a, x = .ok a := by
  cases h with
  | error e after => simp
  | ok h => simp

theorem good_of_eq_ok {r : EStateM.Result Error Parameters β} (h : EndsLike Good x r) {b : β}
    {after : Parameters} (hr : r = .ok b after) : ∃ a, x = .ok a ∧ Good a b after := by
  cases h with
  | error e after => cases hr
  | ok h =>
    cases hr
    exact ⟨_, rfl, h⟩

/-- What is related is also what the rendering without parameters was seen to give. -/
theorem and_eq {r : EStateM.Result Error Parameters β} (h : EndsLike Good x r) :
    EndsLike (fun a b after => Good a b after ∧ x = .ok a) x r := by
  cases h with
  | error e after => exact .error e after
  | ok h => exact .ok ⟨h, rfl⟩

/-- A result of the rendering without parameters, taken as it is. -/
theorem ofResult (x : Except Error α) (before : Parameters) :
    EndsLike (fun a b after => b = a ∧ after = before) x (Threaded.ofResult x before) := by
  cases x with
  | error e => exact .error e before
  | ok a => exact .ok ⟨rfl, rfl⟩

end EndsLike

section

variable {dialect : Dialect} {before middle after : Parameters} {first second sql : Sql}
  {text more : String}

/-- The text of some SQL behind parameters: its placeholders go on from their number, and its values
are bound behind theirs. -/
structure Placed (dialect : Dialect) (before : Parameters) (sql : Sql) (text : String)
    (after : Parameters) : Prop where
  text_eq : text = sql.write dialect (before.index + 1)
  after_eq : after = before.extend sql.values

/-- The same of several pieces one behind the other. -/
inductive PlacedList (dialect : Dialect) :
    Parameters → List Sql → List String → Parameters → Prop
  | nil (before : Parameters) : PlacedList dialect before [] [] before
  | cons {before middle after : Parameters} {sql : Sql} {text : String} {parts : List Sql}
    {texts : List String} (h : Placed dialect before sql text middle)
    (hparts : PlacedList dialect middle parts texts after) :
    PlacedList dialect before (sql :: parts) (text :: texts) after

namespace Placed

theorem literal (s : String) : Placed dialect before (Sql.text s) s before :=
  ⟨(Sql.write_text dialect _ s).symm, by simp⟩

theorem nil : Placed dialect before [] "" before := ⟨rfl, by simp⟩

theorem bind (v : Value) :
    Placed dialect before [.bind v] (dialect.placeholder (before.index + 1)) (before.extend [v]) :=
  ⟨by simp [Sql.write], rfl⟩

theorem append (h : Placed dialect before first text middle)
    (hmore : Placed dialect middle second more after) :
    Placed dialect before (first ++ second) (text ++ more) after := by
  obtain ⟨rfl, rfl⟩ := h
  obtain ⟨rfl, rfl⟩ := hmore
  constructor
  · rw [Sql.write_append, Parameters.extend, Nat.add_right_comm]
  · rw [Sql.values_append, Parameters.extend_append]

theorem cons (s : String) (h : Placed dialect before sql text after) :
    Placed dialect before (.text s :: sql) (s ++ text) after :=
  (literal s).append h

theorem parens (h : Placed dialect before sql text after) :
    Placed dialect before sql.parens (inParens text) after := by
  have hclosed := (h.append (literal ")")).cons "("
  rwa [← String.append_assoc] at hclosed

end Placed

theorem PlacedList.join {parts : List Sql} {texts : List String} (separator : String)
    (h : PlacedList dialect before parts texts after) :
    Placed dialect before (Sql.join separator parts) (Text.join separator texts) after := by
  induction h with
  | nil before => exact .nil
  | cons h hparts ih =>
    cases hparts with
    | nil => exact h
    | cons hnext hrest =>
      have hall := h.append (ih.cons separator)
      rwa [← String.append_assoc] at hall

/-- The placeholders of several values. -/
theorem PlacedList.binds (values : List Value) (before : Parameters) :
    EndsLike (PlacedList dialect before) (.ok (values.map fun v => [Fragment.bind v]))
      (values.mapM (Threaded.bindValue dialect) before) := by
  induction values generalizing before with
  | nil => exact .ok (.nil before)
  | cons v rest ih =>
    rw [List.mapM_cons]
    have hv : EndsLike (Placed dialect before) (.ok [Fragment.bind v])
        (Threaded.bindValue dialect v before) := .ok (.bind v)
    show EndsLike _ (Except.ok [Fragment.bind v] >>= fun sql =>
      Except.ok (rest.map fun v => [Fragment.bind v]) >>= fun parts => pure (sql :: parts)) _
    exact hv.bind fun sql text middle h => (ih middle).map fun parts texts after hparts =>
      .cons h hparts

end

/-- A rendering with parameters that places the SQL of one without, from any parameters on. -/
def Threads (dialect : Dialect) (x : Except Error Sql) (m : Threaded String) : Prop :=
  ∀ before, EndsLike (Placed dialect before) x (m before)

/-- The same of a rendering in several pieces. -/
def ThreadsList (dialect : Dialect) (x : Except Error (List Sql)) (m : Threaded (List String)) :
    Prop :=
  ∀ before, EndsLike (PlacedList dialect before) x (m before)

theorem Threads.plain (dialect : Dialect) (s : String) :
    Threads dialect (.ok (Sql.text s)) (pure s) :=
  fun _ => .ok (.literal s)

theorem ScalarFunction.threads (dialect : Dialect) (function : ScalarFunction) (column : String) :
    Threads dialect (.ok (function.render dialect column)) (function.thread dialect column) := by
  intro before
  cases function with
  | format pattern =>
    cases dialect <;>
      exact .ok ⟨by simp [render, inPlace, Sql.write, String.append_assoc], rfl⟩
  | _ =>
    cases dialect <;>
      exact .ok ⟨by simp [render, inPlace, Sql.text, Sql.write, String.append_assoc],
        by simp [render, Sql.text]⟩

theorem Call.threads (dialect : Dialect) (call : Call) :
    Threads dialect (call.render dialect) (call.thread dialect) := by
  obtain ⟨function, columns, distinct⟩ := call
  cases function with
  | aggregate function =>
    intro before
    refine (EndsLike.ofResult (function.render dialect distinct
      (columns.map (Identifier.quote dialect))) before).mapLeft ?_
    rintro text _ _ ⟨rfl, rfl⟩
    exact .literal _
  | scalar function =>
    cases function with
    | now => exact ScalarFunction.threads dialect .now ""
    | _ =>
      cases columns with
      | nil => exact fun before => .error _ before
      | cons column rest => exact ScalarFunction.threads dialect _ (Identifier.quote dialect column)

theorem Condition.thread_of_operand {dialect : Dialect} {operand : Operand}
    {comparison : Comparison} {comparand : Comparand}
    (h : ¬ (comparand = .list [] ∧ (comparison = .isIn ∨ comparison = .notIn))) :
    thread dialect ⟨operand, comparison, comparand⟩ =
      operand.thread dialect >>= fun left =>
      if comparison = .isNull ∨ comparison = .isNotNull then
        pure (left ++ " " ++ comparison.sql)
      else if comparison.takes comparand then
        comparand.thread dialect >>= fun right => pure (left ++ " " ++ comparison.sql ++ right)
      else throw (.invalid (.badComparand comparison comparand)) :=
  thread.eq_3 dialect operand comparison comparand (fun hin hnil => h ⟨hnil, .inl hin⟩)
    fun hnotIn hnil => h ⟨hnil, .inr hnotIn⟩

theorem Condition.threads_of_sides {dialect : Dialect} {operand : Operand} {comparison : Comparison}
    {comparand : Comparand}
    (hleft : Threads dialect (operand.render dialect) (operand.thread dialect))
    (hright : Threads dialect (comparand.renderAlone dialect) (comparand.thread dialect)) :
    Threads dialect (render dialect ⟨operand, comparison, comparand⟩)
      (thread dialect ⟨operand, comparison, comparand⟩) := by
  by_cases hempty : comparand = .list [] ∧ (comparison = .isIn ∨ comparison = .notIn)
  · obtain ⟨rfl, rfl | rfl⟩ := hempty
    · exact Threads.plain dialect "1 = 0"
    · exact Threads.plain dialect "1 = 1"
  intro before
  rw [render_of_operand hempty, thread_of_operand hempty]
  refine (hleft before).bind fun left leftText middle hl => ?_
  by_cases hnull : comparison = .isNull ∨ comparison = .isNotNull
  · rw [if_pos hnull,
      Comparand.render_of_null ((Comparison.shape_eq_nothing_iff comparison).mpr hnull)]
    have htext := hl.append (.literal (" " ++ comparison.sql))
    rw [← String.append_assoc] at htext
    exact .ok htext
  · rw [if_neg hnull, Comparand.render_eq fun hshape =>
      hnull ((Comparison.shape_eq_nothing_iff comparison).mp hshape)]
    cases htakes : comparison.takes comparand with
    | false => exact .error _ middle
    | true =>
      refine (hright middle).map fun right rightText after hr => ?_
      have htext := hl.append (hr.cons (" " ++ comparison.sql))
      rwa [← String.append_assoc, ← String.append_assoc] at htext

namespace ConditionNode

variable {dialect : Dialect} {items : List (Connective × ConditionNode)}

/-- The items of a condition are placed behind any text. The first one is linked to it unless it is
empty. -/
def ThreadsItems (dialect : Dialect) (items : List (Connective × ConditionNode)) : Prop :=
  ∀ text before,
    EndsLike (fun sql whole after => ∃ added, whole = text ++ added ∧
        Placed dialect before sql added after)
      (renderItems dialect (decide (text = "")) items) (threadItems dialect text items before)

theorem threadItems_cons {text : String} {connective : Connective} {node : ConditionNode}
    {rest : List (Connective × ConditionNode)} (h : node ≠ .group []) :
    threadItems dialect text ((connective, node) :: rest) =
      node.thread dialect >>= fun part =>
      threadItems dialect
        (text ++ (if text = "" then "" else " " ++ connective.sql ++ " ") ++ part) rest :=
  threadItems.eq_3 dialect text connective node rest h

theorem threadsItems_nil : ThreadsItems dialect [] := by
  intro text before
  simp only [renderItems, threadItems]
  exact .ok ⟨"", String.append_empty.symm, .nil⟩

theorem threadsItems_cons {connective : Connective} {node : ConditionNode}
    {rest : List (Connective × ConditionNode)}
    (hnode : Threads dialect (node.render dialect) (node.thread dialect))
    (hrest : ThreadsItems dialect rest) : ThreadsItems dialect ((connective, node) :: rest) := by
  intro text before
  by_cases hempty : node = .group []
  · subst hempty
    simp only [renderItems, threadItems]
    exact hrest text before
  rw [renderItems_cons hempty, threadItems_cons hempty]
  refine (hnode before).and_eq.bind fun sql part middle hpart => ?_
  obtain ⟨hpart, hok⟩ := hpart
  obtain ⟨s, hmem, hs⟩ := exists_text_of_render hok
  -- Behind a part the text is not empty, so that all later items are linked.
  have hne : text ++ (if text = "" then "" else " " ++ connective.sql ++ " ") ++ part ≠ "" := by
    have hpartNe : part ≠ "" := hpart.text_eq ▸ Sql.write_ne_empty hmem hs
    simp [String.append_eq_empty_iff, hpartNe]
  have hmore := hrest (text ++ (if text = "" then "" else " " ++ connective.sql ++ " ") ++ part)
    middle
  rw [decide_eq_false hne] at hmore
  refine hmore.mapLeft fun more whole after hwhole => ?_
  obtain ⟨added, rfl, hadded⟩ := hwhole
  have hlink : Placed dialect before
      (if decide (text = "") then [] else Sql.text (" " ++ connective.sql ++ " "))
      (if text = "" then "" else " " ++ connective.sql ++ " ") before := by
    by_cases htext : text = ""
    · simpa [htext] using Placed.nil
    · simpa [htext] using Placed.literal (" " ++ connective.sql ++ " ")
  exact ⟨_, by simp only [String.append_assoc], (hlink.append hpart).append hadded⟩

theorem threads_of_items (h : ThreadsItems dialect items) :
    Threads dialect (renderItems dialect true items) (threadItems dialect "" items) := by
  intro before
  refine (h "" before).mono fun sql whole after hwhole => ?_
  obtain ⟨added, rfl, hadded⟩ := hwhole
  rwa [String.empty_append]

theorem exists_text_of_renderItems {first : Bool} {sql : Sql}
    (h : renderItems dialect first items = .ok sql) (hne : sql ≠ []) :
    ∃ s, Fragment.text s ∈ sql ∧ s ≠ "" := by
  induction items generalizing first sql with
  | nil =>
    simp only [renderItems] at h
    cases h
    exact absurd rfl hne
  | cons item rest ih =>
    obtain ⟨connective, node⟩ := item
    by_cases hempty : node = .group []
    · subst hempty
      simp only [renderItems] at h
      exact ih h hne
    · rw [renderItems_cons hempty] at h
      obtain ⟨part, hpart, h⟩ := bind_eq_ok_iff.mp h
      obtain ⟨more, _, h⟩ := bind_eq_ok_iff.mp h
      cases h
      obtain ⟨s, hmem, hs⟩ := exists_text_of_render hpart
      exact ⟨s, List.mem_append_left _ (List.mem_append_right _ hmem), hs⟩

end ConditionNode

/-- The clause of a condition, which has no text exactly if it has no fragments. -/
theorem Placed.clause {dialect : Dialect} {before after : Parameters} {sql : Sql} {text : String}
    {items : List (Connective × ConditionNode)} (keyword : String)
    (h : Placed dialect before sql text after)
    (hok : ConditionNode.renderItems dialect true items = .ok sql) :
    Placed dialect before (conditionClause keyword sql) (clauseText keyword text) after := by
  cases hsql : sql with
  | nil =>
    subst hsql
    have htext : text = "" := h.text_eq
    subst htext
    exact h
  | cons fragment rest =>
    obtain ⟨s, hmem, hs⟩ := ConditionNode.exists_text_of_renderItems hok (by simp [hsql])
    have htext : text ≠ "" := h.text_eq ▸ Sql.write_ne_empty hmem hs
    rw [hsql] at h
    simp only [clauseText, if_neg htext, conditionClause, List.isEmpty_cons]
    exact h.cons keyword

namespace Query

theorem thread_eq (dialect : Dialect) (query : Query) :
    query.thread dialect =
      if query.tables.isEmpty then throw (.invalid .selectWithoutTable)
      else
        Projection.threadList dialect query.columns >>= fun columns =>
        Threaded.ofResult (IntoTarget.renderOption dialect query.into) >>= fun target =>
        ConditionNode.threadItems dialect "" query.wheres >>= fun wheres =>
        ConditionNode.threadItems dialect "" query.having >>= fun having =>
        pure (query.clauses dialect columns target wheres having) := by
  obtain ⟨_, _, _, _, _, _, _, _, _, _, into⟩ := query
  rw [thread]
  cases into <;> rfl

/-- The columns, or the star if there are none. -/
theorem columns_placed {dialect : Dialect} {before after : Parameters} {columns : List Projection}
    {parts : List Sql} {texts : List String} (h : PlacedList dialect before parts texts after)
    (hok : Projection.renderList dialect columns = .ok parts) :
    Placed dialect before (if columns.isEmpty then Sql.text "*" else Sql.join ", " parts)
      (if columns.isEmpty then "*" else Text.join ", " texts) after := by
  cases columns with
  | nil =>
    rw [Projection.renderList] at hok
    cases hok
    cases h
    exact .literal "*"
  | cons column rest => exact h.join ", "

theorem threads_of_clauses {dialect : Dialect} {query : Query}
    (hcolumns : ThreadsList dialect (Projection.renderList dialect query.columns)
      (Projection.threadList dialect query.columns))
    (hwheres : ConditionNode.ThreadsItems dialect query.wheres)
    (hhaving : ConditionNode.ThreadsItems dialect query.having) :
    Threads dialect (query.render dialect) (query.thread dialect) := by
  intro before
  rw [render_eq, thread_eq]
  cases htables : query.tables.isEmpty with
  | true => exact .error _ before
  | false =>
    refine (hcolumns before).and_eq.bind fun columns texts _ hc => ?_
    refine (EndsLike.ofResult _ _).bind ?_
    rintro _ target _ ⟨rfl, rfl⟩
    refine (ConditionNode.threads_of_items hwheres _).and_eq.bind fun wheres whereText _ hw => ?_
    refine (ConditionNode.threads_of_items hhaving _).and_eq.map fun having havingText _ hh => ?_
    have hall := ((((((Placed.literal (query.opening dialect)).append
      (columns_placed hc.1 hc.2)).append (.literal (query.route dialect target))).append
      (hw.1.clause " WHERE " hw.2)).append (.literal (query.grouping dialect))).append
      (hh.1.clause " HAVING " hh.2)).append (.literal (query.closing dialect))
    exact hall

end Query

mutual

theorem Term.threads (dialect : Dialect) : (term : Term) →
    Threads dialect (term.render dialect) (term.thread dialect)
  | .column name => by
    simp only [Term.render, Term.thread]
    exact Threads.plain dialect _
  | .value v => by
    simp only [Term.render, Term.thread]
    exact fun _ => .ok (.bind v)
  | .operator token => by
    simp only [Term.render, Term.thread]
    exact Threads.plain dialect token
  | .call call => by
    simp only [Term.render, Term.thread]
    exact call.threads dialect
  | .group terms => by
    simp only [Term.render, Term.thread]
    exact fun before => (Term.threadsList dialect terms before).map fun _ _ _ h =>
      (h.join " ").parens
  | .subquery query => by
    simp only [Term.render, Term.thread]
    exact fun before => (Query.threads dialect query before).map fun _ _ _ h => h.parens

theorem Term.threadsList (dialect : Dialect) : (terms : List Term) →
    ThreadsList dialect (Term.renderList dialect terms) (Term.threadList dialect terms)
  | [] => by
    simp only [Term.renderList, Term.threadList]
    exact fun before => .ok (.nil before)
  | term :: rest => by
    simp only [Term.renderList, Term.threadList]
    exact fun before => (Term.threads dialect term before).bind fun _ _ middle h =>
      (Term.threadsList dialect rest middle).map fun _ _ _ hrest => .cons h hrest

theorem Operand.threads (dialect : Dialect) : (operand : Operand) →
    Threads dialect (operand.render dialect) (operand.thread dialect)
  | .column name => by
    simp only [Operand.render, Operand.thread]
    exact Threads.plain dialect _
  | .expression terms => by
    simp only [Operand.render, Operand.thread]
    exact fun before => (Term.threadsList dialect terms before).map fun _ _ _ h => h.join " "

theorem Comparand.threads (dialect : Dialect) : (comparand : Comparand) →
    Threads dialect (comparand.renderAlone dialect) (comparand.thread dialect)
  | .nothing => by
    simp only [Comparand.renderAlone, Comparand.thread]
    exact fun _ => .ok .nil
  | .value v => by
    simp only [Comparand.renderAlone, Comparand.thread]
    exact fun _ => .ok ((Placed.bind v).cons " ")
  | .column name => by
    simp only [Comparand.renderAlone, Comparand.thread]
    exact Threads.plain dialect _
  | .list values => by
    simp only [Comparand.renderAlone, Comparand.thread]
    intro before
    show EndsLike _ (Except.ok (values.map fun v => [Fragment.bind v]) >>= fun parts =>
      pure (Fragment.text " " :: Sql.parens (Sql.join ", " parts))) _
    exact (PlacedList.binds values before).map fun _ _ _ h => (h.join ", ").parens.cons " "
  | .range low high => by
    simp only [Comparand.renderAlone, Comparand.thread]
    intro before
    have h : Placed dialect before _ _ _ :=
      ((Placed.bind low).append ((Placed.bind high).cons " AND ")).cons " "
    rw [← String.append_assoc, ← String.append_assoc] at h
    exact .ok h
  | .subquery query => by
    simp only [Comparand.renderAlone, Comparand.thread]
    exact fun before => (Query.threads dialect query before).map fun _ _ _ h => h.parens.cons " "

theorem Condition.threads (dialect : Dialect) : (condition : Condition) →
    Threads dialect (condition.render dialect) (condition.thread dialect)
  | ⟨operand, _, comparand⟩ =>
    Condition.threads_of_sides (Operand.threads dialect operand)
      (Comparand.threads dialect comparand)

theorem ConditionNode.threads (dialect : Dialect) : (node : ConditionNode) →
    Threads dialect (node.render dialect) (node.thread dialect)
  | .test condition => by
    simp only [ConditionNode.render, ConditionNode.thread]
    exact Condition.threads dialect condition
  | .exists _ query => by
    simp only [ConditionNode.render, ConditionNode.thread]
    exact fun before => (Query.threads dialect query before).map fun _ _ _ h => h.parens.cons _
  | .group items => by
    simp only [ConditionNode.render, ConditionNode.thread]
    exact fun before =>
      (ConditionNode.threads_of_items (ConditionNode.threadsItems dialect items) before).map
        fun _ _ _ h => h.parens

theorem ConditionNode.threadsItems (dialect : Dialect) :
    (items : List (Connective × ConditionNode)) → ConditionNode.ThreadsItems dialect items
  | [] => ConditionNode.threadsItems_nil
  | (_, node) :: rest =>
    ConditionNode.threadsItems_cons (ConditionNode.threads dialect node)
      (ConditionNode.threadsItems dialect rest)

theorem Projection.threads (dialect : Dialect) : (column : Projection) →
    Threads dialect (column.render dialect) (column.thread dialect)
  | ⟨terms, none⟩ => by
    simp only [Projection.render, Projection.thread]
    exact fun before => (Term.threadsList dialect terms before).map fun _ _ _ h => by
      simpa using h.join " "
  | ⟨terms, some label⟩ => by
    simp only [Projection.render, Projection.thread]
    exact fun before => (Term.threadsList dialect terms before).map fun _ _ _ h =>
      (h.join " ").append (.literal _)

theorem Projection.threadsList (dialect : Dialect) : (columns : List Projection) →
    ThreadsList dialect (Projection.renderList dialect columns)
      (Projection.threadList dialect columns)
  | [] => by
    simp only [Projection.renderList, Projection.threadList]
    exact fun before => .ok (.nil before)
  | column :: rest => by
    simp only [Projection.renderList, Projection.threadList]
    exact fun before => (Projection.threads dialect column before).bind fun _ _ middle h =>
      (Projection.threadsList dialect rest middle).map fun _ _ _ hrest => .cons h hrest

theorem Query.threads (dialect : Dialect) : (query : Query) →
    Threads dialect (query.render dialect) (query.thread dialect)
  | ⟨_, columns, _, wheres, _, having, _, _, _, _, _⟩ =>
    Query.threads_of_clauses (Projection.threadsList dialect columns)
      (ConditionNode.threadsItems dialect wheres) (ConditionNode.threadsItems dialect having)

end

/-- The statement that a rendering with parameters gives by itself. -/
def Threaded.compile (m : Threaded String) : Except Error Compiled :=
  match m {} with
  | .ok sql parameters => .ok (parameters.finish sql)
  | .error e _ => .error e

theorem Threads.compile_eq {dialect : Dialect} {x : Except Error Sql} {m : Threaded String}
    (h : Threads dialect x m) : m.compile = x.map (Sql.compile dialect) := by
  have hends := h {}
  unfold Threaded.compile
  generalize m {} = threaded at hends
  cases hends with
  | error e after => rfl
  | ok hplaced =>
    obtain ⟨rfl, rfl⟩ := hplaced
    rfl

/-- Pieces that are placed one after the other. -/
theorem ThreadsList.mapM {dialect : Dialect} {render : α → Except Error Sql}
    {thread : α → Threaded String} (h : ∀ item, Threads dialect (render item) (thread item))
    (items : List α) : ThreadsList dialect (items.mapM render) (items.mapM thread) := by
  induction items with
  | nil => exact fun before => .ok (.nil before)
  | cons item rest ih =>
    rw [List.mapM_cons, List.mapM_cons]
    exact fun before => (h item before).bind fun _ _ middle hitem =>
      (ih middle).map fun _ _ _ hrest => .cons hitem hrest

/-- The clause `WHERE` of a change. -/
theorem ConditionTree.threads_clause (dialect : Dialect) (tree : ConditionTree)
    (before : Parameters) :
    EndsLike
      (fun sql text after => Placed dialect before (conditionClause " WHERE " sql) text after)
      (ConditionTree.render dialect tree) (ConditionTree.threadClause dialect tree before) := by
  have hclause : EndsLike
      (fun sql text after => Placed dialect before (conditionClause " WHERE " sql) text after)
      (ConditionTree.render dialect tree >>= pure)
      (ConditionTree.threadClause dialect tree before) :=
    (ConditionNode.threads_of_items (ConditionNode.threadsItems dialect tree) before).and_eq.map
      fun _ _ _ h => h.1.clause " WHERE " h.2
  rwa [bind_pure] at hclause

theorem Written.threads (dialect : Dialect) : (written : Written) →
    Threads dialect (written.render dialect) (written.thread dialect)
  | .value v => fun _ => .ok (.bind v)
  | .expression terms => fun before =>
    (Term.threadsList dialect terms before).map fun _ _ _ h => h.join " "

theorem Insert.threads_row (dialect : Dialect) (row : List Written) :
    Threads dialect (renderRow dialect row) (threadRow dialect row) := fun before =>
  (ThreadsList.mapM (Written.threads dialect) row before).map fun _ _ _ h => (h.join ", ").parens

theorem Insert.threads (dialect : Dialect) (insert : Insert) :
    Threads dialect (insert.render dialect) (insert.thread dialect) := by
  unfold render thread
  cases insert.problem? with
  | some problem => exact fun before => .error _ before
  | none =>
    exact fun before => (ThreadsList.mapM (threads_row dialect) insert.rows before).map
      fun _ _ _ h => (Placed.literal _).append (h.join ", ")

theorem Update.threads_assignment (dialect : Dialect) (assignment : String × Written) :
    Threads dialect (renderAssignment dialect assignment) (threadAssignment dialect assignment) :=
  fun before => (assignment.2.threads dialect before).map fun _ _ _ h => h.cons _

theorem Update.threads (dialect : Dialect) (update : Update) :
    Threads dialect (update.render dialect) (update.thread dialect) := by
  unfold render thread
  cases update.query.tables.isEmpty with
  | true => exact fun before => .error _ before
  | false =>
    cases update.assignments.isEmpty with
    | true => exact fun before => .error _ before
    | false =>
      intro before
      refine (ThreadsList.mapM (threads_assignment dialect) update.assignments before).bind
        fun assignments texts middle ha => ?_
      exact (ConditionTree.threads_clause dialect update.query.wheres middle).map
        fun _ _ _ hw => ((Placed.literal _).append (ha.join ", ")).append hw

theorem Delete.threads_targets (dialect : Dialect) (delete : Delete) (table : TableRef)
    (before : Parameters) :
    EndsLike (fun a b after => b = a ∧ after = before) (delete.renderTargets dialect table)
      (delete.threadTargets dialect table before) := by
  unfold renderTargets threadTargets
  cases delete.namesTargets with
  | false => exact .ok ⟨rfl, rfl⟩
  | true => exact (EndsLike.ofResult _ before).map fun _ _ _ h => ⟨congrArg (· ++ " ") h.1, h.2⟩

theorem Delete.threads (dialect : Dialect) (delete : Delete) :
    Threads dialect (delete.render dialect) (delete.thread dialect) := by
  cases htables : delete.query.tables with
  | nil =>
    unfold render thread
    rw [htables]
    exact fun before => .error _ before
  | cons table rest =>
    intro before
    rw [render_eq htables, thread, htables]
    refine (delete.threads_targets dialect table before).bind ?_
    rintro targets _ middle ⟨rfl, rfl⟩
    exact (ConditionTree.threads_clause dialect delete.query.wheres middle).map
      fun _ _ _ hw => (Placed.literal _).append hw

theorem RowStatement.threads (dialect : Dialect) (s : RowStatement) :
    Threads dialect (s.render dialect) (s.thread dialect) := by
  cases s with
  | select q => exact q.threads dialect
  | insert i => exact i.threads dialect
  | update u => exact u.threads dialect
  | delete d => exact d.threads dialect

/-- Every statement is compiled to the same text and parameters with its parameters threaded
through, and fails in the same error. -/
theorem RowStatement.compile_thread (dialect : Dialect) (s : RowStatement) :
    (s.thread dialect).compile = s.compile dialect := by
  rw [(s.threads dialect).compile_eq, s.compile_eq_map_render]

namespace Query

theorem compile_eq_ok_iff {dialect : Dialect} {query : Query} {compiled : Compiled} :
    query.compile dialect = .ok compiled ↔
      ∃ sql, query.render dialect = .ok sql ∧ compiled = sql.compile dialect :=
  map_eq_ok_iff

/-- Behind parameters that are in step, a query is rendered exactly if it compiles by itself. Then
its parameters are bound behind those that are there, which stay in step, and its text is the one
that it compiles to but for the numbers of the placeholders: they go on where the others ended. -/
theorem rendered_alike_in_context (dialect : Dialect) (query : Query) {before : Parameters}
    (h : before.InStep) :
    ((∃ text after, query.thread dialect before = .ok text after) ↔
      ∃ compiled, query.compile dialect = .ok compiled) ∧
    ∀ text after, query.thread dialect before = .ok text after →
      ∃ compiled, query.compile dialect = .ok compiled ∧
        after.values = before.values ++ compiled.params ∧ after.InStep ∧
        (∃ template : Template, template.gaps = compiled.params.length ∧
          compiled.sql = template.fill (dialect.placeholders 1 compiled.params.length) ∧
          text = template.fill
            (dialect.placeholders (before.values.length + 1) compiled.params.length) ∧
          ∀ ofValue : Value → String,
            template.fill (compiled.params.map ofValue) = query.inPlace dialect ofValue) ∧
        (dialect = .mysql ∨ dialect = .sqlite → text = compiled.sql) := by
  have hthreads := Query.threads dialect query before
  constructor
  · rw [hthreads.isOk_iff]
    constructor
    · rintro ⟨sql, hsql⟩
      exact ⟨sql.compile dialect, compile_eq_ok_iff.mpr ⟨sql, hsql, rfl⟩⟩
    · rintro ⟨compiled, hcompiled⟩
      obtain ⟨sql, hsql, -⟩ := compile_eq_ok_iff.mp hcompiled
      exact ⟨sql, hsql⟩
  · intro text after hok
    obtain ⟨sql, hsql, rfl, rfl⟩ := hthreads.good_of_eq_ok hok
    refine ⟨sql.compile dialect, compile_eq_ok_iff.mpr ⟨sql, hsql, rfl⟩, rfl, h.extend sql.values,
      ⟨sql.template, sql.gaps_template, (sql.fill_placeholders dialect 1).symm, ?_,
        fun ofValue => ?_⟩, fun hsigns => Sql.write_eq_of_signs hsigns sql _ _⟩
    · have hindex : before.index = before.values.length := h
      rw [hindex]
      exact (sql.fill_placeholders dialect _).symm
    · exact (sql.fill_values ofValue).trans
        (((Query.renders dialect query).good_of_eq_ok hsql).spell_eq ofValue)

/-- A query with a bound pattern, an empty list and a subquery, behind two parameters. -/
theorem rendered_alike_in_context_of_subquery :
    let before : Parameters := ⟨2, [.int 7, .int 8]⟩
    let inner : Query :=
      { tables := [⟨"v", none⟩], wheres := [(.and, .test ⟨.column "a", .eq, .value (.int 1)⟩)] }
    let query : Query :=
      { tables := [⟨"t", none⟩]
        columns := [⟨[.call ⟨.scalar (.format "%d"), ["n"], false⟩], none⟩]
        wheres := [(.and, .test ⟨.expression [.value (.int 9)], .isIn, .list []⟩),
          (.or, .test ⟨.column "id", .isIn, .subquery inner⟩)] }
    before.InStep ∧ ∃ text after compiled,
      query.thread .postgres before = .ok text after ∧
      text = "SELECT to_char(n, $3) FROM t WHERE 1 = 0 OR id IN (SELECT * FROM v WHERE a = $4)" ∧
      query.compile .postgres = .ok compiled ∧
      compiled.sql =
        "SELECT to_char(n, $1) FROM t WHERE 1 = 0 OR id IN (SELECT * FROM v WHERE a = $2)" ∧
      after.values = before.values ++ compiled.params ∧ after.InStep := by
  intro before inner query
  have hstep : before.InStep := rfl
  obtain ⟨text, after, hok, htext⟩ : ∃ text after, query.thread .postgres before = .ok text after ∧
      text = "SELECT to_char(n, $3) FROM t WHERE 1 = 0 OR id IN (SELECT * FROM v WHERE a = $4)" :=
    ⟨_, _, rfl, by decide +kernel⟩
  obtain ⟨compiled, hcompiled, hsql⟩ : ∃ compiled, query.compile .postgres = .ok compiled ∧
      compiled.sql =
        "SELECT to_char(n, $1) FROM t WHERE 1 = 0 OR id IN (SELECT * FROM v WHERE a = $2)" :=
    ⟨_, rfl, by decide +kernel⟩
  obtain ⟨compiled', hcompiled', hvalues, hafter, -⟩ :=
    (rendered_alike_in_context .postgres query hstep).2 text after hok
  cases hcompiled.symm.trans hcompiled'
  exact ⟨hstep, text, after, compiled, hok, htext, hcompiled, hsql, hvalues, hafter⟩

end Query

end SqlDialects
