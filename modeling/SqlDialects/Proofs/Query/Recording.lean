import SqlDialects.Query.Nested
import SqlDialects.Query.Recording
import SqlDialects.Query.Render

/-! Calls that build a query. Each call writes to one clause, so calls on different clauses commute,
and a query depends on the calls on each of its clauses alone and not on how they are interleaved.
Inside a condition the same calls build the same query, and inside a group the same conditions. -/

namespace SqlDialects

/-- The clauses of a query. -/
inductive QueryPart where
  | tables
  | columns
  | joins
  | wheres
  | groupBy
  | having
  | orderBy
  | limit
  | offset
  | distinct
  | into
deriving DecidableEq, Repr

/-- The clause that an addition goes to. -/
def Clause.part : Clause → QueryPart
  | table _ => .tables
  | columns _ => .columns
  | join _ => .joins
  | filter _ _ => .wheres
  | groupBy _ => .groupBy
  | having _ _ => .having
  | orderBy _ _ _ => .orderBy
  | limit _ => .limit
  | offset _ => .offset
  | distinct => .distinct
  | into _ => .into

/-- Additions to different clauses commute. -/
theorem Query.add_comm {first second : Clause} (h : first.part ≠ second.part) (query : Query) :
    (query.add first).add second = (query.add second).add first := by
  cases first <;> cases second <;> first | rfl | exact absurd rfl h

namespace QueryCall

/-- The clause that a call is about, by the family of its name. -/
def part : QueryCall → QueryPart
  | fromTable _ => .tables
  | columns _ => .columns
  | filter _ _ | andFilter _ _ | orFilter _ _ => .wheres
  | filterExpression _ _ | orFilterExpression _ _ => .wheres
  | filterGroup _ | orFilterGroup _ => .wheres
  | filterExists _ | orFilterExists _ | filterNotExists _ | orFilterNotExists _ => .wheres
  | join _ _ | leftJoin _ _ | rightJoin _ _ | fullJoin _ _ | crossJoin _ => .joins
  | groupBy _ => .groupBy
  | having _ _ _ _ | orHaving _ _ _ _ => .having
  | havingExpression _ _ | orHavingExpression _ _ => .having
  | havingGroup _ | orHavingGroup _ => .having
  | orderBy _ | orderByDescending _ | orderByWith _ _ _ => .orderBy
  | limit _ => .limit
  | offset _ => .offset
  | distinct => .distinct
  | selectInto _ _ => .into

/-- A call writes to the clause that it is about. -/
theorem part_clause (call : QueryCall) : call.clause.part = call.part := by
  cases call <;> rfl

/-- Whether two scripts have the same calls on each clause, in the same order. -/
def SameParts (first second : List QueryCall) : Prop :=
  ∀ part, first.filter (fun call => call.part = part) = second.filter fun call => call.part = part

namespace SameParts

variable {call : QueryCall} {rest second : List QueryCall}

theorem eq_nil (h : SameParts [] second) : second = [] := by
  cases second with
  | nil => rfl
  | cons call rest =>
    have hcall := h call.part
    rw [List.filter_cons_of_pos (by simp)] at hcall
    cases hcall

/-- The first call of one script stands in the other one behind calls on other clauses. Without it
the scripts still have the same calls on each clause. -/
theorem exists_of_cons (h : SameParts (call :: rest) second) :
    ∃ before after, second = before ++ call :: after ∧
      (∀ earlier ∈ before, earlier.part ≠ call.part) ∧ SameParts rest (before ++ after) := by
  have hcall := h call.part
  rw [List.filter_cons_of_pos (by simp)] at hcall
  obtain ⟨before, after, rfl, hbefore, -, hafter⟩ := List.filter_eq_cons_iff.1 hcall.symm
  have hne : ∀ earlier ∈ before, earlier.part ≠ call.part := by simpa using hbefore
  refine ⟨before, after, rfl, hne, fun part => ?_⟩
  by_cases hpart : call.part = part
  · have hnone : before.filter (fun earlier => earlier.part = part) = [] := by
      subst hpart
      simpa using hbefore
    subst hpart
    rw [List.filter_append, hnone, List.nil_append, hafter]
  · have hother := h part
    rw [List.filter_cons_of_neg (by simpa using hpart), List.filter_append,
      List.filter_cons_of_neg (by simpa using hpart)] at hother
    rw [hother, List.filter_append]

end SameParts

end QueryCall

namespace Query

open QueryCall

theorem record_comm {first second : QueryCall} (h : first.part ≠ second.part) (query : Query) :
    (query.record first).record second = (query.record second).record first :=
  add_comm (by rwa [part_clause, part_clause]) query

/-- A call comes before calls on other clauses as well as behind them. -/
theorem recordAll_move_front {before : List QueryCall} {call : QueryCall} (after : List QueryCall)
    (h : ∀ earlier ∈ before, earlier.part ≠ call.part) (query : Query) :
    query.recordAll (before ++ call :: after) =
      (query.record call).recordAll (before ++ after) := by
  induction before generalizing query with
  | nil => rfl
  | cons earlier before ih =>
    obtain ⟨hearlier, hbefore⟩ := List.forall_mem_cons.1 h
    calc query.recordAll (earlier :: before ++ call :: after)
        = (query.record earlier).recordAll (before ++ call :: after) := rfl
      _ = ((query.record earlier).record call).recordAll (before ++ after) := ih hbefore _
      _ = ((query.record call).record earlier).recordAll (before ++ after) := by
        rw [record_comm hearlier]
      _ = (query.record call).recordAll (earlier :: before ++ after) := rfl

theorem recordAll_congr {first second : List QueryCall} (h : SameParts first second)
    (query : Query) : query.recordAll first = query.recordAll second := by
  induction first generalizing second query with
  | nil => rw [h.eq_nil]
  | cons call rest ih =>
    obtain ⟨before, after, rfl, hbefore, hrest⟩ := h.exists_of_cons
    calc query.recordAll (call :: rest)
        = (query.record call).recordAll rest := rfl
      _ = (query.record call).recordAll (before ++ after) := ih hrest _
      _ = query.recordAll (before ++ call :: after) := (recordAll_move_front after hbefore _).symm

end Query

/-- The call of the same name while a query is built that will be run. -/
def GroupCall.outside : GroupCall → QueryCall
  | filter column predicate => .filter column predicate
  | andFilter column predicate => .andFilter column predicate
  | orFilter column predicate => .orFilter column predicate
  | filterExpression terms predicate => .filterExpression terms predicate
  | orFilterExpression terms predicate => .orFilterExpression terms predicate
  | filterGroup items => .filterGroup items
  | orFilterGroup items => .orFilterGroup items
  | filterExists query => .filterExists query
  | orFilterExists query => .orFilterExists query
  | filterNotExists query => .filterNotExists query
  | orFilterNotExists query => .orFilterNotExists query
  | having column function unique predicate => .having column function unique predicate
  | orHaving column function unique predicate => .orHaving column function unique predicate

/-- Whether the condition is on an aggregate. -/
def GroupCall.isHaving (call : GroupCall) : Bool := call.outside.part = .having

theorem ConditionTree.ofCalls_eq (calls : List GroupCall) :
    ofCalls calls = calls.map GroupCall.item := by
  rw [ofCalls, List.foldl_append_eq_append, List.nil_append, ← List.flatMap_def,
    ← List.map_eq_flatMap]

namespace Query

/-- A query takes the item of the call into the clause for conditions of its kind. -/
theorem record_outside (query : Query) (call : GroupCall) :
    query.record call.outside =
      if call.isHaving then { query with having := query.having ++ [call.item] }
      else { query with wheres := query.wheres ++ [call.item] } := by
  cases call <;> rfl

/-- The calls of a group on a query. It gets what groups of the same calls have, with the conditions
on aggregates apart from the others. -/
theorem recordAll_outside (query : Query) (calls : List GroupCall) :
    query.recordAll (calls.map GroupCall.outside) =
      { query with
        wheres := query.wheres ++ ConditionTree.ofCalls (calls.filter fun call => !call.isHaving)
        having := query.having ++ ConditionTree.ofCalls (calls.filter GroupCall.isHaving) } := by
  simp only [ConditionTree.ofCalls_eq]
  induction calls generalizing query with
  | nil =>
    simp only [List.filter_nil, List.map_nil, List.append_nil]
    cases query
    rfl
  | cons call rest ih =>
    calc query.recordAll ((call :: rest).map GroupCall.outside)
        = (query.record call.outside).recordAll (rest.map GroupCall.outside) := rfl
      _ = _ := by
        rw [ih, record_outside]
        cases hkind : call.isHaving <;> simp [hkind]

end Query

/-- The call of the same name while a query is built that will be run, if there is one. -/
def SubqueryCall.outside? : SubqueryCall → Option QueryCall
  | fromTable table => some (.fromTable table)
  | fromLabelled _ _ | columnExpression _ => none
  | columns projections => some (.columns projections)
  | filter column predicate => some (.filter column predicate)
  | andFilter column predicate => some (.andFilter column predicate)
  | orFilter column predicate => some (.orFilter column predicate)
  | filterExpression terms predicate => some (.filterExpression terms predicate)
  | filterGroup items => some (.filterGroup items)
  | orFilterGroup items => some (.orFilterGroup items)
  | filterExists query => some (.filterExists query)
  | filterNotExists query => some (.filterNotExists query)
  | join table on => some (.join table on)
  | leftJoin table on => some (.leftJoin table on)
  | rightJoin table on => some (.rightJoin table on)
  | crossJoin table => some (.crossJoin table)
  | groupBy names => some (.groupBy names)
  | having column function unique predicate => some (.having column function unique predicate)
  | orHaving column function unique predicate => some (.orHaving column function unique predicate)
  | havingExpression terms predicate => some (.havingExpression terms predicate)
  | orHavingExpression terms predicate => some (.orHavingExpression terms predicate)
  | havingGroup items => some (.havingGroup items)
  | orderBy column => some (.orderBy [column])
  | orderByDescending column => some (.orderByDescending [column])
  | limit count => some (.limit count)
  | offset count => some (.offset count)
  | distinct => some .distinct

namespace Query

open QueryCall

theorem recordInside_eq {inner : SubqueryCall} {outer : QueryCall}
    (h : inner.outside? = some outer) (query : Query) :
    query.recordInside inner = query.record outer := by
  cases inner <;> cases h <;> rfl

theorem foldl_recordInside_eq {inner : List SubqueryCall} {outer : List QueryCall}
    (h : inner.map SubqueryCall.outside? = outer.map some) (query : Query) :
    inner.foldl recordInside query = query.recordAll outer := by
  induction inner generalizing outer query with
  | nil =>
    cases outer with
    | nil => rfl
    | cons call rest => cases h
  | cons call rest ih =>
    cases outer with
    | nil => cases h
    | cons other others =>
      obtain ⟨hcall, hrest⟩ := List.cons.inj h
      rw [List.foldl_cons, recordInside_eq hcall, ih hrest]
      rfl

/-- Two scripts that have the same calls on each clause build the same query, however they are
interleaved, and it compiles to the same statements. A script of calls that are offered inside
conditions as well builds the same query there, from the same table. -/
theorem calls_on_clauses_commute :
    (∀ (query : Query) (first second : List QueryCall), SameParts first second →
      query.recordAll first = query.recordAll second ∧ ∀ dialect,
        (query.recordAll first).compile dialect = (query.recordAll second).compile dialect) ∧
    ∀ (table : TableRef) (inner : List SubqueryCall) (outer : List QueryCall),
      inner.map SubqueryCall.outside? = outer.map some →
        ofSubqueryCalls (.fromTable table :: inner) = (ofTable table).recordAll outer := by
  refine ⟨fun query first second h => ?_, fun table inner outer h => ?_⟩
  · have heq := recordAll_congr h query
    exact ⟨heq, fun dialect => by rw [heq]⟩
  · exact foldl_recordInside_eq h (ofTable table)

/-- The last of two limits counts and the conditions keep their order, here and inside a
condition. -/
theorem calls_on_clauses_commute_of_limits :
    let named := Predicate.withValue .eq (.string "x")
    let young := Predicate.withValue .lt (.int 3)
    let first : List QueryCall := [.filter "name" named, .limit 5, .orFilter "age" young,
      .orderByDescending ["b"], .limit 3]
    let second : List QueryCall := [.limit 5, .orderByDescending ["b"], .filter "name" named,
      .limit 3, .orFilter "age" young]
    let inner : List SubqueryCall := [.filter "name" named, .limit 5, .orFilter "age" young,
      .orderByDescending "b", .limit 3]
    SameParts first second ∧ inner.map SubqueryCall.outside? = first.map some ∧
      ((ofTable ⟨"t", none⟩).recordAll second).compile .mysql =
        .ok ⟨"SELECT * FROM t WHERE name = ? OR age < ? ORDER BY b DESC LIMIT 3",
          [.string "x", .int 3]⟩ ∧
      ofSubqueryCalls (.fromTable ⟨"t", none⟩ :: inner) =
        (ofTable ⟨"t", none⟩).recordAll second := by
  intro named young first second inner
  have hparts : SameParts first second := by
    intro part
    cases part <;> rfl
  have hinner : inner.map SubqueryCall.outside? = first.map some := rfl
  have hcommute := (calls_on_clauses_commute.1 (ofTable ⟨"t", none⟩) first second hparts).1
  refine ⟨hparts, hinner, by rfl, ?_⟩
  exact (calls_on_clauses_commute.2 ⟨"t", none⟩ inner first hinner).trans hcommute

end Query

end SqlDialects
