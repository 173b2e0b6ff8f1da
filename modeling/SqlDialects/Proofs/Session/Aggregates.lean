import SqlDialects.Proofs.Query.Pagination
import SqlDialects.Proofs.Session.Prefix
import SqlDialects.Session.Rehearsal

/-! Aggregates of queries that are cut. The result of an aggregate is a single row, and the limit
and the offset of the query are sent with it: they cut this row, not the rows that are aggregated.
A count whose row is cut off is zero. -/

namespace SqlDialects

namespace ResultClause

/-- Whether a clause cuts off the first row. -/
def cutsFirst : ResultClause → Bool
  | page (.offset n) | page (.offsetRows n) => n != 0
  | page (.limit n) | page (.top n) | page (.fetchNext n) => n == 0
  | _ => false

theorem forall_mem_ofClosing_iff {dialect : Dialect} {items : List OrderItem}
    {pages : List PageClause} :
    (∀ clause ∈ ofClosing dialect items pages, clause.cutsFirst = false) ↔
      ∀ clause ∈ pages.map page, clause.cutsFirst = false := by
  rw [ofClosing, List.forall_mem_append]
  refine and_iff_right fun clause hmem => ?_
  split at hmem
  · cases hmem
  · cases List.mem_singleton.1 hmem
    rfl

end ResultClause

namespace Query

/-- Whether the limit and the offset of a query leave its first row. -/
def LeavesFirst (query : Query) : Prop :=
  query.limit ≠ some 0 ∧ (query.offset = none ∨ query.offset = some 0)

instance (query : Query) : Decidable query.LeavesFirst :=
  inferInstanceAs (Decidable (query.limit ≠ some 0 ∧ (query.offset = none ∨ query.offset = some 0)))

theorem leavesFirst_iff (query : Query) :
    query.LeavesFirst ↔
      query.limit.map UInt64.toNat ≠ some 0 ∧ query.offset.elim 0 UInt64.toNat = 0 := by
  have hzero (n : UInt64) : n.toNat = 0 ↔ n = 0 := UInt64.toNat_inj (b := 0)
  unfold LeavesFirst
  cases query.limit <;> cases query.offset <;> simp [hzero]

/-- The rows that the limit and the offset of a query leave. -/
def cut (dialect : Dialect) (query : Query) (rows : List Row) : List Row :=
  (Pagination.window dialect query.limit query.offset).rows rows

theorem cut_singleton (dialect : Dialect) (query : Query) (row : Row) :
    query.cut dialect [row] = if query.LeavesFirst then [row] else [] := by
  have hlength : [row].length < UInt64.size := by
    rw [List.length_singleton]
    decide
  have hcut : query.cut dialect [row] = Pagination.asked query.limit query.offset [row] :=
    Pagination.rows_window hlength
  have hdrop (m : Nat) : [row].drop m = if m = 0 then [row] else [] := by cases m <;> simp
  rw [hcut, Pagination.asked, hdrop]
  simp only [leavesFirst_iff]
  by_cases hoffset : query.offset.elim 0 UInt64.toNat = 0
  · cases query.limit with
    | none => simp [hoffset]
    | some n =>
      have htake : [row].take n.toNat = if n.toNat = 0 then [] else [row] := by
        cases n.toNat <;> simp
      simp [hoffset, htake]
  · cases query.limit <;> simp [hoffset]

/-- The clauses in front of the columns. -/
def heads (dialect : Dialect) (query : Query) : List ResultClause :=
  (Pagination.head dialect query.limit query.offset).map .page

/-- The clauses at the end. -/
def tails (dialect : Dialect) (query : Query) : List ResultClause :=
  ResultClause.ofClosing dialect query.orderBy
    (Pagination.tail dialect query.limit query.offset (!query.orderBy.isEmpty))

theorem cutsFirst_iff (dialect : Dialect) (query : Query) :
    (∀ clause ∈ query.heads dialect ++ query.tails dialect, clause.cutsFirst = false) ↔
      query.LeavesFirst := by
  rw [leavesFirst_iff, List.forall_mem_append, heads, tails, ResultClause.forall_mem_ofClosing_iff]
  generalize (!query.orderBy.isEmpty) = ordered
  cases dialect <;> cases query.limit <;> cases query.offset <;> cases ordered <;>
    simp [Pagination.head, Pagination.tail, Pagination.limitOr, Pagination.plainOffset,
      ResultClause.cutsFirst, and_comm]

/-- The clauses at the ends of a query say what is cut. -/
theorem ofClauses?_ends (dialect : Dialect) (query : Query) :
    Window.ofClauses? dialect (query.heads dialect) (query.tails dialect) =
      some (Pagination.window dialect query.limit query.offset) := by
  rw [← Pagination.ofClauses?_head_tail (!query.orderBy.isEmpty), heads, tails,
    ResultClause.ofClosing]
  split
  · rfl
  · rfl

end Query

namespace Terminal

variable {α : Type}

/-- The query and the call of an aggregate. -/
def aggregated? : Terminal α → Option (Query × Call)
  | count query names distinct => some (query, Call.count names distinct)
  | aggregate query function name distinct => some (query, Call.ofAggregate function name distinct)
  | _ => none

theorem of_aggregated? (dialect : Dialect) {terminal : Terminal α} {query : Query} {call : Call}
    (h : terminal.aggregated? = some (query, call)) :
    terminal.compile dialect = (query.aggregateOf call).compile dialect ∧
      terminal.request = Request.fetch := by
  cases terminal <;> cases h <;> exact ⟨rfl, rfl⟩

theorem result_count {σ : Type} {dialect : Dialect} {database : Database σ} {state : σ}
    {query : Query} {names : List String} {distinct : Bool} {compiled : Compiled} {rows : List Row}
    {after : σ} (hcompile : (count query names distinct).compile dialect = .ok compiled)
    (hrows : (database.fetch compiled).run.run state = (.ok rows, after)) :
    (((count query names distinct).execute dialect).transcript database state).result =
      countOfCell (scalar? rows) := by
  have hsend : (count query names distinct).send compiled =
      .fetch compiled fun rows => .done (countOfCell (scalar? rows)) := rfl
  rw [execute_eq, Session.transcript_ofExcept_bind, hcompile]
  simp only [hsend, Session.transcript_fetch, hrows, Transcript.ofReply, Transcript.andThen]
  rfl

/-- The statement of an aggregate has the limit and the offset of its query. Its single row is kept
exactly if they leave the first row; a count is zero where it is not. -/
theorem aggregate_row_kept_iff {σ : Type} (dialect : Dialect) (database : Database σ) (state : σ) :
    (∀ {α : Type} (terminal : Terminal α) (query : Query) (call : Call) (compiled : Compiled),
      terminal.aggregated? = some (query, call) → terminal.compile dialect = .ok compiled →
      ((terminal.execute dialect).transcript database state).Asks (.fetch compiled) ∧
      ∃ sql heads tails, compiled = Sql.compile dialect sql ∧
        (query.aggregateOf call).ReadsAs dialect sql heads tails ∧
        Window.ofClauses? dialect heads tails =
          some (Pagination.window dialect query.limit query.offset) ∧
        ((∀ clause ∈ heads ++ tails, clause.cutsFirst = false) ↔ query.LeavesFirst)) ∧
    ∀ (query : Query) (row : Row),
      query.cut dialect [row] = (if query.LeavesFirst then [row] else []) ∧
      ∀ names distinct compiled after,
        (count query names distinct).compile dialect = .ok compiled →
        (database.fetch compiled).run.run state = (.ok (query.cut dialect [row]), after) →
        (((count query names distinct).execute dialect).transcript database state).result =
          if query.LeavesFirst then countOfCell (scalar? [row]) else .ok 0 := by
  constructor
  · intro α terminal query call compiled hterminal hcompile
    obtain ⟨hquery, hrequest⟩ := of_aggregated? dialect hterminal
    constructor
    · have hcompiles := terminal.compilesFirst dialect database state
      simpa only [CompilesFirst, hcompile, hrequest] using hcompiles
    · rw [hquery] at hcompile
      obtain ⟨sql, hrender, hsql⟩ := bind_eq_ok_iff.1 hcompile
      cases hsql
      exact ⟨sql, _, _, rfl, Query.readsAs_of_render hrender, Query.ofClauses?_ends dialect query,
        Query.cutsFirst_iff dialect query⟩
  · intro query row
    refine ⟨query.cut_singleton dialect row, ?_⟩
    intro names distinct compiled after hcompile hrows
    rw [result_count hcompile hrows, query.cut_singleton dialect row]
    split
    · rfl
    · rfl

/-- A limit that leaves the first row. -/
theorem aggregate_row_kept_of_limit :
    let query : Query := { tables := [⟨"t", none⟩], limit := some 5 }
    let row : Row := ⟨["aggregate"], [.int 3]⟩
    let state : Rehearsal := { responses := [[row]] }
    let t := ((count query ["id"] false).execute .postgres).transcript Rehearsal.database state
    t.Asks (.fetch (Compiled.plain "SELECT COUNT(id) AS aggregate FROM t LIMIT 5")) ∧
      t.result = .ok 3 := by
  intro query row state t
  obtain ⟨hsent, hcount⟩ := aggregate_row_kept_iff .postgres Rehearsal.database state
  have hcompile : (count query ["id"] false).compile .postgres =
      .ok (Compiled.plain "SELECT COUNT(id) AS aggregate FROM t LIMIT 5") := by rfl
  refine ⟨(hsent _ query (Call.count ["id"] false) _ rfl hcompile).1, ?_⟩
  exact (hcount query row).2 ["id"] false _ _ hcompile (by rfl)

/-- An offset skips the row of a count, which is zero then. -/
theorem count_zero_of_offset :
    let query : Query := { tables := [⟨"t", none⟩], offset := some 1 }
    let row : Row := ⟨["aggregate"], [.int 3]⟩
    let state : Rehearsal := { responses := [query.cut .mysql [row]] }
    let t := ((count query ["id"] false).execute .mysql).transcript Rehearsal.database state
    t.exchanges = [Request.accepted (.fetch (Compiled.plain
        "SELECT COUNT(id) AS aggregate FROM t LIMIT 18446744073709551615 OFFSET 1"))] ∧
      query.cut .mysql [row] = [] ∧
      countOfCell (scalar? [row]) = .ok 3 ∧
      t.result = .ok 0 := by
  exact ⟨by rfl, by rfl, by rfl, by rfl⟩

end Terminal

end SqlDialects
