import SqlDialects.Proofs.Query.Ends

/-! Pages. Every dialect has forms of its own for the clauses that keep some rows of a result, and
what is kept is read off these forms alone: a limit that is no number, an offset without a limit or
one beside a limit at the head of a query is no page where the dialect does not know it. Read this
way the texts for a limit and an offset keep the same rows in every dialect. -/

namespace SqlDialects

/-- The rows of a result that are kept: those after the first `skip`, `count` of them at most. -/
structure Window where
  skip : Nat
  count : Option Nat
deriving DecidableEq, Repr

namespace ResultClause

/-- Whether a clause sorts, by columns or by a constant. -/
def sorts : ResultClause → Bool
  | sort _ => true
  | page .sortByConstant => true
  | page _ => false

def isTop : ResultClause → Bool
  | page (.top _) => true
  | _ => false

def isOffset : ResultClause → Bool
  | page (.offset _) => true
  | page (.offsetRows _) => true
  | _ => false

theorem isTop_of_sorts {clause : ResultClause} (h : clause.sorts = true) :
    clause.isTop = false := by
  fun_cases sorts clause <;> simp_all [isTop, sorts]

theorem isOffset_of_sorts {clause : ResultClause} (h : clause.sorts = true) :
    clause.isOffset = false := by
  fun_cases sorts clause <;> simp_all [isOffset, sorts]

end ResultClause

namespace Window

def rows (window : Window) (rows : List α) : List α :=
  match window.count with
  | none => rows.drop window.skip
  | some count => (rows.drop window.skip).take count

/-- What a dialect keeps for the clauses `heads` in front of the columns and `tails` at the end, if
it knows this form of clauses. A sort in front of the others leaves all rows. -/
def ofClauses? (dialect : Dialect) (heads tails : List ResultClause) : Option Window :=
  match dialect, heads, tails.dropWhile ResultClause.sorts with
  | _, [], [] => some ⟨0, none⟩
  | .sqlServer, [.page (.top n)], [] => some ⟨0, some n⟩
  | .sqlServer, [], [.page (.offsetRows m)] => some ⟨m, none⟩
  | .sqlServer, [], [.page (.offsetRows m), .page (.fetchNext n)] => some ⟨m, some n⟩
  | .sqlServer, _, _ => none
  | _, [], [.page (.limit n)] => some ⟨0, some n⟩
  | _, [], [.page (.limit n), .page (.offset m)] => some ⟨m, some n⟩
  | .postgres, [], [.page (.offset m)] => some ⟨m, none⟩
  | .sqlite, [], [.page .unlimited] => some ⟨0, none⟩
  | .sqlite, [], [.page .unlimited, .page (.offset m)] => some ⟨m, none⟩
  | _, _, _ => none

/-- What a dialect keeps for the texts in front of the columns and at the end of a query. -/
def ofTexts? (dialect : Dialect) (head tail : String) : Option Window := do
  let heads ← ResultClause.listOf? dialect head
  let tails ← ResultClause.listOf? dialect tail
  ofClauses? dialect heads tails

end Window

namespace Pagination

/-- The rows that are asked for: without the first ones, and no more than the limit. -/
def asked (limit offset : Option UInt64) (rows : List α) : List α :=
  let left := rows.drop (offset.elim 0 UInt64.toNat)
  limit.elim left fun n => left.take n.toNat

/-- What the clauses for a limit and an offset say. Only one dialect has to put a number where
there is no limit. -/
def window (dialect : Dialect) (limit offset : Option UInt64) : Window where
  skip := offset.elim 0 UInt64.toNat
  count :=
    match dialect, limit, offset with
    | .mysql, none, some _ => some (UInt64.size - 1)
    | _, _, _ => limit.map UInt64.toNat

variable {dialect : Dialect} {limit offset : Option UInt64}

theorem ofClauses?_head_tail (ordered : Bool) :
    Window.ofClauses? dialect ((head dialect limit offset).map .page)
      ((tail dialect limit offset ordered).map .page) = some (window dialect limit offset) := by
  cases dialect <;> cases limit <;> cases offset <;> cases ordered <;> rfl

theorem rows_window {rows : List α} (h : rows.length < UInt64.size) :
    (window dialect limit offset).rows rows = asked limit offset rows := by
  cases limit with
  | some n => cases dialect <;> rfl
  | none =>
    cases offset with
    | none => cases dialect <;> rfl
    | some m =>
      cases dialect with
      | mysql =>
        have hlength : (rows.drop m.toNat).length ≤ UInt64.size - 1 := by
          rw [List.length_drop]
          omega
        exact List.take_of_length_le hlength
      | _ => rfl

theorem ofTexts?_eq (dialect : Dialect) (limit offset : Option UInt64) (ordered : Bool) :
    Window.ofTexts? dialect (headText dialect limit offset)
      (tailText dialect limit offset ordered) = some (window dialect limit offset) := by
  have htail : ResultClause.listOf? dialect (tailText dialect limit offset ordered) =
      some ((tail dialect limit offset ordered).map .page) := by
    have hread : ResultClause.listOf? dialect
        (Sorting.text dialect [] ++ tailText dialect limit offset ordered) = _ :=
      ResultClause.listOf?_closing dialect [] top_not_mem_tail
    rwa [Sorting.text, String.empty_append] at hread
  simp only [Window.ofTexts?, ResultClause.listOf?_headText, htail]
  exact ofClauses?_head_tail ordered

section SqlServer

/-! The clauses of a query on SQL Server. -/

variable (items : List OrderItem) (limit : Option UInt64)

/-- Without an offset the end of a query holds a sort at most. -/
theorem isOffset_of_mem_ofClosing_none {clause : ResultClause}
    (h : clause ∈ ResultClause.ofClosing .sqlServer items
      (tail .sqlServer limit none (!items.isEmpty))) : clause.isOffset = false := by
  simp only [ResultClause.ofClosing, tail, List.map_nil, List.append_nil] at h
  split at h
  · cases h
  · obtain rfl := List.mem_singleton.mp h
    rfl

/-- With an offset it is a sort, the offset and then the limit. -/
theorem exists_ofClosing_some (m : UInt64) :
    ∃ sort, sort.sorts = true ∧
      ResultClause.ofClosing .sqlServer items (tail .sqlServer limit (some m) (!items.isEmpty)) =
        sort :: .page (.offsetRows m.toNat) ::
          (limit.toList.map fun n => .page (.fetchNext n.toNat)) := by
  cases items with
  | nil => exact ⟨.page .sortByConstant, rfl, by cases limit <;> rfl⟩
  | cons item others => exact ⟨.sort _, rfl, by cases limit <;> rfl⟩

theorem not_top_and_offset (offset : Option UInt64) :
    let clauses := (head .sqlServer limit offset).map .page ++
      ResultClause.ofClosing .sqlServer items (tail .sqlServer limit offset (!items.isEmpty))
    (∀ clause ∈ clauses, clause.isTop = false) ∨ ∀ clause ∈ clauses, clause.isOffset = false := by
  cases offset with
  | none =>
    refine .inr (List.forall_mem_append.mpr
      ⟨?_, fun _ => isOffset_of_mem_ofClosing_none items limit⟩)
    cases limit with
    | none => exact List.forall_mem_nil _
    | some n => exact List.forall_mem_singleton.mpr rfl
  | some m =>
    obtain ⟨sort, hsort, hclauses⟩ := exists_ofClosing_some items limit m
    have hhead : head .sqlServer limit (some m) = [] := by cases limit <;> rfl
    have hfetch : ∀ clause ∈ limit.toList.map fun n => ResultClause.page (.fetchNext n.toNat),
        clause.isTop = false := List.forall_mem_map.mpr fun _ _ => rfl
    rw [hclauses, hhead, List.map_nil, List.nil_append]
    exact .inl (List.forall_mem_cons.mpr ⟨ResultClause.isTop_of_sorts hsort,
      List.forall_mem_cons.mpr ⟨rfl, hfetch⟩⟩)

theorem sorted_once_before_offset (offset : Option UInt64) {before after : List ResultClause}
    {clause : ResultClause} (hoffset : clause.isOffset = true)
    (h : ResultClause.ofClosing .sqlServer items (tail .sqlServer limit offset (!items.isEmpty)) =
      before ++ clause :: after) :
    before.countP ResultClause.sorts = 1 ∧ after.countP ResultClause.sorts = 0 := by
  cases offset with
  | none =>
    have hnot := isOffset_of_mem_ofClosing_none items limit (h ▸ List.mem_append_cons_self)
    rw [hoffset] at hnot
    cases hnot
  | some m =>
    obtain ⟨sort, hsort, hclauses⟩ := exists_ofClosing_some items limit m
    rw [hclauses] at h
    -- The offset can only be the second clause: the first one sorts, and the third one is a limit.
    rcases before with _ | ⟨first, _ | ⟨second, more⟩⟩ <;>
      simp only [List.nil_append, List.cons_append, List.cons.injEq] at h
    · obtain ⟨rfl, -⟩ := h
      rw [ResultClause.isOffset_of_sorts hsort] at hoffset
      cases hoffset
    · obtain ⟨rfl, rfl, rfl⟩ := h
      exact ⟨by rw [List.countP_singleton, if_pos hsort],
        List.countP_eq_zero.mpr (List.forall_mem_map.mpr fun _ _ => Bool.false_ne_true)⟩
    · obtain ⟨-, -, h⟩ := h
      have hmem : clause ∈ limit.toList.map fun n => ResultClause.page (.fetchNext n.toNat) :=
        h ▸ List.mem_append_cons_self
      obtain ⟨n, -, rfl⟩ := List.mem_map.mp hmem
      cases hoffset

end SqlServer

/-- A limit and an offset keep the same rows in every dialect, those that are asked for. On SQL
Server no query has both a limit at its head and an offset, and one sort stands before an offset and
none behind it. -/
theorem keeps_asked_rows :
    (∀ (dialect : Dialect) (limit offset : Option UInt64) (ordered : Bool) {α : Type u}
      (rows : List α), rows.length < 2 ^ 64 →
      ∃ window : Window, Window.ofTexts? dialect (headText dialect limit offset)
          (tailText dialect limit offset ordered) = some window ∧
        window.rows rows = asked limit offset rows) ∧
    ∀ (query : Query) (sql : Sql), query.render .sqlServer = .ok sql →
      ∃ heads tails, query.ReadsAs .sqlServer sql heads tails ∧
        ¬((∃ clause ∈ heads ++ tails, clause.isTop = true) ∧
          ∃ clause ∈ heads ++ tails, clause.isOffset = true) ∧
        ∀ before clause after, tails = before ++ clause :: after → clause.isOffset = true →
          before.countP ResultClause.sorts = 1 ∧ after.countP ResultClause.sorts = 0 := by
  constructor
  · intro dialect limit offset ordered α rows hlength
    exact ⟨window dialect limit offset, ofTexts?_eq dialect limit offset ordered,
      rows_window hlength⟩
  · intro query sql hrender
    refine ⟨_, _, Query.readsAs_of_render hrender, ?_, fun before clause after hsplit hoffset =>
      sorted_once_before_offset query.orderBy query.limit query.offset hoffset hsplit⟩
    rintro ⟨⟨top, htopmem, htop⟩, offset, hoffsetmem, hoffset⟩
    obtain hno | hno := not_top_and_offset query.orderBy query.limit query.offset
    · exact absurd htop (by rw [hno top htopmem]; exact Bool.false_ne_true)
    · exact absurd hoffset (by rw [hno offset hoffsetmem]; exact Bool.false_ne_true)

theorem keeps_asked_rows_of_offset :
    let query : Query := { tables := [⟨"t", none⟩], limit := some 2, offset := some 1 }
    (∃ window : Window, Window.ofTexts? .mysql (headText .mysql none (some 1))
        (tailText .mysql none (some 1) false) = some window ∧
      window.rows ['a', 'b', 'c'] = ['b', 'c']) ∧
    ∃ sql heads tails, query.render .sqlServer = .ok sql ∧
      query.ReadsAs .sqlServer sql heads tails ∧
      ¬((∃ clause ∈ heads ++ tails, clause.isTop = true) ∧
        ∃ clause ∈ heads ++ tails, clause.isOffset = true) := by
  intro query
  obtain ⟨sql, hrender⟩ : ∃ sql, query.render .sqlServer = .ok sql := ⟨_, rfl⟩
  obtain ⟨heads, tails, hreads, hnot, -⟩ := keeps_asked_rows.{0}.2 query sql hrender
  exact ⟨keeps_asked_rows.{0}.1 .mysql none (some 1) false ['a', 'b', 'c'] (by decide),
    sql, heads, tails, hrender, hreads, hnot⟩

end Pagination

end SqlDialects
