import SqlDialects.Proofs.Query.Ends

/-! The order of a result, as a dialect compares two rows by the sort at the end of a query.
Dialects differ in where a null stands if nothing is said about it. Where every item of a sort says
it, two rows are compared in the same way in all of them: by the items one after the other, each
with nulls where it asks for them. -/

namespace SqlDialects

/-- A row by the cells of its columns. A null is nothing. -/
abbrev Cells (α : Type u) := ColumnPath → Option α

/-- The first comparison that tells a difference decides. -/
def lexicographic (comparisons : List Ordering) : Ordering := comparisons.foldr Ordering.then .eq

theorem lexicographic_cons (first : Ordering) (rest : List Ordering) :
    lexicographic (first :: rest) = first.then (lexicographic rest) := rfl

theorem lexicographic_append (first second : List Ordering) :
    lexicographic (first ++ second) = (lexicographic first).then (lexicographic second) := by
  induction first with
  | nil => rfl
  | cons comparison rest ih =>
    rw [List.cons_append, lexicographic_cons, ih, lexicographic_cons, Ordering.then_assoc]

/-- Parts that stand for one comparison each can be compared part by part. -/
theorem lexicographic_flatMap (parts : α → List Ordering) (items : List α) :
    lexicographic (items.flatMap parts) =
      lexicographic (items.map fun item => lexicographic (parts item)) := by
  induction items with
  | nil => rfl
  | cons item rest ih =>
    rw [List.flatMap_cons, lexicographic_append, ih, List.map_cons, lexicographic_cons]

/-- The comparison in a direction, given the one that ascends. -/
def Direction.compare (direction : Direction) (ascending : α → α → Ordering) (first second : α) :
    Ordering :=
  match direction with
  | .ascending => ascending first second
  | .descending => ascending second first

def NullsPlacement.isFirst : NullsPlacement → Bool
  | first => true
  | last => false

/-- Cells with all nulls before the values, or all behind them. -/
def compareCells (nullsFirst : Bool) (values : α → α → Ordering) : Option α → Option α → Ordering
  | none, none => .eq
  | none, some _ => if nullsFirst then .lt else .gt
  | some _, none => if nullsFirst then .gt else .lt
  | some first, some second => values first second

/-- Whether a dialect takes a null for less than every value, where nothing else is said. Otherwise
it takes it for more. -/
def Dialect.nullsBelow (dialect : Dialect) : Bool := dialect ≠ .postgres

/-- A number for a null and another one for anything else. -/
def rankOf (ofNull ofOther : Nat) : Option α → Nat
  | none => ofNull
  | some _ => ofOther

section

variable (dialect : Dialect) (order : ColumnPath → α → α → Ordering)

/-- How a dialect compares two rows by a term, if `order` compares the values of each column. A
placement of nulls holds in either direction. Where there is none, nulls go with the direction like
values. -/
def SortTerm.compareRows (term : SortTerm) (first second : Cells α) : Ordering :=
  match term.expression, term.nulls with
  | .cell path, some placement =>
    compareCells placement.isFirst (term.direction.compare (order path)) (first path)
      (second path)
  | .cell path, none =>
    term.direction.compare (compareCells dialect.nullsBelow (order path)) (first path)
      (second path)
  | .isNull path, _ =>
    term.direction.compare compare (rankOf 1 0 (first path)) (rankOf 1 0 (second path))
  | .rank path ofNull ofOther, _ =>
    term.direction.compare compare (rankOf ofNull ofOther (first path))
      (rankOf ofNull ofOther (second path))

theorem SortTerm.compareRows_isNull (path : ColumnPath) (direction : Direction)
    (nulls : Option NullsPlacement) (first second : Cells α) :
    compareRows dialect order ⟨.isNull path, direction, nulls⟩ first second =
      direction.compare compare (rankOf 1 0 (first path)) (rankOf 1 0 (second path)) := rfl

theorem SortTerm.compareRows_rank (path : ColumnPath) (ofNull ofOther : Nat)
    (direction : Direction) (nulls : Option NullsPlacement) (first second : Cells α) :
    compareRows dialect order ⟨.rank path ofNull ofOther, direction, nulls⟩ first second =
      direction.compare compare (rankOf ofNull ofOther (first path))
        (rankOf ofNull ofOther (second path)) := rfl

namespace ResultClause

/-- A page compares nothing. -/
def compareRows (clause : ResultClause) (first second : Cells α) : Ordering :=
  match clause with
  | sort terms => lexicographic (terms.map fun term => term.compareRows dialect order first second)
  | page _ => .eq

def compareAll (clauses : List ResultClause) (first second : Cells α) : Ordering :=
  lexicographic (clauses.map fun clause => clause.compareRows dialect order first second)

end ResultClause

/-- How a dialect compares two rows by the text at the end of a query. -/
def Sorting.ofText? (text : String) : Option (Cells α → Cells α → Ordering) :=
  (ResultClause.listOf? dialect text).map (ResultClause.compareAll dialect order)

/-- The comparison that an item asks for: nulls first or last whatever the direction, and the values
in the direction. -/
def OrderItem.asked (item : OrderItem) (first second : Cells α) : Ordering :=
  let path := item.column.toList.splitOn '.'
  compareCells (item.nulls.any NullsPlacement.isFirst) (item.direction.compare (order path))
    (first path) (second path)

def Sorting.asked (items : List OrderItem) (first second : Cells α) : Ordering :=
  lexicographic (items.map fun item => item.asked order first second)

end

/-- Where nulls are told from values first, they stay where that puts them, wherever the comparison
behind it would put them. -/
theorem compareCells_then (nullsFirst nullsBelow : Bool) (direction : Direction)
    (values : α → α → Ordering) (first second : Option α) :
    (compareCells nullsFirst (fun _ _ => .eq) first second).then
        (direction.compare (compareCells nullsBelow values) first second) =
      compareCells nullsFirst (direction.compare values) first second := by
  cases first <;> cases second
  case none.none => cases direction <;> rfl
  case some.some => cases direction <;> rfl
  all_goals cases nullsFirst <;> rfl

/-- Two numbers, one for nulls and one for values, tell nulls from values. -/
theorem compare_rankOf {direction : Direction} {ofNull ofOther : Nat} {nullsFirst : Bool}
    (hnull : direction.compare compare ofNull ofOther = if nullsFirst then .lt else .gt)
    (hother : direction.compare compare ofOther ofNull = if nullsFirst then .gt else .lt)
    (first second : Option α) :
    direction.compare compare (rankOf ofNull ofOther first) (rankOf ofNull ofOther second) =
      compareCells nullsFirst (fun _ _ => .eq) first second := by
  have hself (n : Nat) : direction.compare compare n n = .eq := by
    cases direction <;> exact Nat.compare_eq_eq.mpr rfl
  cases first with
  | none =>
    cases second with
    | none => exact hself ofNull
    | some _ => exact hnull
  | some _ =>
    cases second with
    | none => exact hother
    | some _ => exact hself ofOther

namespace OrderItem

variable {dialect : Dialect} (order : ColumnPath → α → α → Ordering)

/-- What an item says about the values of its column. -/
def valueTerm (item : OrderItem) (nulls : Option NullsPlacement) : SortTerm :=
  ⟨.cell (item.column.toList.splitOn '.'), item.direction, nulls⟩

theorem terms_of_words {item : OrderItem} (h : dialect = .postgres ∨ dialect = .sqlite) :
    item.terms dialect = [item.valueTerm item.nulls] := by
  rcases h with rfl | rfl <;> rfl

/-- A dialect without words for it tells nulls from values by a term of its own. -/
theorem exists_terms_of_no_words {item : OrderItem} {placement : NullsPlacement}
    (h : dialect = .mysql ∨ dialect = .sqlServer) (hnulls : item.nulls = some placement) :
    ∃ lead, item.terms dialect = [lead, item.valueTerm none] ∧
      ∀ first second : Cells α, lead.compareRows dialect order first second =
        compareCells placement.isFirst (fun _ _ => .eq) (first (item.column.toList.splitOn '.'))
          (second (item.column.toList.splitOn '.')) := by
  obtain ⟨column, direction, nulls⟩ := item
  obtain rfl : nulls = some placement := hnulls
  rcases h with rfl | rfl <;> cases placement
  case inl.first =>
    refine ⟨⟨.isNull _, .descending, none⟩, rfl, fun first second => ?_⟩
    rw [SortTerm.compareRows_isNull]
    exact compare_rankOf rfl rfl _ _
  case inl.last =>
    refine ⟨⟨.isNull _, .ascending, none⟩, rfl, fun first second => ?_⟩
    rw [SortTerm.compareRows_isNull]
    exact compare_rankOf rfl rfl _ _
  case inr.first =>
    refine ⟨⟨.rank _ 0 1, .ascending, none⟩, rfl, fun first second => ?_⟩
    rw [SortTerm.compareRows_rank]
    exact compare_rankOf rfl rfl _ _
  case inr.last =>
    refine ⟨⟨.rank _ 1 0, .ascending, none⟩, rfl, fun first second => ?_⟩
    rw [SortTerm.compareRows_rank]
    exact compare_rankOf rfl rfl _ _

/-- The terms for an item compare as the item asks, if it says where nulls go. -/
theorem lexicographic_terms {item : OrderItem} (h : item.nulls.isSome) (first second : Cells α) :
    lexicographic ((item.terms dialect).map fun term =>
      term.compareRows dialect order first second) = item.asked order first second := by
  obtain ⟨placement, hnulls⟩ := Option.isSome_iff_exists.mp h
  have hdialect : (dialect = .postgres ∨ dialect = .sqlite) ∨
      (dialect = .mysql ∨ dialect = .sqlServer) := by
    cases dialect <;> decide
  have hasked : item.asked order first second =
      compareCells placement.isFirst
        (item.direction.compare (order (item.column.toList.splitOn '.')))
        (first (item.column.toList.splitOn '.')) (second (item.column.toList.splitOn '.')) := by
    rw [asked, hnulls]
    rfl
  rw [hasked]
  obtain hwords | hwords := hdialect
  · rw [terms_of_words hwords, hnulls, List.map_singleton, lexicographic_cons]
    exact Ordering.then_eq
  · obtain ⟨lead, hterms, hlead⟩ := exists_terms_of_no_words order hwords hnulls
    have hvalues : lexicographic [(item.valueTerm none).compareRows dialect order first second] =
        (item.valueTerm none).compareRows dialect order first second := Ordering.then_eq
    rw [hterms, List.map_cons, List.map_singleton, lexicographic_cons, hlead, hvalues]
    exact compareCells_then _ dialect.nullsBelow item.direction _ _ _

end OrderItem

namespace Sorting

variable {dialect : Dialect} (order : ColumnPath → α → α → Ordering) {items : List OrderItem}

theorem lexicographic_terms (h : ∀ item ∈ items, item.nulls.isSome) (first second : Cells α) :
    lexicographic ((terms dialect items).map fun term =>
      term.compareRows dialect order first second) = asked order items first second := by
  rw [terms, List.map_flatMap, lexicographic_flatMap, asked]
  refine congrArg lexicographic (List.map_congr_left fun item hmem => ?_)
  exact OrderItem.lexicographic_terms order (h item hmem) first second

/-- Pages behind a sort compare nothing. -/
theorem lexicographic_pages (clauses : List PageClause) (first second : Cells α) :
    lexicographic ((clauses.map ResultClause.page).map fun clause =>
      clause.compareRows dialect order first second) = .eq := by
  induction clauses with
  | nil => rfl
  | cons clause rest ih => exact ih

theorem compareAll_ofClosing (h : ∀ item ∈ items, item.nulls.isSome)
    (clauses : List PageClause) :
    ResultClause.compareAll dialect order (ResultClause.ofClosing dialect items clauses) =
      asked order items := by
  funext first second
  rw [ResultClause.compareAll, ResultClause.ofClosing, List.map_append, lexicographic_append,
    lexicographic_pages, Ordering.then_eq]
  split
  case isTrue hnil =>
    subst hnil
    rfl
  case isFalse =>
    rw [← lexicographic_terms order h]
    exact Ordering.then_eq

/-- Where every item says where nulls go, the end of a query compares any two rows as the items ask,
whatever the dialect and whichever page of the result is kept. -/
theorem compares_as_asked (dialect : Dialect) (h : ∀ item ∈ items, item.nulls.isSome)
    (limit offset : Option UInt64) :
    ofText? dialect order (text dialect items ++
      Pagination.tailText dialect limit offset (!items.isEmpty)) = some (asked order items) := by
  rw [ofText?, Pagination.tailText, ResultClause.listOf?_closing _ _ Pagination.top_not_mem_tail,
    Option.map_some, compareAll_ofClosing order h]

theorem compares_as_asked_of_nulls_first :
    let items : List OrderItem :=
      [⟨"t.a b", .descending, some .first⟩, ⟨"c", .ascending, some .last⟩]
    let order : ColumnPath → Nat → Nat → Ordering := fun _ => compare
    (∀ item ∈ items, item.nulls.isSome) ∧
    ∀ dialect, ofText? dialect order (text dialect items ++
      Pagination.tailText dialect (some 2) none true) = some (asked order items) := by
  intro items order
  have h : ∀ item ∈ items, item.nulls.isSome := by decide
  exact ⟨h, fun dialect => compares_as_asked order dialect h (some 2) none⟩

end Sorting

end SqlDialects
