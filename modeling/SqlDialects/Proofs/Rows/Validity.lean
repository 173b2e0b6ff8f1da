import SqlDialects.Proofs.Rows.Changes

/-! Which statements compile. A part of a statement is valid on its own or in no dialect at all, and
a dialect can write it or not. A statement compiles exactly if all that it visits is valid and can
be written. -/

namespace SqlDialects

namespace Visit

/-- Whether a part makes sense, whichever the dialect. -/
def ShapeValid : Visit → Prop
  | .value _ => True
  | .call c => ∀ function, c.function = .scalar function → function ≠ .now → c.columns ≠ []
  | .test comparison comparand => comparison.takes comparand
  | .source tables => tables ≠ []
  | .into _ => True
  | .insert i =>
    i.table ≠ "" ∧ i.columns ≠ [] ∧ i.rows ≠ [] ∧ ∀ row ∈ i.rows, row.length = i.columns.length
  | .update u => u.query.tables ≠ [] ∧ u.assignments ≠ []
  | .delete d => d.query.tables ≠ []

/-- Whether a dialect has a spelling for a part that makes sense. -/
def Within (dialect : Dialect) : Visit → Prop
  | .call c =>
    (∃ aggregate, c.function = .aggregate aggregate) → c.distinct → 1 < c.columns.length →
      dialect = .mysql ∨ dialect = .postgres
  | .into target => dialect = .sqlServer ∨ dialect = .postgres ∧ target.database = none
  | .delete d =>
    d.targets ≠ [] ∨ d.query.joins ≠ [] ∨ 1 < d.query.tables.length →
      dialect = .mysql ∨ dialect = .sqlServer ∧ d.targets.length ≤ 1
  | _ => True

/-- What a problem with a part says of it, and what it says that there is none. -/
inductive Judged (dialect : Dialect) (visit : Visit) : Option Error → Prop
  | fine (valid : visit.ShapeValid) (within : visit.Within dialect) : Judged dialect visit none
  | invalid (h : ¬ visit.ShapeValid) (cause : InvalidArgument) :
    Judged dialect visit (some (.invalid cause))
  | unsupported (valid : visit.ShapeValid) (h : ¬ visit.Within dialect) (feature : Feature) :
    Judged dialect visit (some (.unsupported dialect feature))

end Visit

section

variable (dialect : Dialect)

theorem Call.judged (call : Call) :
    Visit.Judged dialect (.call call) (Visit.problem? dialect (.call call)) := by
  obtain ⟨function, columns, distinct⟩ := call
  cases function with
  | aggregate function =>
    have hvalid : Visit.ShapeValid (.call ⟨.aggregate function, columns, distinct⟩) := by
      intro scalar h
      cases h
    cases hmany : distinct && decide (1 < columns.length) with
    | false =>
      simp only [Visit.problem?, render, Aggregate.render, List.length_map, hmany]
      refine .fine hvalid fun _ hdistinct hlength => ?_
      have hlength' : 1 < columns.length := hlength
      simp only [show distinct = true from hdistinct, Bool.true_and, decide_eq_false_iff_not]
        at hmany
      contradiction
    | true =>
      obtain ⟨hdistinct, hlength⟩ : distinct = true ∧ 1 < columns.length := by simpa using hmany
      simp only [Visit.problem?, render, Aggregate.render, List.length_map, hmany]
      cases dialect with
      | mysql => exact .fine hvalid fun _ _ _ => .inl rfl
      | postgres => exact .fine hvalid fun _ _ _ => .inr rfl
      | sqlite | sqlServer =>
        refine .unsupported hvalid (fun hwithin => ?_) .distinctTuple
        rcases hwithin ⟨function, rfl⟩ hdistinct hlength with h | h <;> cases h
  | scalar function =>
    have hwithin : Visit.Within dialect (.call ⟨.scalar function, columns, distinct⟩) := by
      rintro ⟨aggregate, h⟩
      cases h
    by_cases hnow : function = .now
    · subst hnow
      exact .fine (fun _ h hne => absurd (Function.scalar.inj h).symm hne) hwithin
    · cases columns with
      | nil =>
        have hrender : render dialect ⟨.scalar function, [], distinct⟩ =
            .error (.invalid (.functionWithoutColumn function)) := by
          cases function <;> first | rfl | contradiction
        simp only [Visit.problem?, hrender, failure?]
        refine .invalid ?_ _
        intro hvalid
        exact hvalid function rfl hnow rfl
      | cons column rest =>
        have hrender : render dialect ⟨.scalar function, column :: rest, distinct⟩ =
            .ok (function.render dialect (Identifier.quote dialect column)) := by
          cases function <;> rfl
        simp only [Visit.problem?, hrender, failure?]
        exact .fine (fun _ _ _ => List.cons_ne_nil _ _) hwithin

theorem Comparison.judged (comparison : Comparison) (comparand : Comparand) :
    Visit.Judged dialect (.test comparison comparand)
      (Visit.problem? dialect (.test comparison comparand)) := by
  simp only [Visit.problem?]
  split
  case isTrue h => exact .fine h trivial
  case isFalse h =>
    refine .invalid ?_ _
    exact h

theorem Query.source_judged (tables : List TableRef) :
    Visit.Judged dialect (.source tables) (Visit.problem? dialect (.source tables)) := by
  cases tables with
  | nil =>
    refine .invalid ?_ _
    intro hvalid
    exact hvalid rfl
  | cons table rest => exact .fine (List.cons_ne_nil _ _) trivial

theorem IntoTarget.judged (target : IntoTarget) :
    Visit.Judged dialect (.into target) (Visit.problem? dialect (.into target)) := by
  obtain ⟨table, database⟩ := target
  cases dialect with
  | mysql | sqlite =>
    refine .unsupported ?_ ?_ .selectInto
    · trivial
    · intro hwithin
      rcases hwithin with h | ⟨h, -⟩ <;> cases h
  | sqlServer => cases database <;> exact .fine trivial (.inl rfl)
  | postgres =>
    cases database with
    | none => exact .fine trivial (.inr ⟨rfl, rfl⟩)
    | some database =>
      refine .unsupported ?_ ?_ .selectIntoDatabase
      · trivial
      · intro hwithin
        rcases hwithin with h | ⟨-, h⟩ <;> cases h

/-- No row is ragged if every row has the length that it should have. -/
theorem Insert.findRagged_eq_none_iff (columns index : Nat) (rows : List (List Written)) :
    Insert.findRagged columns index rows = none ↔ ∀ row ∈ rows, row.length = columns := by
  induction rows generalizing index with
  | nil => simp [findRagged]
  | cons row rest ih =>
    unfold findRagged
    split
    case isTrue h => simp [h, ih]
    case isFalse h => simp [h]

theorem Insert.problem?_eq_none_iff (insert : Insert) :
    insert.problem? = none ↔ Visit.ShapeValid (.insert insert) := by
  obtain ⟨table, columns, rows⟩ := insert
  unfold problem? Visit.ShapeValid
  by_cases htable : table = ""
  · simp [htable]
  · cases columns with
    | nil => simp [htable]
    | cons column more =>
      cases rows with
      | nil => simp [htable]
      | cons row rest =>
        have hragged := findRagged_eq_none_iff (column :: more).length 0 (row :: rest)
        cases hfound : findRagged (column :: more).length 0 (row :: rest) with
        | none => simpa [htable, hfound] using hragged.mp hfound
        | some found =>
          rw [hfound] at hragged
          simpa [htable, hfound] using hragged

theorem Insert.judged (insert : Insert) :
    Visit.Judged dialect (.insert insert) (Visit.problem? dialect (.insert insert)) := by
  have hiff := insert.problem?_eq_none_iff
  simp only [Visit.problem?]
  cases hproblem : insert.problem? with
  | none => exact .fine (hiff.mp hproblem) trivial
  | some cause =>
    refine .invalid (fun hvalid => ?_) cause
    rw [hiff.mpr hvalid] at hproblem
    cases hproblem

theorem Update.judged (update : Update) :
    Visit.Judged dialect (.update update) (Visit.problem? dialect (.update update)) := by
  obtain ⟨⟨tables, _, _, _, _, _, _, _, _, _, _⟩, assignments⟩ := update
  cases tables with
  | nil =>
    refine .invalid ?_ _
    intro hvalid
    exact hvalid.1 rfl
  | cons table rest =>
    cases assignments with
    | nil =>
      refine .invalid ?_ _
      intro hvalid
      exact hvalid.2 rfl
    | cons assignment more => exact .fine ⟨List.cons_ne_nil _ _, List.cons_ne_nil _ _⟩ trivial

theorem Delete.namesTargets_iff (delete : Delete) :
    delete.namesTargets = true ↔
      delete.targets ≠ [] ∨ delete.query.joins ≠ [] ∨ 1 < delete.query.tables.length := by
  simp [namesTargets, or_assoc]

/-- Names of tables are written by one dialect, and a single name by another one. -/
theorem Delete.targetText_cases (names : List String) :
    ((dialect = .mysql ∨ dialect = .sqlServer ∧ names.length = 1) ∧
      ∃ text, targetText dialect names = .ok text) ∨
    (¬ (dialect = .mysql ∨ dialect = .sqlServer ∧ names.length = 1) ∧
      ∃ feature, targetText dialect names = .error (.unsupported dialect feature)) := by
  cases dialect with
  | mysql => exact .inl ⟨.inl rfl, _, rfl⟩
  | postgres | sqlite => exact .inr ⟨by simp, _, rfl⟩
  | sqlServer =>
    match names with
    | [] => exact .inr ⟨by simp, _, rfl⟩
    | [name] => exact .inl ⟨.inr ⟨rfl, rfl⟩, _, rfl⟩
    | first :: second :: more => exact .inr ⟨by simp, _, rfl⟩

theorem Delete.judged (delete : Delete) :
    Visit.Judged dialect (.delete delete) (Visit.problem? dialect (.delete delete)) := by
  simp only [Visit.problem?]
  cases htables : delete.query.tables with
  | nil =>
    refine .invalid ?_ _
    intro hvalid
    exact hvalid htables
  | cons table rest =>
    have hvalid : Visit.ShapeValid (.delete delete) := by
      intro h
      rw [htables] at h
      cases h
    cases hnames : delete.namesTargets with
    | false =>
      refine .fine hvalid ?_
      intro hmany
      rw [← delete.namesTargets_iff, hnames] at hmany
      cases hmany
    | true =>
      have hlength : (if delete.targets.isEmpty then [table.label.getD table.name]
          else delete.targets).length = 1 ↔ delete.targets.length ≤ 1 := by
        cases delete.targets <;> simp
      have htext := targetText_cases dialect
        (if delete.targets.isEmpty then [table.label.getD table.name] else delete.targets)
      rw [hlength] at htext
      obtain ⟨hwithin, text, htext⟩ | ⟨hwithin, feature, htext⟩ := htext
      · simp only [htext, failure?, ↓reduceIte]
        exact .fine hvalid fun _ => hwithin
      · simp only [htext, failure?, ↓reduceIte]
        exact .unsupported hvalid (fun h => hwithin (h (delete.namesTargets_iff.mp hnames))) feature

theorem Visit.judged (visit : Visit) : visit.Judged dialect (visit.problem? dialect) := by
  cases visit with
  | value v => exact .fine trivial trivial
  | call c => exact c.judged dialect
  | test comparison comparand => exact comparison.judged dialect comparand
  | source tables => exact Query.source_judged dialect tables
  | into target => exact target.judged dialect
  | insert i => exact i.judged dialect
  | update u => exact u.judged dialect
  | delete d => exact d.judged dialect

theorem Visit.problem?_eq_none_iff (visit : Visit) :
    visit.problem? dialect = none ↔ visit.ShapeValid ∧ visit.Within dialect := by
  have hjudged := visit.judged dialect
  constructor
  · intro h
    rw [h] at hjudged
    cases hjudged with
    | fine valid within => exact ⟨valid, within⟩
  · rintro ⟨valid, within⟩
    cases hproblem : visit.problem? dialect with
    | none => rfl
    | some e =>
      rw [hproblem] at hjudged
      cases hjudged with
      | invalid h => exact absurd valid h
      | unsupported _ h => exact absurd within h

theorem firstProblem?_split {walk : List Visit} {e : Error}
    (h : firstProblem? dialect walk = some e) :
    ∃ before visit after, walk = before ++ visit :: after ∧
      (∀ passed ∈ before, passed.ShapeValid ∧ passed.Within dialect) ∧
      visit.problem? dialect = some e := by
  obtain ⟨before, visit, after, hwalk, hvisit, hbefore⟩ := List.findSome?_eq_some_iff.mp h
  exact ⟨before, visit, after, hwalk,
    fun passed hpassed => (passed.problem?_eq_none_iff dialect).mp (hbefore passed hpassed), hvisit⟩

end

theorem RowStatement.compile_meets (s : RowStatement) (dialect : Dialect) :
    Meets dialect s.walk (fun _ => True) (s.compile dialect) := by
  rw [s.compile_eq_map_render dialect]
  have hrenders := s.renders dialect
  cases hrender : s.render dialect with
  | error e => rw [hrender] at hrenders; exact hrenders
  | ok sql => rw [hrender] at hrenders; exact ⟨hrenders.1, trivial⟩

/-- A statement compiles exactly if every part on its walk is valid and within what the dialect can
write. Otherwise the error is about the first part that is not: an invalid one makes the statement
invalid, and a valid one is not supported by this very dialect. -/
theorem RowStatement.compiles_iff_valid_and_within (s : RowStatement) (dialect : Dialect) :
    ((∃ compiled, s.compile dialect = .ok compiled) ↔
      ∀ visit ∈ s.walk, visit.ShapeValid ∧ visit.Within dialect) ∧
    ∀ e, s.compile dialect = .error e →
      ∃ before visit after, s.walk = before ++ visit :: after ∧
        (∀ passed ∈ before, passed.ShapeValid ∧ passed.Within dialect) ∧
        ((¬ visit.ShapeValid ∧ ∃ cause, e = .invalid cause) ∨
          (visit.ShapeValid ∧ ¬ visit.Within dialect ∧
            ∃ feature, e = .unsupported dialect feature)) := by
  have hmeets := s.compile_meets dialect
  constructor
  · rw [hmeets.isOk_iff]
    exact forall₂_congr fun visit _ => visit.problem?_eq_none_iff dialect
  · intro e he
    obtain ⟨before, visit, after, hwalk, hbefore, hvisit⟩ :=
      firstProblem?_split dialect ((hmeets.error_iff e).mp he)
    refine ⟨before, visit, after, hwalk, hbefore, ?_⟩
    have hjudged := visit.judged dialect
    rw [hvisit] at hjudged
    cases hjudged with
    | invalid h cause => exact .inl ⟨h, cause, rfl⟩
    | unsupported valid h feature => exact .inr ⟨valid, h, feature, rfl⟩

/-- A deletion with a join is valid: one dialect can write it, and another one says that it
cannot. -/
theorem RowStatement.compiles_iff_valid_and_within_of_join :
    let s : RowStatement := .delete
      ⟨{ tables := [⟨"t", some "x"⟩], joins := [⟨.cross, ⟨"u", none⟩, []⟩] }, []⟩
    (∃ compiled, s.compile .mysql = .ok compiled) ∧
    ∃ e, s.compile .sqlite = .error e ∧
      ((∃ cause, e = .invalid cause) ∨ ∃ feature, e = .unsupported .sqlite feature) := by
  intro s
  constructor
  · refine (compiles_iff_valid_and_within s .mysql).1.mpr fun visit hvisit => ?_
    cases List.mem_singleton.mp hvisit
    exact ⟨List.cons_ne_nil _ _, fun _ => .inl rfl⟩
  · obtain ⟨e, he⟩ : ∃ e, s.compile .sqlite = .error e := ⟨_, rfl⟩
    refine ⟨e, he, ?_⟩
    obtain ⟨_, _, _, _, _, ⟨_, h⟩ | ⟨_, _, h⟩⟩ := (compiles_iff_valid_and_within s .sqlite).2 e he
    · exact .inl h
    · exact .inr h

end SqlDialects
