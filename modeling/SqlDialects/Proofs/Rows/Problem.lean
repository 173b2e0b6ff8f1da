import SqlDialects.Proofs.Rows.Walk

/-! What keeps a statement from being written. Every part on the walk is at fault or not on its own,
and the rendering of a statement stops at the first part that is. `Meets` says this of any piece of
a rendering, and has a rule for each way in which renderings are put together. -/

namespace SqlDialects

theorem bind_eq_ok_iff {x : Except ε α} {next : α → Except ε β} {b : β} :
    x >>= next = .ok b ↔ ∃ a, x = .ok a ∧ next a = .ok b := by
  constructor
  · intro h
    cases x with
    | error e => cases h
    | ok a => exact ⟨a, rfl, h⟩
  · rintro ⟨a, rfl, h⟩
    exact h

/-- The error that a result is, if it is one. -/
def failure? : Except ε α → Option ε
  | .error e => some e
  | .ok _ => none

/-- Whether a comparison takes a right side of this form. -/
def Comparison.takes : Comparison → Comparand → Bool
  | .isNull, _ | .isNotNull, _ => true
  | .between, .range _ _ | .notBetween, .range _ _ => true
  | .isIn, .list _ | .isIn, .subquery _ | .notIn, .list _ | .notIn, .subquery _ => true
  | .between, _ | .notBetween, _ | .isIn, _ | .notIn, _ => false
  | _, .value _ | _, .column _ | _, .subquery _ => true
  | _, _ => false

namespace Visit

/-- The problem with one part of a statement. -/
def problem? (dialect : Dialect) : Visit → Option Error
  | .value _ => none
  | .call c => failure? (c.render dialect)
  | .test comparison comparand =>
    if comparison.takes comparand then none
    else some (.invalid (.badComparand comparison comparand))
  | .source tables => if tables.isEmpty then some (.invalid .selectWithoutTable) else none
  | .into target => failure? (target.render dialect)
  | .insert i => i.problem?.map .invalid
  | .update u =>
    if u.query.tables.isEmpty then some (.invalid .updateWithoutTable)
    else if u.assignments.isEmpty then some (.invalid .updateWithoutAssignment)
    else none
  | .delete d =>
    match d.query.tables with
    | [] => some (.invalid .deleteWithoutTable)
    | table :: _ =>
      let names := if d.targets.isEmpty then [table.label.getD table.name] else d.targets
      if d.namesTargets then failure? (Delete.targetText dialect names) else none

end Visit

/-- The first problem on a walk. -/
def firstProblem? (dialect : Dialect) (walk : List Visit) : Option Error :=
  walk.findSome? (Visit.problem? dialect)

/-- A result of a rendering that takes this walk: the first problem on it or, if there is none,
something with the property `Good`. -/
def Meets (dialect : Dialect) (walk : List Visit) (Good : α → Prop) : Except Error α → Prop
  | .error e => firstProblem? dialect walk = some e
  | .ok a => firstProblem? dialect walk = none ∧ Good a

namespace Meets

variable {dialect : Dialect} {walk first second : List Visit} {Good : α → Prop}
  {Better : β → Prop} {x : Except Error α}

theorem ok {a : α} (h : Good a) : Meets dialect [] Good (.ok a) := ⟨rfl, h⟩

theorem mono {Weaker : α → Prop} (hx : Meets dialect walk Good x) (h : ∀ a, Good a → Weaker a) :
    Meets dialect walk Weaker x := by
  cases x with
  | error e => exact hx
  | ok a => exact ⟨hx.1, h a hx.2⟩

/-- A rendering that goes on with another one takes both walks. -/
theorem bind {next : α → Except Error β} (hx : Meets dialect first Good x)
    (hnext : ∀ a, Good a → Meets dialect second Better (next a)) :
    Meets dialect (first ++ second) Better (x >>= next) := by
  cases x with
  | error e =>
    have hfirst : firstProblem? dialect first = some e := hx
    show firstProblem? dialect (first ++ second) = some e
    simp only [firstProblem?, List.findSome?_append] at hfirst ⊢
    rw [hfirst]
    rfl
  | ok a =>
    obtain ⟨hfirst, ha⟩ := hx
    have hsecond : firstProblem? dialect (first ++ second) = firstProblem? dialect second := by
      simp only [firstProblem?, List.findSome?_append] at hfirst ⊢
      rw [hfirst]
      rfl
    show Meets dialect (first ++ second) Better (next a)
    have hmeets := hnext a ha
    cases hr : next a with
    | error e => rw [hr] at hmeets; exact hsecond.trans hmeets
    | ok b => rw [hr] at hmeets; exact ⟨hsecond.trans hmeets.1, hmeets.2⟩

/-- A rendering that cannot fail any more takes no further steps. -/
theorem map {f : α → β} (hx : Meets dialect walk Good x) (hf : ∀ a, Good a → Better (f a)) :
    Meets dialect walk Better (x >>= fun a => pure (f a)) := by
  have h : Meets dialect (walk ++ []) Better (x >>= fun a => pure (f a)) :=
    hx.bind fun a ha => ok (hf a ha)
  rwa [List.append_nil] at h

/-- A part without a problem is passed. -/
theorem pass {visit : Visit} (h : visit.problem? dialect = none)
    (hx : Meets dialect walk Good x) : Meets dialect (visit :: walk) Good x := by
  have hskip : firstProblem? dialect (visit :: walk) = firstProblem? dialect walk := by
    simp only [firstProblem?, List.findSome?_cons, h]
  cases x with
  | error e => exact hskip.trans hx
  | ok a => exact ⟨hskip.trans hx.1, hx.2⟩

/-- A part with a problem is where the rendering stops. -/
theorem stop {visit : Visit} {e : Error} (h : visit.problem? dialect = some e) :
    Meets dialect (visit :: walk) Good (.error e) := by
  show firstProblem? dialect (visit :: walk) = some e
  simp only [firstProblem?, List.findSome?_cons, h]

/-- The values on a walk make no problem. -/
theorem ok_values (values : List Value) {a : α} (h : Good a) :
    Meets dialect (values.map Visit.value) Good (.ok a) := by
  induction values with
  | nil => exact ok h
  | cons v rest ih =>
    have hvalue : (Visit.value v).problem? dialect = none := rfl
    exact pass hvalue ih

/-- A part whose problem is the failure of its own rendering, and the values that come with it. -/
theorem check {visit : Visit} (values : List Value) (h : visit.problem? dialect = failure? x)
    (hgood : ∀ a, x = .ok a → Good a) :
    Meets dialect (visit :: values.map Visit.value) Good x := by
  cases x with
  | error e => exact stop h
  | ok a => exact pass h (ok_values values (hgood a rfl))

/-- What a rendering gives is also what it was seen to give. -/
theorem and_eq (hx : Meets dialect walk Good x) :
    Meets dialect walk (fun a => Good a ∧ x = .ok a) x := by
  cases x with
  | error e => exact hx
  | ok a => exact ⟨hx.1, hx.2, rfl⟩

theorem error_iff (hx : Meets dialect walk Good x) (e : Error) :
    x = .error e ↔ firstProblem? dialect walk = some e := by
  cases x with
  | error e' =>
    have h : firstProblem? dialect walk = some e' := hx
    simp [h]
  | ok a => simp [hx.1]

theorem isOk_iff (hx : Meets dialect walk Good x) :
    (∃ a, x = .ok a) ↔ ∀ visit ∈ walk, visit.problem? dialect = none := by
  rw [← List.findSome?_eq_none_iff]
  cases x with
  | error e =>
    have h : firstProblem? dialect walk = some e := hx
    simp only [firstProblem?] at h
    simp [h]
  | ok a => exact ⟨fun _ => hx.1, fun _ => ⟨a, rfl⟩⟩

theorem good_of_eq_ok (hx : Meets dialect walk Good x) {a : α} (h : x = .ok a) : Good a := by
  subst h
  exact hx.2

end Meets

end SqlDialects
