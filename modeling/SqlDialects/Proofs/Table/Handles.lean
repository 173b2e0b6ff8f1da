import SqlDialects.Proofs.Table.Calls
import SqlDialects.Proofs.Table.Plan

/-! What calls leave as it is. A handle knows the place of its operation in the list and nothing
else, so what is shown here is that the operation at this place stays the one that the handle was
given for, whatever is appended behind it or put in its place. -/

namespace SqlDialects

/-- What an operation is about, however it is refined: a column that is added or changed, a foreign
key, or all that it says. -/
inductive AlterSubject where
  | column (name : String) (added : Bool)
  | foreign (name : String) (columns : List String)
  | other (operation : AlterOperation)
deriving DecidableEq, Repr

namespace AlterOperation

/-- The name of the primary key that an operation declares with an auto-incrementing column. -/
def counterKey? : AlterOperation → Option String
  | addAutoincrement _ key => some key
  | autoincrement _ key => some key
  | _ => none

def subject : AlterOperation → AlterSubject
  | addColumn column => .column column.name true
  | addAutoincrement column _ => .column column.name true
  | modifyColumn column => .column column.name false
  | autoincrement column _ => .column column.name false
  | addForeign key => .foreign key.name key.columns
  | operation => .other operation

/-- Whether a change leaves alone what an operation is about, and the key of an auto-incrementing
column. -/
structure Refines (f : AlterOperation → AlterOperation) : Prop where
  subject_eq : ∀ operation, (f operation).subject = operation.subject
  counterKey?_eq : ∀ operation key, operation.counterKey? = some key →
    (f operation).counterKey? = some key

theorem refines_makeAutoincrement (table : String) : Refines (makeAutoincrement table) where
  subject_eq operation := by cases operation <;> rfl
  counterKey?_eq operation key h := by cases operation <;> first | exact h | cases h

theorem refines_mapColumn {f : Column → Column} (h : ∀ column, (f column).name = column.name) :
    Refines (mapColumn f) where
  subject_eq operation := by
    cases operation <;> first | rfl | simp only [mapColumn, subject, h]
  counterKey?_eq operation key h := by cases operation <;> exact h

theorem refines_mapForeign (step : ForeignStep) :
    Refines (mapForeign fun key => step.apply key) where
  subject_eq operation := by
    cases operation with
    | addForeign key => cases step <;> rfl
    | _ => rfl
  counterKey?_eq operation key h := by cases operation <;> exact h

end AlterOperation

/-- Whether a handle is the one for an operation at a place. -/
def Handle.IsFor (handle : Handle) (slot : Nat) : AlterSubject → Prop
  | .column _ _ => handle = .column slot
  | .foreign _ _ => handle = .foreign slot
  | .other _ => False

namespace AlterBuilder

/-- What a call does: it appends an operation, maybe with the handle for it, or it refines the
operation at the place of the handle. -/
inductive Step (s : AlterBuilder) : AlterBuilder → Prop
  | push (operation : AlterOperation) {handle : Handle}
    (h : handle = s.handle ∨ handle = .closed ∨
      handle.IsFor s.operations.length operation.subject) :
    Step s (s.push operation handle)
  | change {slot : Nat} (hslot : s.handle.slot? = some slot) {f : AlterOperation → AlterOperation}
    (hf : AlterOperation.Refines f) : Step s (s.change slot f)
  /-- There is no such handle. -/
  | same : Step s s

theorem call_onColumn_cases (s : AlterBuilder) (step : ColumnStep) :
    (∃ slot, s.handle = .column slot ∧ s.call (.onColumn step) = s.onColumn slot step) ∨
      s.call (.onColumn step) = s := by
  cases hhandle : s.handle with
  | column slot => exact .inl ⟨slot, rfl, by simp only [AlterBuilder.call, hhandle]⟩
  | _ => exact .inr (by simp only [AlterBuilder.call, hhandle])

theorem call_refer_cases (s : AlterBuilder) (table column : String) :
    (∃ key, s.call (.refer table column) =
      s.push (.addForeign key) (.foreign s.operations.length)) ∨
      s.call (.refer table column) = s := by
  cases hhandle : s.handle with
  | column slot =>
    let key := ForeignKey.declare s.table.name none [s.columnName slot] []
    refine .inl ⟨ForeignStep.apply key (.references table [column]), ?_⟩
    simp only [AlterBuilder.call, hhandle, pushForeign, onForeign, push_change]
    rfl
  | _ => exact .inr (by simp only [AlterBuilder.call, hhandle])

theorem call_onForeign_cases (s : AlterBuilder) (step : ForeignStep) :
    (∃ slot, s.handle = .foreign slot ∧ s.call (.onForeign step) = s.onForeign slot step) ∨
      s.call (.onForeign step) = s := by
  cases hhandle : s.handle with
  | foreign slot => exact .inl ⟨slot, rfl, by simp only [AlterBuilder.call, hhandle]⟩
  | _ => exact .inr (by simp only [AlterBuilder.call, hhandle])

theorem step_onColumn {s : AlterBuilder} {slot : Nat} (hslot : s.handle = .column slot)
    (step : ColumnStep) : Step s (s.onColumn slot step) := by
  have hplace : s.handle.slot? = some slot := by rw [hslot]; rfl
  cases step with
  | autoincrement => exact .change hplace (AlterOperation.refines_makeAutoincrement _)
  | key kind => exact .push _ (.inl rfl)
  | _ => exact .change hplace (AlterOperation.refines_mapColumn fun _ => rfl)

/-- Every call is one of these steps. -/
theorem step_call (s : AlterBuilder) (call : AlterCall) : Step s (s.call call) := by
  cases call with
  | column | modify | autoincrement | foreign => exact .push _ (.inr (.inr rfl))
  | onColumn step =>
    rcases call_onColumn_cases s step with ⟨slot, hslot, hcall⟩ | hcall
    · exact hcall ▸ step_onColumn hslot step
    · exact hcall.symm ▸ .same
  | refer table column =>
    rcases call_refer_cases s table column with ⟨key, hcall⟩ | hcall
    · exact hcall ▸ .push _ (.inr (.inr rfl))
    · exact hcall.symm ▸ .same
  | onForeign step =>
    rcases call_onForeign_cases s step with ⟨slot, hslot, hcall⟩ | hcall
    · exact hcall ▸ .change (by rw [hslot]; rfl) (AlterOperation.refines_mapForeign step)
    · exact hcall.symm ▸ .same
  | _ => exact .push _ (.inr (.inl rfl))

/-- Whether all operations stay at their places and about what they are about. -/
def Keeps (s s' : AlterBuilder) : Prop :=
  ∀ (i : Nat) (operation : AlterOperation), s.operations[i]? = some operation →
    ∃ refined, s'.operations[i]? = some refined ∧ refined.subject = operation.subject ∧
      ∀ key, operation.counterKey? = some key → refined.counterKey? = some key

theorem Keeps.refl (s : AlterBuilder) : Keeps s s := fun _ operation h =>
  ⟨operation, h, rfl, fun _ hkey => hkey⟩

theorem Keeps.trans {s s' s'' : AlterBuilder} (h : Keeps s s') (h' : Keeps s' s'') :
    Keeps s s'' := by
  intro i operation hoperation
  obtain ⟨refined, hrefined, hsubject, hkey⟩ := h i operation hoperation
  obtain ⟨refined', hrefined', hsubject', hkey'⟩ := h' i refined hrefined
  exact ⟨refined', hrefined', hsubject'.trans hsubject, fun key h => hkey' key (hkey key h)⟩

theorem Step.keeps {s s' : AlterBuilder} (h : Step s s') : Keeps s s' := by
  cases h with
  | push operation _ =>
    intro i old hold
    refine ⟨old, ?_, rfl, fun _ hkey => hkey⟩
    exact (List.getElem?_append_left (List.getElem?_eq_some_iff.mp hold).1).trans hold
  | @change slot _ f hf =>
    intro i old hold
    have hplace : (s.change slot f).operations[i]? = some (if slot = i then f old else old) := by
      show (s.operations.modify slot f)[i]? = _
      rw [List.getElem?_modify, hold]
      rfl
    refine ⟨_, hplace, ?_, ?_⟩
    · split
      · exact hf.subject_eq old
      · rfl
    · intro key hkey
      split
      · exact hf.counterKey?_eq old key hkey
      · exact hkey
  | same => exact .refl s

theorem Step.name_eq {s s' : AlterBuilder} (h : Step s s') : s'.table.name = s.table.name := by
  cases h <;> rfl

end AlterBuilder

/-- Whether a column is auto-incrementing exactly if its operation says so, and the key of that
operation has the name that a primary key of the column gets. -/
structure AlterOperation.IsMarked (table : String) (operation : AlterOperation) : Prop where
  autoincrement_iff : ∀ column, operation.column? = some column →
    (column.options.autoincrement ↔ operation.counterKey?.isSome)
  key_eq : ∀ column, operation.column? = some column → ∀ key, operation.counterKey? = some key →
    key = keyName table .primary [column.name]

namespace AlterOperation

variable {table : String}

theorem isMarked_of_noColumn {operation : AlterOperation} (h : operation.column? = none) :
    operation.IsMarked table where
  autoincrement_iff column hcolumn := by cases h.symm.trans hcolumn
  key_eq column hcolumn := by cases h.symm.trans hcolumn

theorem isMarked_ofKey (kind : KeyKind) (key : Key) : (ofKey kind key).IsMarked table := by
  cases kind <;> exact isMarked_of_noColumn rfl

theorem IsMarked.makeAutoincrement {operation : AlterOperation} (h : operation.IsMarked table) :
    (operation.makeAutoincrement table).IsMarked table := by
  cases operation with
  | addColumn column | modifyColumn column =>
    exact ⟨by rintro _ ⟨⟩; exact iff_of_true rfl rfl, by rintro _ ⟨⟩ _ ⟨⟩; rfl⟩
  | _ => exact h

theorem IsMarked.mapColumn {operation : AlterOperation} (h : operation.IsMarked table)
    {f : Column → Column} (hname : ∀ column, (f column).name = column.name)
    (hincrement : ∀ column, (f column).options.autoincrement = column.options.autoincrement) :
    (operation.mapColumn f).IsMarked table := by
  cases operation with
  | addColumn column | addAutoincrement column | modifyColumn column | autoincrement column =>
    refine ⟨?_, ?_⟩
    · rintro _ ⟨⟩
      rw [hincrement]
      exact h.autoincrement_iff column rfl
    · rintro _ ⟨⟩ key hkey
      rw [hname]
      exact h.key_eq column rfl key hkey
  | _ => exact h

theorem IsMarked.mapForeign {operation : AlterOperation} (h : operation.IsMarked table)
    (f : ForeignKey → ForeignKey) : (operation.mapForeign f).IsMarked table := by
  cases operation with
  | addForeign key => exact isMarked_of_noColumn rfl
  | _ => exact h

end AlterOperation

/-- Whether the column that a call declares, if it is a new one, is not auto-incrementing yet. That
is so of the columns declared by their type alone; being auto-incrementing is said of them later. -/
def AlterCall.IsFresh : AlterCall → Prop
  | column new => new.options.autoincrement = false
  | _ => True

namespace AlterBuilder

def AllMarked (s : AlterBuilder) : Prop :=
  ∀ operation ∈ s.operations, operation.IsMarked s.table.name

variable {s : AlterBuilder}

theorem AllMarked.push (h : s.AllMarked) {operation : AlterOperation}
    (hoperation : operation.IsMarked s.table.name) (handle : Handle) :
    (s.push operation handle).AllMarked :=
  List.forall_mem_append.mpr ⟨h, List.forall_mem_singleton.mpr hoperation⟩

theorem AllMarked.change (h : s.AllMarked) (slot : Nat) {f : AlterOperation → AlterOperation}
    (hf : ∀ operation : AlterOperation, operation.IsMarked s.table.name →
      (f operation).IsMarked s.table.name) : (s.change slot f).AllMarked := by
  intro refined hrefined
  obtain ⟨i, hi⟩ := List.mem_iff_getElem?.mp hrefined
  have hplace : (s.operations.modify slot f)[i]? = some refined := hi
  rw [List.getElem?_modify] at hplace
  obtain ⟨operation, hoperation, rfl⟩ := Option.map_eq_some_iff.mp hplace
  have hmarked := h operation (List.mem_of_getElem? hoperation)
  split
  · exact hf operation hmarked
  · exact hmarked

theorem AllMarked.onColumn (h : s.AllMarked) (slot : Nat) (step : ColumnStep) :
    (s.onColumn slot step).AllMarked := by
  cases step with
  | autoincrement => exact h.change slot fun _ hmarked => hmarked.makeAutoincrement
  | key kind => exact h.push (AlterOperation.isMarked_ofKey _ _) _
  | _ => exact h.change slot fun _ hmarked => hmarked.mapColumn (fun _ => rfl) fun _ => rfl

/-- No call leaves an auto-incrementing column without its key, or the other way around. -/
theorem AllMarked.call (h : s.AllMarked) {call : AlterCall} (hfresh : call.IsFresh) :
    (s.call call).AllMarked := by
  cases call with
  | column column =>
    refine h.push ⟨?_, ?_⟩ _
    · rintro _ ⟨⟩
      exact iff_of_false (Bool.eq_false_iff.mp hfresh) Bool.false_ne_true
    · rintro _ - _ ⟨⟩
  | modify name type =>
    refine h.push ⟨?_, ?_⟩ _
    · rintro _ ⟨⟩
      exact iff_of_false Bool.false_ne_true Bool.false_ne_true
    · rintro _ - _ ⟨⟩
  | autoincrement name =>
    refine h.push ⟨?_, ?_⟩ _
    · rintro _ ⟨⟩
      exact iff_of_true rfl rfl
    · rintro _ ⟨⟩ _ ⟨⟩
      rfl
  | key kind name columns => exact h.push (AlterOperation.isMarked_ofKey _ _) _
  | foreign name columns => exact h.push (AlterOperation.isMarked_of_noColumn rfl) _
  | onColumn step =>
    rcases call_onColumn_cases s step with ⟨slot, -, hcall⟩ | hcall
    · exact hcall ▸ h.onColumn slot step
    · exact hcall.symm ▸ h
  | refer table column =>
    rcases call_refer_cases s table column with ⟨key, hcall⟩ | hcall
    · exact hcall ▸ h.push (AlterOperation.isMarked_of_noColumn rfl) _
    · exact hcall.symm ▸ h
  | onForeign step =>
    rcases call_onForeign_cases s step with ⟨slot, -, hcall⟩ | hcall
    · exact hcall ▸ h.change slot fun _ hmarked => hmarked.mapForeign _
    · exact hcall.symm ▸ h
  | _ => exact h.push (AlterOperation.isMarked_of_noColumn rfl) _

theorem AllMarked.foldl (h : s.AllMarked) {calls : List AlterCall}
    (hfresh : ∀ call ∈ calls, call.IsFresh) : (calls.foldl AlterBuilder.call s).AllMarked := by
  induction calls generalizing s with
  | nil => exact h
  | cons call calls ih =>
    obtain ⟨hcall, hcalls⟩ := List.forall_mem_cons.mp hfresh
    exact ih (h.call hcall) hcalls

/-- Whether there is no handle, or its place has an operation that it is for. -/
def Fits (s : AlterBuilder) : Prop :=
  s.handle = .closed ∨ ∃ slot operation, s.operations[slot]? = some operation ∧
    s.handle.IsFor slot operation.subject

theorem Fits.of_keeps {s' : AlterBuilder} (h : s.Fits) (hhandle : s'.handle = s.handle)
    (hkeeps : Keeps s s') : s'.Fits := by
  unfold Fits
  rw [hhandle]
  refine h.imp_right fun ⟨slot, operation, hoperation, hfor⟩ => ?_
  obtain ⟨refined, hrefined, hsubject, -⟩ := hkeeps slot operation hoperation
  exact ⟨slot, refined, hrefined, hsubject ▸ hfor⟩

theorem Fits.step {s' : AlterBuilder} (h : s.Fits) (hstep : Step s s') : s'.Fits := by
  cases hstep with
  | push operation hhandle =>
    rcases hhandle with rfl | rfl | hfor
    · exact h.of_keeps rfl (Step.push operation (.inl rfl)).keeps
    · exact .inl rfl
    · exact .inr ⟨_, operation, List.getElem?_concat_length, hfor⟩
  | change hslot hf => exact h.of_keeps rfl (Step.change hslot hf).keeps
  | same => exact h

theorem Fits.foldl (h : s.Fits) (calls : List AlterCall) :
    (calls.foldl AlterBuilder.call s).Fits := by
  induction calls generalizing s with
  | nil => exact h
  | cons call calls ih => exact ih (h.step (step_call s call))

/-- Whether an operation declares an auto-incrementing column. -/
def HasCounter (s : AlterBuilder) : Prop :=
  ∃ operation ∈ s.operations, operation.counterKey?.isSome

theorem HasCounter.of_keeps {s' : AlterBuilder} (h : s.HasCounter) (hkeeps : Keeps s s') :
    s'.HasCounter := by
  obtain ⟨operation, hmem, hsome⟩ := h
  obtain ⟨i, hi⟩ := List.mem_iff_getElem?.mp hmem
  obtain ⟨refined, hrefined, -, hkey⟩ := hkeeps i operation hi
  obtain ⟨key, hkeyOf⟩ := Option.isSome_iff_exists.mp hsome
  exact ⟨refined, List.mem_of_getElem? hrefined, by rw [hkey key hkeyOf]; rfl⟩

end AlterBuilder

/-- SQLite adds no auto-incrementing column to a table and makes no column one. -/
theorem AlterOperation.plan_sqlite_of_counterKey? {operation : AlterOperation}
    (h : operation.counterKey?.isSome) (table : String) (types : ColumnTypes) :
    Yields (fun _ => False) (operation.plan .sqlite table types) := by
  cases operation with
  | addAutoincrement column key =>
    have hplan : Yields (fun _ => False) (addAutoincrementPlan .sqlite table column key) :=
      .after fun _ => .error
    exact hplan.bind fun _ hfalse => hfalse.elim
  | autoincrement column key => exact .after fun _ => .error
  | _ => cases h

namespace AlterBuilder

end AlterBuilder

end SqlDialects
