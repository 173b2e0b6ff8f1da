import SqlDialects.Table.Alter

/-! Calls that describe the changes to a table one after the other. A declaration appends an
operation and gives a handle, and what is said about a column or a foreign key goes through the
handle. Steps that say all about a column at once come to the same changes. -/

namespace SqlDialects

/-- What the last declaration gave: the place of the operation that it appended. -/
inductive Handle where
  | closed
  | column (slot : Nat)
  | foreign (slot : Nat)
deriving DecidableEq, Repr

def Handle.slot? : Handle → Option Nat
  | closed => none
  | column slot => some slot
  | foreign slot => some slot

inductive AlterCall where
  | column (column : Column)
  | modify (name : String) (type : ColumnType)
  | autoincrement (name : String)
  | renameColumn (source target : String)
  | dropColumn (name : String)
  | dropKey (kind : KeyKind) (name : String)
  | setDefault (column : String) (value : Value)
  | dropDefault (column : String)
  | key (kind : KeyKind) (name : Option String) (columns : List String)
  | foreign (name : Option String) (columns : List String)
  /-- A call on the handle of a column. -/
  | onColumn (step : ColumnStep)
  /-- The column of the handle refers to another one. The handle is one of a foreign key then. -/
  | refer (table column : String)
  /-- A call on the handle of a foreign key. -/
  | onForeign (step : ForeignStep)
deriving DecidableEq, Repr

namespace AlterOperation

/-- The operation with the foreign key that it adds changed. -/
def mapForeign (f : ForeignKey → ForeignKey) : AlterOperation → AlterOperation
  | addForeign key => addForeign (f key)
  | operation => operation

end AlterOperation

/-- The changes described so far, and the handle that calls go to. -/
structure AlterBuilder where
  table : AlterTable
  handle : Handle := .closed
deriving DecidableEq, Repr

namespace AlterBuilder

def operations (s : AlterBuilder) : List AlterOperation := s.table.operations

def push (s : AlterBuilder) (operation : AlterOperation) (handle : Handle) : AlterBuilder :=
  ⟨s.table.addOperations [operation], handle⟩

/-- The operation at a place is changed, or put another one in its place. -/
def change (s : AlterBuilder) (slot : Nat) (f : AlterOperation → AlterOperation) : AlterBuilder :=
  { s with table := { s.table with operations := s.operations.modify slot f } }

/-- The name of the column that the operation at a place defines. -/
def columnName (s : AlterBuilder) (slot : Nat) : String :=
  ((s.operations[slot]?.bind AlterOperation.column?).map Column.name).getD ""

def pushForeign (s : AlterBuilder) (name : Option String) (columns : List String) : AlterBuilder :=
  s.push (.addForeign (ForeignKey.declare s.table.name name columns []))
    (.foreign s.operations.length)

def onForeign (s : AlterBuilder) (slot : Nat) (step : ForeignStep) : AlterBuilder :=
  s.change slot (AlterOperation.mapForeign fun key => step.apply key)

def onColumn (s : AlterBuilder) (slot : Nat) : ColumnStep → AlterBuilder
  | .autoincrement => s.change slot (AlterOperation.makeAutoincrement s.table.name)
  | .key kind =>
    s.push (.ofKey kind (Key.declare s.table.name kind none [s.columnName slot])) s.handle
  | step => s.change slot (AlterOperation.mapColumn fun c => c.applyStep step)

def call (s : AlterBuilder) : AlterCall → AlterBuilder
  | .column column => s.push (.addColumn column) (.column s.operations.length)
  | .modify name type => s.push (.modifyColumn ⟨name, type, {}⟩) (.column s.operations.length)
  | .autoincrement name =>
    s.push (.autoincrement (Column.asAutoincrement ⟨name, .integer, {}⟩)
      (AlterOperation.primaryKeyName s.table.name name)) (.column s.operations.length)
  | .renameColumn source target => s.push (.renameColumn source target) .closed
  | .dropColumn name => s.push (.dropColumn name) .closed
  | .dropKey kind name => s.push (.dropKey kind name) .closed
  | .setDefault column value => s.push (.setDefault column value) .closed
  | .dropDefault column => s.push (.dropDefault column) .closed
  | .key kind name columns =>
    s.push (.ofKey kind (Key.declare s.table.name kind name columns)) .closed
  | .foreign name columns => s.pushForeign name columns
  | .onColumn step =>
    match s.handle with
    | .column slot => s.onColumn slot step
    | _ => s
  | .refer table column =>
    match s.handle with
    | .column slot =>
      (s.pushForeign none [s.columnName slot]).onForeign s.operations.length
        (.references table [column])
    | _ => s
  | .onForeign step =>
    match s.handle with
    | .foreign slot => s.onForeign slot step
    | _ => s

/-- All calls of a script on the changes to a table, of which there are none at first. -/
def run (name : String) (calls : List AlterCall) : AlterBuilder :=
  calls.foldl call { table := { name := name } }

end AlterBuilder

/-! Steps that say all about a column at once stand for calls on its handle. -/

/-- The calls on the handle of a column. -/
def ColumnSteps.calls (properties : ColumnSteps) : List AlterCall :=
  properties.steps.map .onColumn ++
    match properties.reference with
    | none => []
    | some reference =>
      .refer reference.table reference.column :: reference.steps.map .onForeign

def TableStep.calls : TableStep → List AlterCall
  | column new properties => .column new :: properties.calls
  | key kind name columns => [.key kind name columns]
  | foreign name columns steps => .foreign name columns :: steps.map .onForeign

def AlterStep.calls : AlterStep → List AlterCall
  | declare step => step.calls
  | modify column properties => .modify column.name column.type :: properties.calls
  | renameColumn source target => [.renameColumn source target]
  | dropColumn name => [.dropColumn name]
  | dropKey kind name => [.dropKey kind name]
  | setDefault column value => [.setDefault column value]
  | dropDefault column => [.dropDefault column]
  | autoincrement name properties => .autoincrement name :: properties.calls

/-- Whether a step that changes a column starts from a name and a type. -/
def AlterStep.IsPlain : AlterStep → Prop
  | modify column _ => column.options = {}
  | _ => True

namespace AlterBuilder

theorem modify_length_append (items : List α) (item : α) (later : List α) (f : α → α) :
    (items ++ item :: later).modify items.length f = items ++ f item :: later := by
  induction items with
  | nil => rfl
  | cons head items ih => exact congrArg (head :: ·) ih

theorem push_change (s : AlterBuilder) (operation : AlterOperation) (handle : Handle)
    (f : AlterOperation → AlterOperation) :
    (s.push operation handle).change s.operations.length f = s.push (f operation) handle :=
  congrArg (fun operations => AlterBuilder.mk { s.table with operations } handle)
    (modify_length_append s.operations operation [] f)

theorem foldl_onForeign (s : AlterBuilder) (key : ForeignKey) (steps : List ForeignStep) :
    (steps.map .onForeign).foldl call
        (s.push (.addForeign key) (.foreign s.operations.length)) =
      s.push (.addForeign (steps.foldl ForeignStep.apply key)) (.foreign s.operations.length) := by
  induction steps generalizing key with
  | nil => rfl
  | cons step steps ih =>
    have hcall : (s.push (.addForeign key) (.foreign s.operations.length)).call (.onForeign step) =
        s.push (.addForeign (ForeignStep.apply key step)) (.foreign s.operations.length) :=
      push_change s _ _ _
    rw [List.map_cons, List.foldl_cons, List.foldl_cons, hcall, ih]

/-- The handle of a column is open, and there are later operations already. -/
def opened (s : AlterBuilder) (operation : AlterOperation) (later : List AlterOperation) :
    AlterBuilder :=
  ⟨s.table.addOperations (operation :: later), .column s.operations.length⟩

variable {name : String}

theorem columnName_opened (s : AlterBuilder) {operation : AlterOperation}
    (hname : operation.column?.map Column.name = some name) (later : List AlterOperation) :
    (s.opened operation later).columnName s.operations.length = name := by
  simp [columnName, opened, operations, AlterTable.addOperations, hname]

theorem change_opened (s : AlterBuilder) (operation : AlterOperation) (later : List AlterOperation)
    (f : AlterOperation → AlterOperation) :
    (s.opened operation later).change s.operations.length f = s.opened (f operation) later :=
  congrArg
    (fun operations => AlterBuilder.mk { s.table with operations } (.column s.operations.length))
    (modify_length_append s.operations operation later f)

theorem call_onColumn (s : AlterBuilder) {operation : AlterOperation}
    (hname : operation.column?.map Column.name = some name) (later : List AlterOperation)
    (step : ColumnStep) :
    ∃ operation' later',
      AlterOperation.applyColumnStep s.table.name name (operation, later) step =
        (operation', later') ∧ operation'.column?.map Column.name = some name ∧
      (s.opened operation later).call (.onColumn step) = s.opened operation' later' := by
  cases step with
  | autoincrement =>
    refine ⟨_, _, rfl, ?_, change_opened s operation later _⟩
    cases operation <;> exact hname
  | key kind =>
    refine ⟨_, _, rfl, hname, ?_⟩
    show ((s.opened operation later).onColumn s.operations.length (.key kind)) = _
    rw [onColumn, columnName_opened s hname]
    simp [opened, push, AlterTable.addOperations]
  | _ =>
    refine ⟨_, _, rfl, ?_, change_opened s operation later _⟩
    cases operation <;> exact hname

theorem foldl_onColumn (s : AlterBuilder) {operation : AlterOperation}
    (hname : operation.column?.map Column.name = some name) (later : List AlterOperation)
    (steps : List ColumnStep) :
    ∃ operation' later',
      steps.foldl (AlterOperation.applyColumnStep s.table.name name) (operation, later) =
        (operation', later') ∧ operation'.column?.map Column.name = some name ∧
      (steps.map .onColumn).foldl call (s.opened operation later) = s.opened operation' later' := by
  induction steps generalizing operation later with
  | nil => exact ⟨operation, later, rfl, hname, rfl⟩
  | cons step steps ih =>
    obtain ⟨operation', later', happly, hname', hcall⟩ := call_onColumn s hname later step
    rw [List.foldl_cons, List.map_cons, List.foldl_cons, happly, hcall]
    exact ih hname' later'

/-- Calls on the handle of a column add what its properties do. -/
theorem table_foldl_properties (s : AlterBuilder) {operation : AlterOperation}
    (hname : operation.column?.map Column.name = some name) (properties : ColumnSteps) :
    (properties.calls.foldl call (s.push operation (.column s.operations.length))).table =
      s.table.addDefinition operation name properties := by
  obtain ⟨operation', later, happly, hname', hcalls⟩ :=
    foldl_onColumn s hname [] properties.steps
  have hopened : s.push operation (.column s.operations.length) = s.opened operation [] := rfl
  rw [ColumnSteps.calls, List.foldl_append, AlterTable.addDefinition, happly, hopened, hcalls]
  cases properties.reference with
  | none => exact congrArg s.table.addOperations (List.append_nil _).symm
  | some reference =>
    have hrefer : (s.opened operation' later).call (.refer reference.table reference.column) =
        (s.opened operation' later).push
          (.addForeign (ForeignKey.declare s.table.name none [name]
            [.references reference.table [reference.column]]))
          (.foreign (s.opened operation' later).operations.length) := by
      show ((s.opened operation' later).pushForeign none
        [(s.opened operation' later).columnName s.operations.length]).onForeign _ _ = _
      rw [columnName_opened s hname', pushForeign, onForeign, push_change]
      rfl
    rw [List.foldl_cons, hrefer, foldl_onForeign]
    simp [opened, push, AlterTable.addOperations, Reference.toForeignKey, ForeignKey.declare]

/-- A step of a description does what its calls do. -/
theorem table_foldl_calls (s : AlterBuilder) {step : AlterStep} (h : step.IsPlain) :
    (step.calls.foldl call s).table = s.table.apply step := by
  cases step with
  | declare step =>
    cases step with
    | column new properties => exact table_foldl_properties s rfl properties
    | key kind name columns => rfl
    | foreign name columns steps =>
      exact congrArg AlterBuilder.table (foldl_onForeign s _ steps)
  | modify column properties =>
    obtain ⟨name, type, options⟩ := column
    cases h
    exact table_foldl_properties s rfl properties
  | autoincrement name properties => exact table_foldl_properties s rfl properties
  | _ => rfl

/-- A description put together from steps is the one put together from their calls. -/
theorem run_calls (name : String) {steps : List AlterStep} (h : ∀ step ∈ steps, step.IsPlain) :
    (run name (steps.flatMap AlterStep.calls)).table = AlterTable.ofSteps name steps := by
  have hfrom (s : AlterBuilder) : ((steps.flatMap AlterStep.calls).foldl call s).table =
      steps.foldl AlterTable.apply s.table := by
    induction steps generalizing s with
    | nil => rfl
    | cons step steps ih =>
      obtain ⟨hstep, hsteps⟩ := List.forall_mem_cons.mp h
      rw [List.flatMap_cons, List.foldl_append, ih hsteps, table_foldl_calls s hstep,
        List.foldl_cons]
  exact hfrom _

end AlterBuilder

end SqlDialects
