import SqlDialects.Proofs.Session.Transcript
import SqlDialects.Query.Recording
import SqlDialects.Session.Changes
import SqlDialects.Session.Rows
import SqlDialects.Session.Schema
import SqlDialects.Statement.Compile

/-! What is sent when a builder is asked for its result or a schema is changed. Everything is
compiled before the first statement is sent; the statements are then carried out in order up to the
first that is rejected. Before that only the types of columns may be read. -/

namespace SqlDialects

namespace Transcript

variable {σ α : Type}

/-- One request is made. The error of a rejection is the result. -/
def Asks (request : Request) (t : Transcript σ α) : Prop :=
  t.exchanges = [request.accepted] ∨
    ∃ error, t.exchanges = [request.rejected error] ∧ t.result = .error error

/-- The requests are made in order and all are accepted, or they are made in order up to one that is
rejected, whose error is the result. -/
def Follows (requests : List Request) (t : Transcript σ Unit) : Prop :=
  (t.exchanges = requests.map Request.accepted ∧ t.result = .ok ()) ∨
    ∃ before request after error, requests = before ++ request :: after ∧
      t.exchanges = before.map Request.accepted ++ [request.rejected error] ∧
      t.result = .error error

/-- One request is made if nothing more is said after the reply. -/
theorem Asks.ofReply {request : Request} {β : Type} (reply : Except Error β × σ)
    {next : β → σ → Transcript σ α} (h : ∀ b after, (next b after).exchanges = []) :
    ((Transcript.ofReply request reply).andThen next).Asks request := by
  rcases reply with ⟨error | b, after⟩
  · exact .inr ⟨error, rfl, rfl⟩
  · refine .inl ?_
    simp only [Transcript.ofReply, andThen, behind, h, List.append_nil]

/-- The transcript without the value of the result. -/
def discard (t : Transcript σ α) : Transcript σ Unit :=
  { t with result := t.result.map fun _ => () }

theorem Follows.behind {requests : List Request} {t : Transcript σ Unit} (h : t.Follows requests)
    (request : Request) : (t.behind [request.accepted]).Follows (request :: requests) := by
  obtain ⟨hexchanges, hresult⟩ | ⟨before, rejected, after, error, rfl, hexchanges, hresult⟩ := h
  · exact .inl ⟨by rw [Transcript.behind, hexchanges]; rfl, hresult⟩
  · exact .inr ⟨request :: before, rejected, after, error, rfl,
      by rw [Transcript.behind, hexchanges]; rfl, hresult⟩

/-- A result that is only turned into another one. -/
theorem discard_andThen_ok {β : Type} (t : Transcript σ α) (f : α → β) :
    (t.andThen fun a after => ⟨.ok (f a), after, []⟩).discard = t.discard := by
  rcases t with ⟨_ | a, state, exchanges⟩
  · rfl
  · simp only [discard, andThen, behind, List.append_nil]
    rfl

end Transcript

namespace Session

variable {σ α : Type} (database : Database σ)

theorem transcript_ofExcept_bind (x : Except Error α) {β : Type} (next : α → Session β)
    (state : σ) :
    (ofExcept x >>= next).transcript database state =
      match x with
      | .ok a => (next a).transcript database state
      | .error error => ⟨.error error, state, []⟩ := by
  cases x <;> rfl

theorem asks_fetch {query : Compiled} {next : List Row → Session α}
    (h : ∀ rows, ∃ result, next rows = .done result) (state : σ) :
    ((fetch query next).transcript database state).Asks (.fetch query) := by
  rw [transcript_fetch]
  refine .ofReply _ fun rows after => ?_
  obtain ⟨result, hresult⟩ := h rows
  rw [hresult, transcript_done]

theorem asks_execute {statement : Compiled} {next : Outcome → Session α}
    (h : ∀ outcome, ∃ result, next outcome = .done result) (state : σ) :
    ((execute statement next).transcript database state).Asks (.execute statement) := by
  rw [transcript_execute]
  refine .ofReply _ fun outcome after => ?_
  obtain ⟨result, hresult⟩ := h outcome
  rw [hresult, transcript_done]

/-- Statements that are sent in order are sent up to the first that is rejected. -/
theorem follows_executeAll (statements : List Compiled) (state : σ) :
    ((executeAll statements).transcript database state).Follows
      (statements.map Request.execute) := by
  induction statements generalizing state with
  | nil => exact .inl ⟨rfl, rfl⟩
  | cons statement rest ih =>
    unfold executeAll
    rw [transcript_execute]
    rcases (database.execute statement).run.run state with ⟨error | outcome, after⟩
    · exact .inr ⟨[], .execute statement, _, error, rfl, rfl, rfl⟩
    · exact (ih after).behind (.execute statement)

end Session

/-- What a builder of rows can be asked for in the end, by the type of the answer. -/
inductive Terminal : Type → Type where
  | select (query : Query) (columns : List Projection) : Terminal (List Row)
  | all (query : Query) : Terminal (List Row)
  | column (query : Query) (name : String) : Terminal (Option Json)
  | count (query : Query) (columns : List String) (distinct : Bool) : Terminal Int64
  /-- Another aggregate of one column. -/
  | aggregate (query : Query) (function : Aggregate) (column : String) (distinct : Bool) :
    Terminal (Option Json)
  | delete (delete : Delete) : Terminal UInt64
  | set (update : Update) (assignments : List (String × Written)) : Terminal UInt64
  | increment (update : Update) (column : String) (step : Value) : Terminal UInt64
  | decrement (update : Update) (column : String) (step : Value) : Terminal UInt64
  | insert (pending : PendingRows) (table : String) : Terminal Outcome

namespace Terminal

variable {α : Type}

/-- The session in which the answer is found. -/
def execute (dialect : Dialect) : Terminal α → Session α
  | select query projections => (query.record (.columns projections)).fetchRows dialect
  | all query => query.fetchRows dialect
  | column query name => query.fetchColumn dialect name
  | count query names unique => query.fetchCount dialect names unique
  | aggregate query function name unique => query.fetchAggregate dialect function name unique
  | delete deletion => deletion.execute dialect
  | set update assignments => (update.assignAll assignments).execute dialect
  | increment update name step => (update.increment name step).execute dialect
  | decrement update name step => (update.decrement name step).execute dialect
  | insert pending table => pending.execute dialect table

/-- What the builder in its last state compiles to. -/
def compile (dialect : Dialect) : Terminal α → Except Error Compiled
  | select query projections => (query.record (.columns projections)).compile dialect
  | all query => query.compile dialect
  | column query name => (query.columnOf name).compile dialect
  | count query names unique => (query.aggregateOf (Call.count names unique)).compile dialect
  | aggregate query function name unique =>
    (query.aggregateOf (Call.ofAggregate function name unique)).compile dialect
  | delete deletion => deletion.compile dialect
  | set update assignments => (update.assignAll assignments).compile dialect
  | increment update name step => (update.increment name step).compile dialect
  | decrement update name step => (update.decrement name step).compile dialect
  | insert pending table => pending.compile dialect table

/-- Rows are fetched, and changes are executed. -/
def request : Terminal α → Compiled → Request
  | select _ _ | all _ | column _ _ | count _ _ _ | aggregate _ _ _ _ => .fetch
  | delete _ | set _ _ | increment _ _ _ | decrement _ _ _ | insert _ _ => .execute

/-- What is done with the compiled statement. -/
def send : Terminal α → Compiled → Session α
  | select _ _, compiled => Session.fetchRows compiled
  | all _, compiled => Session.fetchRows compiled
  | column _ _, compiled => return scalar? (← Session.fetchRows compiled)
  | aggregate _ _ _ _, compiled => return scalar? (← Session.fetchRows compiled)
  | count _ _ _, compiled => do
    Session.ofExcept (countOfCell (scalar? (← Session.fetchRows compiled)))
  | delete _, compiled => return (← Session.executeOne compiled).rowsAffected
  | set _ _, compiled => return (← Session.executeOne compiled).rowsAffected
  | increment _ _ _, compiled => return (← Session.executeOne compiled).rowsAffected
  | decrement _ _ _, compiled => return (← Session.executeOne compiled).rowsAffected
  | insert _ _, compiled => Session.executeOne compiled

theorem execute_eq (dialect : Dialect) (terminal : Terminal α) :
    terminal.execute dialect = Session.ofExcept (terminal.compile dialect) >>= terminal.send := by
  cases terminal with
  | select query columns => rfl
  | all query => rfl
  | insert pending table => rfl
  | delete deletion => rfl
  | set update assignments => rfl
  | increment update name step => rfl
  | decrement update name step => rfl
  | column query name =>
    simp only [execute, compile, Query.fetchColumn, Query.fetchScalar, Query.fetchRows]
    cases (query.columnOf name).compile dialect <;> rfl
  | count query names unique =>
    simp only [execute, compile, Query.fetchCount, Query.fetchScalar, Query.fetchRows]
    cases (query.aggregateOf (Call.count names unique)).compile dialect <;> rfl
  | aggregate query function name unique =>
    simp only [execute, compile, Query.fetchAggregate, Query.fetchScalar, Query.fetchRows]
    cases (query.aggregateOf (Call.ofAggregate function name unique)).compile dialect <;> rfl

theorem asks_send {σ : Type} (database : Database σ) (terminal : Terminal α) (compiled : Compiled)
    (state : σ) :
    ((terminal.send compiled).transcript database state).Asks (terminal.request compiled) := by
  cases terminal with
  | select | all | column | count | aggregate =>
    exact Session.asks_fetch database (fun rows => ⟨_, rfl⟩) state
  | delete | set | increment | decrement | insert =>
    exact Session.asks_execute database (fun outcome => ⟨_, rfl⟩) state

/-- A builder that does not compile sends nothing and gives the error of its compilation. One that
does sends what its last state compiles to, once and nothing else. -/
def CompilesFirst {σ : Type} (dialect : Dialect) (database : Database σ) (state : σ)
    (terminal : Terminal α) : Prop :=
  let t := (terminal.execute dialect).transcript database state
  match terminal.compile dialect with
  | .ok compiled => t.Asks (terminal.request compiled)
  | .error error => t = ⟨.error error, state, []⟩

theorem compilesFirst {σ : Type} (dialect : Dialect) (database : Database σ) (state : σ)
    (terminal : Terminal α) : terminal.CompilesFirst dialect database state := by
  unfold CompilesFirst
  rw [execute_eq, Session.transcript_ofExcept_bind]
  cases terminal.compile dialect with
  | ok compiled => exact terminal.asks_send database compiled state
  | error error => rfl

end Terminal

/-- What a schema can be asked to change. -/
inductive SchemaChange where
  | create (table : CreateTable)
  | alter (table : AlterTable)
  | drop (table : String)
  | truncate (table : String)
  | rename (source target : String)

namespace SchemaChange

/-- The statement of the change, with the types of the columns that the table has at present. -/
def toStatement (types : ColumnTypes) : SchemaChange → Statement
  | create table => .createTable table
  | alter table => .alterTable table types
  | drop table => .dropTable table
  | truncate table => .truncateTable table
  | rename source target => .renameTable source target

/-- The table that the change is about. -/
def tableName : SchemaChange → String
  | create table => table.name
  | alter table => table.name
  | drop table => table
  | truncate table => table
  | rename source _ => source

def execute (dialect : Dialect) : SchemaChange → Session Unit
  | create table => table.execute dialect
  | alter table => table.execute dialect
  | drop table => (Definition.dropTable table).execute dialect
  | truncate table => (Definition.ofTruncate dialect table).execute dialect
  | rename source target => (Definition.ofRename dialect source target).execute dialect

/-- Whether the types of columns are read: for MySQL, if a column gets a new name. -/
def ReadsTypes (dialect : Dialect) : SchemaChange → Prop
  | alter table =>
    dialect = .mysql ∧ ∃ source target, .renameColumn source target ∈ table.operations
  | _ => False

/-- The types of columns that are read before the change compiles. -/
def fetchTypes (dialect : Dialect) : SchemaChange → Session ColumnTypes
  | alter table => table.fetchTypes dialect
  | _ => Session.ofExcept (.ok ColumnTypes.empty)

theorem execute_eq (dialect : Dialect) (change : SchemaChange) :
    change.execute dialect = change.fetchTypes dialect >>= fun types =>
      Session.ofExcept ((change.toStatement types).compile dialect) >>= Session.executeAll := by
  cases change <;> rfl

theorem needsTypes_iff {dialect : Dialect} {table : AlterTable} :
    table.needsTypes dialect ↔ (alter table).ReadsTypes dialect := by
  have hrenamed (name : String) : name ∈ table.renamedColumns ↔
      ∃ target, .renameColumn name target ∈ table.operations := by
    simp only [AlterTable.renamedColumns, List.mem_filterMap]
    constructor
    · rintro ⟨operation, hmem, hname⟩
      cases operation <;> cases hname
      exact ⟨_, hmem⟩
    · rintro ⟨target, hmem⟩
      exact ⟨_, hmem, rfl⟩
  simp only [AlterTable.needsTypes, ReadsTypes, Bool.and_eq_true, decide_eq_true_eq,
    Bool.not_eq_true', List.isEmpty_eq_false_iff_exists_mem, hrenamed]

end SchemaChange

/-- The requests with which the columns of a table are read, once the name of the database is
known. -/
def Catalog.columnRequests (dialect : Dialect) (table name : String) : List Request :=
  [.fetch ((database dialect).compile dialect),
    .fetch ((columns dialect name table).compile dialect)]

theorem Catalog.fetchColumns_eq (dialect : Dialect) (table : String) :
    fetchColumns dialect table =
      .fetch ((Catalog.database dialect).compile dialect) fun names =>
        .fetch ((columns dialect ((names.head?.bind fun row => row.text? "name").getD "")
          table).compile dialect) fun rows => .done (.ok (rows.filterMap ColumnInfo.ofRow?)) := rfl

theorem Catalog.follows_fetchColumns (dialect : Dialect) (table : String) {σ : Type}
    (database : Database σ) (state : σ) :
    ∃ name, ((fetchColumns dialect table).transcript database state).discard.Follows
      (columnRequests dialect table name) := by
  rw [fetchColumns_eq, Session.transcript_fetch]
  rcases (database.fetch _).run.run state with ⟨error | rows, after⟩
  · exact ⟨"", .inr ⟨[], _, _, error, rfl, rfl, rfl⟩⟩
  · refine ⟨(rows.head?.bind fun row => row.text? "name").getD "", ?_⟩
    simp only [Transcript.ofReply, Transcript.andThen, Session.transcript_fetch]
    rcases (database.fetch _).run.run after with ⟨error | rows, last⟩
    · exact .inr ⟨[_], _, _, error, rfl, rfl, rfl⟩
    · exact .inl ⟨rfl, rfl⟩

namespace SchemaChange

variable {σ : Type} (dialect : Dialect) (database : Database σ) (state : σ)

/-- What is said before the change compiles. -/
def reading (change : SchemaChange) : Transcript σ ColumnTypes :=
  (change.fetchTypes dialect).transcript database state

def transcript (change : SchemaChange) : Transcript σ Unit :=
  (change.execute dialect).transcript database state

structure CompilesFirst (change : SchemaChange) : Prop where
  /-- Nothing is said before the change compiles unless the types of columns are read. -/
  silent : ¬change.ReadsTypes dialect →
    change.reading dialect database state = ⟨.ok .empty, state, []⟩
  /-- They are read with two requests. -/
  reads : change.ReadsTypes dialect → ∃ name,
    (change.reading dialect database state).discard.Follows
      (Catalog.columnRequests dialect change.tableName name)
  /-- If they cannot be read, that is all. -/
  unread : ∀ error, (change.reading dialect database state).result = .error error →
    change.transcript dialect database state =
      { change.reading dialect database state with result := .error error }
  /-- If the change does not compile, nothing more is said, and the error is the result. -/
  refused : ∀ types error, (change.reading dialect database state).result = .ok types →
    (change.toStatement types).compile dialect = .error error →
    change.transcript dialect database state =
      { change.reading dialect database state with result := .error error }
  /-- If it compiles, its statements are carried out up to the first that is rejected. -/
  runs : ∀ types statements, (change.reading dialect database state).result = .ok types →
    (change.toStatement types).compile dialect = .ok statements →
    ∃ running : Transcript σ Unit, running.Follows (statements.map Request.execute) ∧
      change.transcript dialect database state =
        running.behind (change.reading dialect database state).exchanges

theorem transcript_eq (change : SchemaChange) :
    change.transcript dialect database state =
      (change.reading dialect database state).andThen fun types after =>
        match (change.toStatement types).compile dialect with
        | .ok statements => (Session.executeAll statements).transcript database after
        | .error error => ⟨.error error, after, []⟩ := by
  unfold transcript reading
  rw [execute_eq, Session.transcript_bind]
  congr
  funext types after
  rw [Session.transcript_ofExcept_bind]
  cases (change.toStatement types).compile dialect <;> rfl

theorem compilesFirst (change : SchemaChange) : change.CompilesFirst dialect database state where
  silent := by
    intro h
    cases change with
    | alter table =>
      have hneeds : table.needsTypes dialect = false := by
        rwa [← needsTypes_iff, Bool.not_eq_true] at h
      simp only [reading, fetchTypes, AlterTable.fetchTypes, hneeds, Bool.false_eq_true, ↓reduceIte]
      rfl
    | _ => rfl
  reads := by
    intro h
    cases change with
    | alter table =>
      have hneeds : table.needsTypes dialect = true := needsTypes_iff.2 h
      obtain ⟨name, hfollows⟩ := Catalog.follows_fetchColumns dialect table.name database state
      refine ⟨name, ?_⟩
      simp only [reading, fetchTypes, AlterTable.fetchTypes, hneeds, ↓reduceIte]
      rw [Session.transcript_bind]
      exact (Transcript.discard_andThen_ok _ ColumnInfo.types).symm ▸ hfollows
    | _ => exact h.elim
  unread := by
    intro error h
    rw [transcript_eq]
    unfold Transcript.andThen
    rw [h]
  refused := by
    intro types error h hcompile
    rw [transcript_eq]
    unfold Transcript.andThen
    simp only [h, hcompile, Transcript.behind, List.append_nil]
  runs := by
    intro types statements h hcompile
    refine ⟨_, Session.follows_executeAll database statements
      (change.reading dialect database state).state, ?_⟩
    rw [transcript_eq]
    unfold Transcript.andThen
    simp only [h, hcompile]

end SchemaChange

/-- All is compiled before it is sent, for every builder of rows and every change of a schema, with
any database. The transcripts that say so are what sessions come to with the database itself. -/
theorem compiled_before_sent {σ : Type} (dialect : Dialect) (database : Database σ) (state : σ) :
    (∀ {α : Type} (terminal : Terminal α), terminal.CompilesFirst dialect database state) ∧
      (∀ change : SchemaChange, change.CompilesFirst dialect database state) ∧
      ∀ {α : Type} (session : Session α), (session.run database).run.run state =
        ((session.transcript database state).result, (session.transcript database state).state) :=
  ⟨fun terminal => terminal.compilesFirst dialect database state,
    fun change => change.compilesFirst dialect database state,
    fun session => session.run_eq_transcript database state⟩

end SqlDialects
