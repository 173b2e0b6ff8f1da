import SqlDialects.Session.Basic

/-! What is said between a session and a database. A database that keeps a record shows which
requests a session makes, in which order, and which of them it rejects; the transcript is the
record when the session has ended. The record is kept beside the states of the database and changes
nothing else. -/

namespace SqlDialects

/-- What a database is asked to do. -/
inductive Request where
  | fetch (query : Compiled)
  | execute (statement : Compiled)
deriving DecidableEq, Repr

/-- A request and the error that it was rejected with, if it was. -/
structure Exchange where
  request : Request
  rejection : Option Error

namespace Request

def accepted (request : Request) : Exchange := ⟨request, none⟩

def rejected (request : Request) (error : Error) : Exchange := ⟨request, some error⟩

end Request

/-- What a session comes to: its result, the state of the database after it, and what was said. -/
structure Transcript (σ α : Type) where
  result : Except Error α
  state : σ
  exchanges : List Exchange

namespace Transcript

variable {σ α β γ : Type}

/-- One request and the reply to it. -/
def ofReply (request : Request) : Except Error α × σ → Transcript σ α
  | (.ok answer, after) => ⟨.ok answer, after, [request.accepted]⟩
  | (.error error, after) => ⟨.error error, after, [request.rejected error]⟩

/-- The transcript with what was said before. -/
def behind (earlier : List Exchange) (t : Transcript σ α) : Transcript σ α :=
  { t with exchanges := earlier ++ t.exchanges }

/-- The transcript of what goes on with the result, if that is no error. -/
def andThen (t : Transcript σ α) (next : α → σ → Transcript σ β) : Transcript σ β :=
  match t.result with
  | .ok a => (next a t.state).behind t.exchanges
  | .error error => ⟨.error error, t.state, t.exchanges⟩

theorem behind_andThen (earlier : List Exchange) (t : Transcript σ α)
    (next : α → σ → Transcript σ β) :
    (t.behind earlier).andThen next = (t.andThen next).behind earlier := by
  rcases t with ⟨_ | a, state, exchanges⟩
  · rfl
  · simp only [andThen, behind, List.append_assoc]

theorem andThen_assoc (t : Transcript σ α) (next : α → σ → Transcript σ β)
    (last : β → σ → Transcript σ γ) :
    (t.andThen next).andThen last = t.andThen fun a state => (next a state).andThen last := by
  rcases t with ⟨_ | a, state, exchanges⟩
  · rfl
  · exact behind_andThen exchanges (next a state) last

end Transcript

/-- A computation on the states of a database that keeps a record. -/
abbrev Recorded (σ α : Type) := ExceptT Error (StateM (σ × List Exchange)) α

namespace Recorded

variable {σ α β : Type}

/-- A reply to a request, with the exchange added to the record. -/
def keep (request : Request) (reply : ExceptT Error (StateM σ) α) : Recorded σ α :=
  ExceptT.mk fun (state, record) =>
    let t := Transcript.ofReply request (reply.run.run state)
    (t.result, t.state, record ++ t.exchanges)

def transcript (x : Recorded σ α) (state : σ) : Transcript σ α :=
  let (result, after, record) := x.run.run (state, [])
  ⟨result, after, record⟩

/-- Whether the computation leaves what was said before it alone. -/
def Appends (x : Recorded σ α) : Prop :=
  ∀ state record, x.run.run (state, record) =
    ((x.transcript state).result, (x.transcript state).state,
      record ++ (x.transcript state).exchanges)

theorem run_keep_bind (request : Request) (reply : ExceptT Error (StateM σ) α)
    {next : α → Recorded σ β} (hnext : ∀ a, (next a).Appends) (state : σ)
    (record : List Exchange) :
    let t := (Transcript.ofReply request (reply.run.run state)).andThen fun a after =>
      (next a).transcript after
    (keep request reply >>= next).run.run (state, record) =
      (t.result, t.state, record ++ t.exchanges) := by
  have hbind : (keep request reply >>= next).run.run (state, record) =
      let t := Transcript.ofReply request (reply.run.run state)
      (ExceptT.bindCont next t.result).run (t.state, record ++ t.exchanges) := rfl
  rw [hbind]
  rcases reply.run.run state with ⟨error | a, after⟩
  · rfl
  · have happends := hnext a after (record ++ [request.accepted])
    rw [List.append_assoc] at happends
    exact happends

theorem transcript_keep_bind (request : Request) (reply : ExceptT Error (StateM σ) α)
    {next : α → Recorded σ β} (hnext : ∀ a, (next a).Appends) (state : σ) :
    (keep request reply >>= next).transcript state =
      (Transcript.ofReply request (reply.run.run state)).andThen fun a after =>
        (next a).transcript after := by
  have hrun := run_keep_bind request reply hnext state []
  unfold transcript at hrun ⊢
  rw [hrun]
  rfl

theorem Appends.keep_bind (request : Request) (reply : ExceptT Error (StateM σ) α)
    {next : α → Recorded σ β} (hnext : ∀ a, (next a).Appends) :
    (keep request reply >>= next).Appends := by
  intro state record
  rw [transcript_keep_bind request reply hnext]
  exact run_keep_bind request reply hnext state record

end Recorded

/-- The same database with a record of all exchanges. -/
def Database.recording {σ : Type} (database : Database σ) : Database (σ × List Exchange) where
  fetch query := Recorded.keep (.fetch query) (database.fetch query)
  execute statement := Recorded.keep (.execute statement) (database.execute statement)

namespace Session

variable {σ α β : Type}

/-- What a session says to a database and what comes of it. -/
def transcript (session : Session α) (database : Database σ) (state : σ) : Transcript σ α :=
  Recorded.transcript (session.run database.recording) state

section

variable (database : Database σ)

theorem appends (session : Session α) : Recorded.Appends (session.run database.recording) := by
  induction session with
  | done result =>
    intro state record
    exact congrArg (fun r => (result, state, r)) (List.append_nil record).symm
  | fetch query next ih => exact .keep_bind (.fetch query) (database.fetch query) ih
  | execute statement next ih =>
    exact .keep_bind (.execute statement) (database.execute statement) ih

theorem transcript_done (result : Except Error α) (state : σ) :
    (done result).transcript database state = ⟨result, state, []⟩ := rfl

theorem transcript_fetch (query : Compiled) (next : List Row → Session α) (state : σ) :
    (fetch query next).transcript database state =
      (Transcript.ofReply (.fetch query) ((database.fetch query).run.run state)).andThen
        fun rows after => (next rows).transcript database after :=
  Recorded.transcript_keep_bind _ _ (fun rows => appends database (next rows)) state

theorem transcript_execute (statement : Compiled) (next : Outcome → Session α) (state : σ) :
    (execute statement next).transcript database state =
      (Transcript.ofReply (.execute statement) ((database.execute statement).run.run state)).andThen
        fun outcome after => (next outcome).transcript database after :=
  Recorded.transcript_keep_bind _ _ (fun outcome => appends database (next outcome)) state

theorem transcript_bind (session : Session α) (next : α → Session β) (state : σ) :
    (session >>= next).transcript database state =
      (session.transcript database state).andThen fun a after =>
        (next a).transcript database after := by
  induction session generalizing state with
  | done result =>
    cases result with
    | ok a => rfl
    | error error => rfl
  | fetch query rest ih =>
    calc (fetch query rest >>= next).transcript database state
        = (fetch query fun rows => rest rows >>= next).transcript database state := rfl
      _ = _ := by
        rw [transcript_fetch, transcript_fetch, Transcript.andThen_assoc]
        simp only [ih]
  | execute statement rest ih =>
    calc (execute statement rest >>= next).transcript database state
        = (execute statement fun outcome => rest outcome >>= next).transcript database state := rfl
      _ = _ := by
        rw [transcript_execute, transcript_execute, Transcript.andThen_assoc]
        simp only [ih]

theorem run_reply_bind (request : Request) (reply : ExceptT Error (StateM σ) α)
    {next : α → ExceptT Error (StateM σ) β} {later : α → σ → Transcript σ β}
    (h : ∀ a after, (next a).run.run after = ((later a after).result, (later a after).state))
    (state : σ) :
    let t := (Transcript.ofReply request (reply.run.run state)).andThen later
    (reply >>= next).run.run state = (t.result, t.state) := by
  have hbind : (reply >>= next).run.run state =
      (ExceptT.bindCont next (reply.run.run state).1).run (reply.run.run state).2 := rfl
  rw [hbind]
  rcases reply.run.run state with ⟨error | a, after⟩
  · rfl
  · exact h a after

/-- The record changes nothing: the session comes to the same result and the same state of the
database without it. -/
theorem run_eq_transcript (session : Session α) (state : σ) :
    (session.run database).run.run state =
      ((session.transcript database state).result, (session.transcript database state).state) := by
  induction session generalizing state with
  | done result => rfl
  | fetch query next ih =>
    rw [transcript_fetch]
    exact run_reply_bind (.fetch query) (database.fetch query) ih state
  | execute statement next ih =>
    rw [transcript_execute]
    exact run_reply_bind (.execute statement) (database.execute statement) ih state

end

end Session

end SqlDialects
