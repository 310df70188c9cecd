import OmpMySQL.Engine
import OmpMySQL.Statement

/-! One prepared statement in use: the main thread binds and executes it, its
connection's worker performs the executions, and everything else the engine does
goes on around them. -/

namespace OmpMySQL.StatementRuns

/-- The statement the runs are about, where it was prepared, and the number of
placeholders the server finds in it. -/
structure Target (κ : Type) where
  conn : κ
  id : StatementId
  serverParams : Nat

/-- `bound` is the last value a script bound to each placeholder, `accepted` what
was bound at each accepted execution, `performed` what each execution sent. The
code keeps none of the three. -/
structure State (κ : Type) where
  engine : Engine.State κ := {}
  statement : PreparedStatement
  bound : Nat → StmtParam := fun _ => .null
  accepted : List (Nat → StmtParam) := []
  performed : List (Option (List StmtParam)) := []

inductive Event (κ : Type) where
  | bind (paramIndex : Int) (value : StmtParam)
  | execute (connectionHandle : Int) (callback : String) (args : List CallbackArg)
  | perform (ticket : Engine.Ticket κ) (reply : StatementReply)
  | other (event : Engine.Event κ)

def executeJob (id : StatementId) (statement : PreparedStatement) (connectionHandle : Int) (callback : String)
    (args : List CallbackArg) : QueryJob :=
  { statement := some id, sql := statement.query, connectionHandle, callback, args }

def bindTo (bound : Nat → StmtParam) (index : Int) (value : StmtParam) : Nat → StmtParam :=
  if index < 0 then bound else fun i => if i = index.toNat then value else bound i

def subjects {κ : Type} : Engine.Event κ → List (Engine.Ticket κ)
  | .enqueue ticket | .runSync ticket | .drop ticket | .send ticket => [ticket]
  | .finish done => [done.ticket]
  | _ => []

def Target.owns {κ : Type} (target : Target κ) (ticket : Engine.Ticket κ) : Bool :=
  ticket.job.statement == some target.id

variable {κ : Type} [DecidableEq κ]

/-- Scripts count placeholders from one. `PreparedStatement::execute` is atomic. -/
def step (target : Target κ) (state : State κ) : Event κ → Option (State κ)
  | .bind paramIndex value =>
    if state.engine.main = .free then
      some { state with
        statement := state.statement.bind (paramIndex - 1) value
        bound := bindTo state.bound (paramIndex - 1) value }
    else none
  | .execute connectionHandle callback args =>
    if state.statement.valid then
      let job := executeJob target.id state.statement connectionHandle callback args
      (Engine.step state.engine (.enqueue ⟨state.engine.issued, target.conn, job⟩)).map fun engine =>
        { state with engine, accepted := state.accepted ++ [state.bound] }
    else none
  | .perform ticket reply =>
    if target.owns ticket ∧ ticket.conn = target.conn then
      let run := state.statement.execute target.serverParams reply
      let done : Engine.Finished κ := ⟨ticket, PreparedStatement.outcome ticket.job run reply⟩
      ((Engine.step state.engine (.send ticket)).bind fun asking => Engine.step asking (.finish done)).map fun engine =>
        { state with engine, statement := run.statement, performed := state.performed ++ [run.sent] }
    else none
  | .other event =>
    if (subjects event).all (!target.owns ·) then
      (Engine.step state.engine event).map fun engine => { state with engine }
    else none

/-- What the statement's user relies on: the k-th execution sends, for each of the
server's placeholders, what was bound to it when the k-th call was accepted. -/
def SendsSnapshots (target : Target κ) (state : State κ) : Prop :=
  ∀ (k : Nat) (values : List StmtParam), state.performed[k]? = some (some values) →
    ∃ snapshot, state.accepted[k]? = some snapshot ∧
      ∀ i, i < target.serverParams → values[i]? = some (snapshot i)

end OmpMySQL.StatementRuns
