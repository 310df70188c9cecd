import OmpMySQL.Gate
import OmpMySQL.Submissions

/-! Prepared statements under their handles, from `mysql_prepare` to the end of
their teardown. A connection is known by its address here: the allocator may place
a new connection where an earlier one was. -/

namespace OmpMySQL
open Library

/-- What the engine does in a step of the gate. -/
def Gate.State.engineEvents (state : Gate.State) : Gate.Event → List (Engine.Event Nat)
  | .connect raw _ => [.create raw]
  | .submit sync job .none => (state.registry.workers job.connectionHandle).toList.map (state.request sync job)
  | .engine event => [event]
  | _ => []

namespace Statements

/-- `home` is the handle the statement was prepared on. The code does not keep it. -/
structure Prepared where
  ref : StatementRef
  home : Int
  deriving DecidableEq, Repr

/-- An accepted execution: the worker that got it, and its home's worker then. -/
structure Placement where
  statement : StatementId
  worker : Option Nat
  homeWorker : Option Nat
  deriving DecidableEq, Repr

/-- `prepared` are all statements made so far, by id, and `destroyed` those whose
destructor has run. `history` is what the engine has done. -/
structure State where
  gate : Gate.State := {}
  statements : Table Int Prepared := .empty
  nextStatement : Int := 1
  prepared : List Prepared := []
  destroyed : List StatementId := []
  placements : List Placement := []
  history : List (Engine.Event Nat) := []

inductive Event where
  | prepare (handle : Int) (query : String)
  | execute (stmt : Int) (callback : String) (args : List CallbackArg)
  | removeStatement (stmt : Int)
  | gate (event : Gate.Event)
  | reset

namespace State

def free (state : State) : Bool := state.gate.engine.main = .free

def registry (state : State) : Connections := state.gate.registry

/-- Every statement handle given out so far. -/
def handles (state : State) : List Int :=
  (List.range (state.nextStatement - 1).toNat).map fun below : Nat => (below : Int) + 1

def pass (state : State) (event : Gate.Event) : Option State :=
  (Gate.step state.gate event).map fun gate =>
    { state with gate, history := state.history ++ state.gate.engineEvents event }

def prepare (state : State) (handle : Int) (query : String) : State :=
  match state.registry.getConnection handle with
  | none => state
  | some conn =>
    let made : Prepared := { ref := { id := state.prepared.length, conn := some conn, query }, home := handle }
    if made.ref.valid then
      { state with
        statements := state.statements.emplace state.nextStatement made
        nextStatement := state.nextStatement + 1
        prepared := state.prepared ++ [made] }
    -- A statement that is not valid is destroyed at once.
    else state

def executeJob (ref : StatementRef) (connectionHandle : Int) (callback : String) (args : List CallbackArg) : QueryJob :=
  { connectionHandle, sql := ref.query, statement := some ref.id, callback, args }

def execute (state : State) (stmt : Int) (callback : String) (args : List CallbackArg) : Option State :=
  match state.statements stmt with
  | none => some state
  | some found =>
    let connHandle := state.registry.connectionHandleOf found.ref.conn
    if found.ref.valid = false ∨ connHandle = 0 then some state
    else
      let job := executeJob found.ref connHandle callback args
      let reason := (state.gate.submitted false job).reason
      (state.pass (.submit false job reason)).map fun after =>
        if reason = .none then
          { after with
            placements := state.placements ++
              [⟨found.ref.id, state.registry.workers connHandle, state.registry.workers found.home⟩] }
        else after

/-- The worker a statement is torn down on, if its connection is still there. -/
def workerOf (state : State) (ref : StatementRef) : Option Nat :=
  let connHandle := state.registry.connectionHandleOf ref.conn
  if connHandle ≠ 0 then state.registry.workers connHandle else none

def teardown (state : State) (ref : StatementRef) (conn : Nat) : Engine.Ticket Nat where
  serial := state.gate.engine.issued
  conn := conn
  job := { connectionHandle := state.registry.connectionHandleOf ref.conn, statementToClose := some ref.id }

def removeStatement (state : State) (stmt : Int) : Option State :=
  match state.statements stmt with
  | none => some state
  | some found =>
    let after := { state with statements := state.statements.erase stmt }
    match state.workerOf found.ref with
    | some conn => after.pass (.engine (.enqueue (state.teardown found.ref conn)))
    | none => some { after with destroyed := state.destroyed ++ [found.ref.id] }

end State

/-- The statements a worker destroys. -/
def tornDown : Gate.Event → List StatementId
  | .engine (.drop ticket) => ticket.job.statementToClose.toList
  | _ => []

/-- No two live connections have one address, and statements come and go by their own
events. -/
def isPlain (state : State) : Gate.Event → Bool
  | .connect raw _ => state.registry.handles.all fun handle => state.registry.connections handle != some raw
  | .submit _ job _ => job.statement.isNone
  | .engine (.enqueue _) | .reset => false
  | _ => true

/-- `clearStatements` is a `removeStatement` for each handle, also before `free()` clears
the connections. -/
def step (state : State) : Event → Option State
  | .prepare handle query => if state.free then some (state.prepare handle query) else none
  | .execute stmt callback args => if state.free then state.execute stmt callback args else none
  | .removeStatement stmt => if state.free then state.removeStatement stmt else none
  | .gate event =>
    if isPlain state event then
      (state.pass event).map fun after => { after with destroyed := state.destroyed ++ tornDown event }
    else none
  | .reset =>
    if state.handles.all fun stmt => (state.statements stmt).isNone then
      (state.pass .reset).map fun after => { after with nextStatement := 1 }
    else none

/-- The statements a worker executes in this step, from sending to the last fetch. -/
def Event.executes : Event → List StatementId
  | .gate (.engine (.send ticket)) => ticket.job.statement.toList
  | .gate (.engine (.finish done)) => done.ticket.job.statement.toList
  | _ => []

end Statements
end OmpMySQL
