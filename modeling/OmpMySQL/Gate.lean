import OmpMySQL.Connections
import OmpMySQL.Engine

/-! The engine behind its guards: every native that submits a query goes through
`enqueueJob` or `runJobSync`. Scripts' hooks do nothing here. -/

namespace OmpMySQL.Gate
open Library

/-- Workers are known by their connection. The clock is the steady one the rate
limit reads, in nanoseconds. -/
structure State where
  engine : Engine.State Nat := {}
  registry : Connections := {}
  clock : Int := 0

/-- A submission is labelled with its answer. -/
inductive Event where
  | tick (now : Int)
  | connect (raw : Nat) (multiStatements : Bool)
  | submit (sync : Bool) (job : QueryJob) (answer : GuardReject)
  | setLimit (handle type value : Int)
  | removeConnection (handle : Int)
  | clearConnections
  | reset
  | engine (event : Engine.Event Nat)

namespace State

/-- What `pending()` of a worker answers. -/
def pending (state : State) (conn : Nat) : Int := ((state.engine.workers conn).map (·.pending)).getD 0

/-- A worker is stopped and joined before its entry goes. -/
def stopped (state : State) (handle : Int) : Bool :=
  (state.registry.workers handle).all fun conn => (state.engine.workers conn).isNone

def allStopped (state : State) : Bool := state.registry.handles.all state.stopped

/-- The job as the worker gets it. -/
def ticket (state : State) (sync : Bool) (job : QueryJob) (conn : Nat) : Engine.Ticket Nat where
  serial := state.engine.issued
  conn := conn
  job := if sync then { job with syncSignal := some state.engine.issued } else job

def submitted (state : State) (sync : Bool) (job : QueryJob) : Submitted :=
  if sync then state.registry.runJobSync job state.pending state.clock
  else state.registry.enqueueJob job state.pending state.clock

/-- What the worker's own `runSync` or `enqueue` does with it. -/
def request (state : State) (sync : Bool) (job : QueryJob) (conn : Nat) : Engine.Event Nat :=
  if sync then .runSync (state.ticket sync job conn) else .enqueue (state.ticket sync job conn)

def submit (state : State) (sync : Bool) (job : QueryJob) : Option State :=
  let sent := state.submitted sync job
  let after := { state with registry := sent.registry }
  match sent.worker with
  | none => some after
  | some conn => (Engine.step state.engine (state.request sync job conn)).map fun engine => { after with engine }

end State

/-- What the engine does by itself, and the main thread without submitting a query. -/
def isOwn : Engine.Event Nat → Bool
  | .create _ | .runSync _ => false
  | .enqueue ticket => !ticket.isQuery
  | _ => true

def step (state : State) : Event → Option State
  | .tick now => if state.clock ≤ now then some { state with clock := now } else none
  | .connect raw multiStatements =>
    (Engine.step state.engine (.create raw)).map fun engine =>
      { state with engine, registry := (state.registry.addConnection (some raw) multiStatements).1 }
  | .submit sync job answer =>
    if state.engine.main = .free ∧ job.statementToClose = none ∧ (state.submitted sync job).reason = answer then
      state.submit sync job
    else none
  | .setLimit handle type value =>
    if state.engine.main = .free then
      some { state with registry := (state.registry.setLimit handle type value).1 }
    else none
  | .removeConnection handle =>
    if state.engine.main = .free ∧ state.stopped handle then
      some { state with registry := (state.registry.removeConnection handle).1 }
    else none
  | .clearConnections =>
    if state.engine.main = .free ∧ state.allStopped then some { state with registry := state.registry.clearConnections } else none
  | .reset =>
    if state.engine.main = .free ∧ state.allStopped then some { state with registry := state.registry.reset } else none
  | .engine event =>
    if isOwn event then (Engine.step state.engine event).map fun engine => { state with engine } else none

end OmpMySQL.Gate
