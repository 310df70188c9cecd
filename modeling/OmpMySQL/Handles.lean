import OmpMySQL.Journal
import OmpMySQL.Library.Registry
import OmpMySQL.Library.Transition

/-! Connections and models under their handles, with the jobs that carry these
handles. Objects are numbered as they are made, so an object is never confused
with a later one. -/

namespace OmpMySQL.Handles
open Library Engine

structure Denotation where
  model : Option Nat
  connection : Option Nat
  deriving DecidableEq, Repr

/-- A job in `dispatchJob`, with what its handles denoted when it was enqueued and
what they denote now. -/
structure Processed where
  ticket : Ticket Nat
  enqueued : Denotation
  now : Denotation
  deriving DecidableEq, Repr

structure State where
  journal : Journal Nat Denotation := {}
  connections : Registry Nat := .empty
  models : Registry Nat := .empty
  objects : Nat := 0
  processed : List Processed := []

/-- `shutdown` lists what the engine does while the main thread stops workers. -/
inductive Event where
  | engine (event : Engine.Event Nat)
  | addConnection
  | removeConnection (handle : Int) (shutdown : List (Engine.Event Nat))
  | addModel
  | removeModel (handle : Int)
  | reset (shutdown : List (Engine.Event Nat))

def State.denotes (state : State) (ticket : Ticket Nat) : Denotation where
  model := state.models.find ticket.job.modelHandle
  connection := state.connections.find ticket.job.connectionHandle

/-- `enqueueJob` finds the worker by the job's handle, and `ModelExecute` makes no
job for a model that is not there. -/
def State.accepts (state : State) (ticket : Ticket Nat) : Bool :=
  !ticket.isQuery || state.connections.find ticket.job.connectionHandle == some ticket.conn &&
    (ticket.job.modelHandle == 0 || (state.models.find ticket.job.modelHandle).isSome)

/-- While workers are being stopped the main thread neither dispatches nor takes new
queries. Only a reset queues statement teardown before it. -/
def isShutdown (stops : Nat → Bool) (teardown : Bool) : Engine.Event Nat → Bool
  | .stop conn => stops conn
  | .join _ | .pop _ | .drop _ | .send _ | .finish _ | .deliver _ | .uncount _ | .exit _ => true
  | .enqueue ticket => teardown && !ticket.isQuery
  | .count => teardown
  | _ => false

def isRegistration : Engine.Event Nat → Bool
  | .create _ | .stop _ | .join _ => true
  | _ => false

def State.process (state : State) (done : Finished Nat) : State :=
  match state.journal.noteOf done.ticket with
  | some enqueued =>
    { state with processed := state.processed ++ [⟨done.ticket, enqueued, state.denotes done.ticket⟩] }
  | none => state

def State.shutDown (state : State) (stops : Nat → Bool) (teardown : Bool) (shutdown : List (Engine.Event Nat)) :
    Option State :=
  if shutdown.all (isShutdown stops teardown) then
    (exec (Journal.step state.denotes) state.journal shutdown).bind fun journal =>
      if journal.engine.main = .free then some { state with journal } else none
  else none

def State.stopped (state : State) (conn : Nat) : Bool := (state.journal.engine.workers conn).isNone

def step (state : State) : Event → Option State
  | .engine event =>
    if isRegistration event = false ∧ event.enqueued.all state.accepts then
      (state.journal.step state.denotes event).map fun journal =>
        { event.handedOver.foldl State.process state with journal }
    else none
  | .addConnection =>
    (state.journal.step state.denotes (.create state.objects)).map fun journal =>
      { state with journal, connections := state.connections.add state.objects, objects := state.objects + 1 }
  | .removeConnection handle shutdown =>
    (state.shutDown (state.connections.find handle == some ·) false shutdown).bind fun after =>
      if (state.connections.find handle).all after.stopped then
        some { after with connections := after.connections.erase handle }
      else none
  | .addModel =>
    if state.journal.engine.main = .free then
      some { state with models := state.models.add state.objects, objects := state.objects + 1 }
    else none
  | .removeModel handle =>
    if state.journal.engine.main = .free then some { state with models := state.models.erase handle } else none
  | .reset shutdown =>
    (state.shutDown (fun conn => state.connections.entries.any (·.2 == conn)) true shutdown).bind fun after =>
      if after.connections.entries.all (after.stopped ·.2) then
        some { after with connections := .empty, models := .empty }
      else none

def Processed.Faithful (processed : Processed) : Prop :=
  (processed.now.model = none ∨ processed.now.model = processed.enqueued.model) ∧
    (processed.now.connection = none ∨ processed.now.connection = processed.enqueued.connection)

/-- A dispatched job's handles denote what they denoted when it was enqueued, or
nothing. -/
def NeverRetargeted (state : State) : Prop := ∀ processed ∈ state.processed, processed.Faithful

end OmpMySQL.Handles
