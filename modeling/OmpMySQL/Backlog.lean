import OmpMySQL.Library.Lanes
import OmpMySQL.Library.Transition
import OmpMySQL.Engine
import OmpMySQL.MainThread

/-! What stands between the natives and `dispatchJob`, whoever looks at it: the queries that
the workers have, the sink they share, and the batch that `onTick` is in. -/

namespace OmpMySQL
open Library

structure Backlog where
  sent : List QueryJob := []
  completed : List QueryJob := []
  jobs : List QueryJob := []
  deriving DecidableEq, Repr

/-- A job goes on: to its worker, from there to the sink, with the sink to `onTick`, and to `dispatchJob`. -/
inductive Handover where
  | submit (job : QueryJob)
  | perform (handle : Int) (outcome : Outcome)
  | take
  | hand (job : QueryJob)
  deriving DecidableEq, Repr

def Backlog.step (backlog : Backlog) : Handover → Option Backlog
  | .submit job => some { backlog with sent := backlog.sent ++ [job] }
  | .perform handle outcome =>
    (backlog.sent.find? (·.connectionHandle = handle)).map fun job =>
      { backlog with
        sent := withoutOldest QueryJob.connectionHandle handle backlog.sent
        completed := backlog.completed ++ [job.complete outcome] }
  | .take => if backlog.jobs = [] then some { backlog with completed := [], jobs := backlog.completed } else none
  | .hand job =>
    if backlog.jobs.head? = some job then some { backlog with jobs := backlog.jobs.tail } else none

/-- The backlog is handed on, or does not notice. -/
def Backlog.Follows (backlog after : Backlog) : Option Handover → Prop
  | some handover => backlog.step handover = some after
  | none => after = backlog

section Follows
variable {backlog after other : Backlog} {handover : Option Handover}

theorem Backlog.Follows.run (follows : backlog.Follows after handover) :
    Run (Steps Backlog.step) backlog handover.toList after := by
  cases handover with
  | none =>
    cases follows
    exact .refl
  | some handover =>
    have first : Run (Steps Backlog.step) backlog ([] ++ [handover]) after := Run.refl.snoc follows
    exact first

theorem Backlog.Follows.unique (follows : backlog.Follows after handover) (also : backlog.Follows other handover) :
    after = other := by
  cases handover with
  | none => exact Eq.trans follows (Eq.symm also)
  | some handover => exact Option.some.inj (Eq.trans (Eq.symm follows) also)

end Follows

/-- What the threads do to the backlog. Queries that a native waits for go past it, and a
worker's steps up to its delivery do not show. -/
def Engine.Event.handover : Engine.Event Int → Option Handover
  | .enqueue ticket => if ticket.isQuery then some (.submit ticket.job) else none
  | .deliver done => if done.ticket.isAsync then some (.perform done.ticket.conn done.outcome) else none
  | .drain => some .take
  | .dispatch done => some (.hand done.job)
  | .create _ | .runSync _ | .count | .wake _ | .stop _ | .join _ | .call _ _ _ | .answer | .pop _ | .drop _ | .send _
  | .finish _ | .uncount _ | .exit _ => none

/-- What a native leaves to the worker of its connection. -/
def Submission.accepted (submission : Submission) : Option QueryJob :=
  match submission.sent with
  | some (job, .none) => some job
  | _ => none

namespace MainThread

variable (host : Host) (state : State)

def State.backlog : Backlog := { sent := state.sent, completed := state.completed, jobs := state.jobs }

def State.handover : Event → Option Handover
  | .perform handle performance =>
    (state.sent.find? (·.connectionHandle = handle)).map fun job => .perform handle (performance.outcome job)
  | .submit (.executeSync _ _ _) _ _ _ | .submit (.executeFileSync _ _ _) _ _ _ => none
  | .submit native pending now _ =>
    state.running.bind fun amx =>
      (state.server.call (host.outside pending now) amx native).accepted.map .submit
  | .tick => some .take
  | .turn => if state.phase = .jobs then state.jobs.head?.map .hand else none
  | .hash _ | .players _ | .scripts _ | .run _ | .reset | .act _ | .leave => none

/-- What a run does to the backlog, in order. -/
def handovers (state : State) : List Event → List Handover
  | [] => []
  | event :: events =>
    (state.handover host event).toList ++
      match step host state event with
      | some after => handovers after events
      | none => []

end MainThread
end OmpMySQL
