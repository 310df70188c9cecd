import OmpMySQL.Library.Flow
import OmpMySQL.Proofs.MainBacklog

/-! Queries come to `dispatchJob` in the order in which scripts asked for them, connection by
connection, and each of them once. -/

namespace OmpMySQL
open Library

/-- The job as its native made it, without what a worker has made of it. -/
def QueryJob.asked (job : QueryJob) : QueryJob :=
  { job with succeeded := false, errorCode := 0, error := "", result := none }

@[simp] theorem QueryJob.complete_asked (job : QueryJob) (outcome : Outcome) :
    (job.complete outcome).asked = job.asked := rfl

namespace Handover

def submitted : Handover → List QueryJob
  | .submit job => [job]
  | .perform _ _ | .take | .hand _ => []

def handed : Handover → List QueryJob
  | .hand job => [job]
  | .submit _ | .perform _ _ | .take => []

end Handover

section Order
variable {start before after backlog : Backlog} {handover : Handover} {handovers : List Handover}

/-- What scripts asked of a connection. -/
def askedOn (handle : Int) (jobs : List QueryJob) : List QueryJob :=
  (onLane QueryJob.connectionHandle handle jobs).map QueryJob.asked

@[simp] theorem askedOn_nil (handle : Int) : askedOn handle [] = [] := rfl

theorem askedOn_append (handle : Int) (jobs more : List QueryJob) :
    askedOn handle (jobs ++ more) = askedOn handle jobs ++ askedOn handle more := by
  simp only [askedOn, onLane_append, List.map_append]

theorem askedOn_complete (handle : Int) (job : QueryJob) (outcome : Outcome) :
    askedOn handle [job.complete outcome] = askedOn handle [job] := by
  by_cases here : job.connectionHandle = handle <;> simp [askedOn, onLane, here]

theorem askedOn_flatMap (handle : Int) (jobs : Handover → List QueryJob) :
    askedOn handle (handovers.flatMap jobs) = handovers.flatMap fun handover => askedOn handle (jobs handover) := by
  induction handovers with
  | nil => rfl
  | cons handover handovers ih => rw [List.flatMap_cons, askedOn_append, ih, List.flatMap_cons]

/-- The oldest job of a lane is the next in line there, and no other line has it. -/
theorem askedOn_oldest {handle : Int} {sent : List QueryJob} {job : QueryJob}
    (oldest : sent.find? (·.connectionHandle = handle) = some job) (other : Int) :
    askedOn other sent = askedOn other [job] ++ askedOn other (withoutOldest QueryJob.connectionHandle handle sent) := by
  have home := oldest_lane oldest
  by_cases same : other = handle
  · subst same
    rw [askedOn, onLane_oldest oldest, List.map_cons, askedOn, onLane_singleton, if_pos home]
    rfl
  · have apart : job.connectionHandle ≠ other := fun equal => same (equal.symm.trans home)
    simp only [askedOn, onLane_other oldest same, onLane_singleton, if_neg apart, List.map_nil, List.nil_append]

/-- What is on its way between a native and `dispatchJob`, the nearest to `dispatchJob` first. -/
def Backlog.underway (handle : Int) (backlog : Backlog) : List QueryJob :=
  askedOn handle (backlog.jobs ++ (backlog.completed ++ backlog.sent))

theorem underway_conserved (handle : Int) (stepped : before.step handover = some after) :
    Conserves (Backlog.underway handle) (fun handover => askedOn handle handover.submitted)
      (fun handover => askedOn handle handover.handed) before handover after := by
  rw [Conserves]
  cases handover with
  | submit job =>
    cases stepped
    simp only [Handover.submitted, Handover.handed, Backlog.underway, askedOn_nil, List.nil_append, askedOn_append,
      List.append_assoc]
  | perform connection outcome =>
    obtain ⟨job, oldest, rfl⟩ := Option.map_eq_some_iff.mp stepped
    simp only [Handover.submitted, Handover.handed, Backlog.underway, askedOn_nil, List.nil_append, List.append_nil,
      askedOn_append, askedOn_complete, askedOn_oldest oldest, List.append_assoc]
  | take =>
    simp only [Backlog.step, Option.ite_none_right_eq_some, Option.some.injEq] at stepped
    obtain ⟨empty, rfl⟩ := stepped
    simp only [Handover.submitted, Handover.handed, Backlog.underway, askedOn_nil, List.nil_append, List.append_nil, empty]
  | hand job =>
    simp only [Backlog.step, Option.ite_none_right_eq_some, Option.some.injEq] at stepped
    obtain ⟨first, rfl⟩ := stepped
    obtain ⟨rest, jobs⟩ := List.head?_eq_some_iff.mp first
    have line : before.jobs = [job] ++ rest := jobs
    simp only [Handover.submitted, Handover.handed, Backlog.underway, askedOn_nil, List.append_nil, jobs, List.tail_cons]
    rw [← jobs, line, ← askedOn_append, List.append_assoc]

/-- First in, first out, on each connection. -/
theorem underway_flow (run : Run (Steps Backlog.step) {} handovers backlog) (handle : Int) :
    askedOn handle (handovers.flatMap Handover.handed) ++ backlog.underway handle =
      askedOn handle (handovers.flatMap Handover.submitted) := by
  rw [askedOn_flatMap, askedOn_flatMap]
  exact run.conserved rfl trivial (fun _ _ _ _ _ => trivial) (fun _ _ _ _ stepped => underway_conserved handle stepped)

end Order

namespace MainThread

def Note.begunJob : Note → Option QueryJob
  | .begun _ job => some job
  | .called _ _ | .ended _ => none

section History
variable {host : Host} {start state after : State} {event : Event} {events : List Event}

/-- The history goes on with what the step hands to `dispatchJob` among what begins there. -/
def Records (state after : State) (handed : List QueryJob) : Prop :=
  ∃ notes, after.history = state.history ++ notes ∧ handed.Sublist (notes.filterMap Note.begunJob)

theorem Records.of_same (same : after.history = state.history) : Records state after [] :=
  ⟨[], by rw [same, List.append_nil], List.nil_sublist _⟩

theorem proceed_records (state : State) (serial : Nat) (caller : Caller) (progress : Progress) :
    Records state (state.proceed serial caller progress) [] := by
  cases progress with
  | returned component => exact ⟨_, state.returned_history serial caller component, List.nil_sublist _⟩
  | calling component call resumption =>
    exact ⟨_, state.calling_history serial caller component call resumption, List.nil_sublist _⟩

theorem dispatch_records {middle : State} (same : middle.history = state.history) (job : QueryJob) (caller : Caller) :
    Records state (middle.dispatch host job caller) [job] := by
  obtain ⟨notes, more, _⟩ := proceed_records (middle.begun job) middle.dispatches caller
    (middle.component.beginDispatch host.strtof job)
  refine ⟨.begun middle.dispatches job :: notes, ?_, ?_⟩
  · rw [State.dispatch, more, State.begun, same, List.append_assoc, List.singleton_append]
  · exact (List.nil_sublist _).cons_cons job

theorem Records.silent {handed : List QueryJob} (records : Records state after handed) : Records state after [] := by
  obtain ⟨notes, same, _⟩ := records
  exact ⟨notes, same, List.nil_sublist _⟩

theorem handed_map {α : Type} (found : Option α) {act : α → Handover} (silent : ∀ item, (act item).handed = []) :
    (found.map act).toList.flatMap Handover.handed = [] := by
  cases found with
  | none => rfl
  | some item => simp [silent]

/-- Only a turn of the tick hands a job on. -/
theorem handed_silent (other : event ≠ .turn) : (state.handover host event).toList.flatMap Handover.handed = [] := by
  cases event with
  | turn => exact absurd rfl other
  | perform handle performance =>
    rw [State.handover]
    exact handed_map _ (fun _ => rfl)
  | submit native pending now performance =>
    cases native with
    | executeSync | executeFileSync => rfl
    | execute | executeFor | executeFile | stmtExecute | modelFind | modelInsert | modelUpdate | modelDelete
    | modelSave =>
      simp only [State.handover]
      cases state.running with
      | none => rfl
      | some amx => exact handed_map _ (fun _ => rfl)
  | hash | players | scripts | run | tick | reset | act | leave => rfl

theorem leave_records (state : State) (activation : Activation) (stack : List Activation) :
    Records state (state.leave host activation stack) [] := by
  unfold State.leave
  dsimp only
  split
  next => exact .of_same rfl
  next => exact .of_same rfl
  next => exact .of_same rfl
  next => exact proceed_records (state.pop activation stack) _ _ _

theorem submitted_records (state : State) (submission : Submission) : Records state (state.submitted submission) [] := by
  unfold State.submitted
  split
  next => exact .of_same rfl
  next => exact .of_same rfl

/-- Whatever a step does, the history only goes on. -/
theorem grows_step (moved : Moves host state event after) : Records state after [] := by
  cases moved with
  | perform | hash | players | scripts | run | tick | reset | unheard | lastJob | silentHash | nextHash | lastHash =>
    exact .of_same rfl
  | act acted =>
    obtain ⟨_, _, _, _, _, same⟩ := State.act_frame acted
    exact .of_same (by rw [same])
  | nextJob | synced | syncRejected => exact (dispatch_records rfl _ _).silent
  | submitted => exact submitted_records state _
  | leave => exact leave_records state _ _

theorem turn_records (moved : Moves host state .turn after) :
    Records state after ((state.handover host .turn).toList.flatMap Handover.handed) := by
  have grows := grows_step moved
  cases moved with
  | @nextJob job jobs idle phase queue =>
    have label : state.handover host .turn = some (.hand job) := by simp [State.handover, phase, queue]
    rw [label]
    exact dispatch_records rfl job .tick
  | lastJob idle phase queue =>
    have label : state.handover host .turn = none := by simp [State.handover, phase, queue]
    rwa [label]
  | silentHash idle phase | nextHash idle phase | lastHash idle phase =>
    have label : state.handover host .turn = none := by simp [State.handover, phase]
    rwa [label]

theorem history_step (stepped : step host state event = some after) :
    Records state after ((state.handover host event).toList.flatMap Handover.handed) := by
  have moved := moves_of_step stepped
  by_cases turn : event = .turn
  · subst turn
    exact turn_records moved
  · rw [handed_silent turn]
    exact grows_step moved

theorem run_records (run : Run (Steps (step host)) start events state) :
    Records start state ((handovers host start events).flatMap Handover.handed) := by
  induction events generalizing start with
  | nil =>
    rw [run.nil]
    exact .of_same rfl
  | cons event events ih =>
    obtain ⟨middle, stepped, rest⟩ := run.uncons
    obtain ⟨first, same, begun⟩ := history_step stepped
    obtain ⟨more, later, others⟩ := ih rest
    refine ⟨first ++ more, by rw [later, same, List.append_assoc], ?_⟩
    rw [handovers, stepped, List.flatMap_append, List.filterMap_append]
    exact begun.append others

/-- What scripts asked of a connection, against what has come of it. -/
structure InCallOrder (host : Host) (start : State) (events : List Event) (state : State) (handle : Int) : Prop where
  /-- What was handed to `dispatchJob`, then what is on its way there, is what was let through, in the order of the calls. -/
  order : askedOn handle ((handovers host start events).flatMap Handover.handed) ++ state.backlog.underway handle =
    askedOn handle ((handovers host start events).flatMap Handover.submitted)
  begun : ((handovers host start events).flatMap Handover.handed).Sublist (state.history.filterMap Note.begunJob)

/-- On each connection queries are dispatched in the order in which they were submitted, once each, and until then
they are on their way. -/
theorem dispatched_in_call_order (fresh : start.backlog = {}) (run : Run (Steps (step host)) start events state)
    (handle : Int) : InCallOrder host start events state handle := by
  have reached := (run_backlog (Or.inr (congrArg Backlog.jobs fresh)) run).1
  rw [fresh] at reached
  obtain ⟨notes, same, begun⟩ := run_records run
  refine ⟨underway_flow reached handle, ?_⟩
  rw [same, List.filterMap_append]
  exact begun.trans (List.sublist_append_right _ _)

end History

section Pipeline

/-- Two queries are sent, and the first is answered and dispatched. -/
private def pipelined : List Event :=
  [.run 0, .act (.connect 7 false), .submit (.execute 1 "SELECT id" "OnRows" [.int 3]) (fun _ => 0) 0 .disconnected,
    .submit (.execute 1 "DELETE FROM t" "" []) (fun _ => 0) 0 .disconnected, .leave, .perform 1 (oneRow "5"), .tick, .turn]

theorem dispatched_in_call_order_pipelined : ∃ state, exec (step plainHost) listening pipelined = some state ∧
    InCallOrder plainHost listening pipelined state 1 := by
  have executes : (exec (step plainHost) listening pipelined).isSome := by decide
  obtain ⟨state, done⟩ := Option.isSome_iff_exists.mp executes
  exact ⟨state, done, dispatched_in_call_order rfl (Run.of_exec done) 1⟩

end Pipeline
end MainThread
end OmpMySQL
