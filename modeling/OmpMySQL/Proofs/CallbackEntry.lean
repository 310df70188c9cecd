import OmpMySQL.Proofs.HeldResults
import OmpMySQL.Proofs.NestedReports

/-! How a query's callback is entered: for a job that a worker has performed, with the job's own arguments and rows. -/

namespace OmpMySQL.MainThread
open Library

/-- A worker has performed the job in the course of the run. -/
def Performed (host : Host) (events : List Event) (job : QueryJob) (performance : Performance) : Prop :=
  ∃ first rest handle state, events = first ++ .perform handle performance :: rest ∧
    Run (Steps (step host)) {} first state ∧ state.sent.find? (·.connectionHandle = handle) = some job

/-- The step calls the callback of this dispatch. -/
structure CallsBack (before after : State) (serial : Nat) (call : Invocation) : Prop where
  noted : after.history.getLast? = some (.called serial call)
  callback : call.upcall = .callback
  now : after.history ≠ before.history

section Source
variable {host : Host} {events : List Event} {state : State}

theorem Performed.later {job : QueryJob} {performance : Performance} (performed : Performed host events job performance)
    (event : Event) : Performed host (events ++ [event]) job performance := by
  obtain ⟨first, rest, handle, state, rfl, run, oldest⟩ := performed
  exact ⟨first, rest ++ [event], handle, state, by simp, run, oldest⟩

/-- What waits for its callback came from a worker. -/
theorem held_performed (run : Run (Steps (step host)) {} events state) {held : QueryJob} (waits : held ∈ state.unwritten)
    (named : held.callback ≠ "") :
    ∃ job performance, Performed host events job performance ∧ held = job.complete (performance.outcome job) := by
  induction run with
  | refl => cases waits
  | @snoc events state event after earlier move ih =>
    rcases unwritten_move (moves_of_step move) waits (Or.inr named) with old | ⟨handle, performance, job, rfl, oldest, rfl⟩
    · obtain ⟨job, performance, performed, same⟩ := ih old
      exact ⟨job, performance, performed.later event, same⟩
    · exact ⟨job, performance, ⟨events, [], handle, state, rfl, earlier, oldest⟩, rfl⟩

end Source

section Entry
variable {host : Host} {state before after : State} {event : Event} {serial : Nat} {call : Invocation}

/-- The callback of the job that was begun under this number starts, with the job's arguments and rows. -/
structure Entered (job : QueryJob) (serial : Nat) (call : Invocation) (after : State) : Prop where
  begun : .begun serial job ∈ after.history
  succeeded : job.succeeded = true
  named : job.callback ≠ ""
  pushed : ∃ amx active, call = (pushArgs amx.frame job.args).exec amx job.callback .callback active
  single : ∃ activation, after.stack = [activation] ∧ activation.waiting = .dispatch serial .calledBack .tick
  rows : ∀ result, job.result = some result → after.component.activeCache = some result

theorem shownTo_active {component : Component} {job : QueryJob} {result : QueryResult} (own : job.result = some result) :
    (component.shownTo job).activeCache = some result := by
  rw [Component.shownTo, own]
  rfl

/-- A dispatch gets to its callback from outside every script. -/
theorem entered_rest {component : Component} {job : QueryJob} {script other : Nat} {caller : Caller} {progress : Progress}
    (rest : component.Rest job script progress) (callback : call.upcall = .callback)
    (noted : (state.proceed other caller progress).history.getLast? = some (.called serial call))
    (begun : .begun other job ∈ state.history) (outside : job.callback ≠ "" → caller = .tick ∧ state.stack = []) :
    Entered job serial call (state.proceed other caller progress) := by
  cases rest with
  | returned =>
    rw [State.returned_history, List.getLast?_append] at noted
    cases noted
  | reported _ _ made =>
    rw [State.calling_history, List.getLast?_append] at noted
    cases noted
    rw [error_upcall made] at callback
    cases callback
  | calledBack succeeded _ named =>
    rw [State.calling_history, List.getLast?_append] at noted
    cases noted
    obtain ⟨rfl, idle⟩ := outside named
    refine ⟨List.mem_append_left _ begun, succeeded, named, ⟨_, _, rfl⟩, ?_, fun result own => shownTo_active own⟩
    rw [State.calling_stack, idle]
    exact ⟨_, rfl, rfl⟩

theorem entered_dispatch {job : QueryJob} {caller : Caller} (callback : call.upcall = .callback)
    (noted : (state.dispatch host job caller).history.getLast? = some (.called serial call))
    (outside : job.callback ≠ "" → caller = .tick ∧ state.stack = []) :
    Entered job serial call (state.dispatch host job caller) := by
  rw [State.dispatch] at noted ⊢
  have start := state.component.beginDispatch_start host.strtof job
  generalize state.component.beginDispatch host.strtof job = progress at start noted ⊢
  cases start with
  | unresolved =>
    rw [State.returned_history, List.getLast?_append] at noted
    cases noted
  | audited _ made =>
    rw [State.calling_history, List.getLast?_append] at noted
    cases noted
    rw [(audit_upcall made).2] at callback
    cases callback
  | unaudited _ _ rest =>
    exact entered_rest rest callback noted (List.mem_append_right _ List.mem_cons_self) outside

theorem entered_move (orderly : Orderly before.stack)
    (accounted : ∀ activation ∈ before.stack, Accounted (fun _ => false) before.history activation) (moved : Moves host before event after)
    (calls : CallsBack before after serial call) : ∃ job ∈ before.unwritten, Entered job serial call after := by
  obtain ⟨noted, callback, now⟩ := calls
  cases moved with
  | perform | hash | players | scripts | run | tick | lastJob | silentHash | nextHash | lastHash | reset | unheard =>
    exact absurd rfl now
  | @nextJob job jobs idle _ queue =>
    refine ⟨job, ?_, entered_dispatch callback noted fun _ => ⟨rfl, idle⟩⟩
    apply List.mem_append_left
    apply List.mem_append_right
    rw [queue]
    exact List.mem_cons_self
  | act acted =>
    obtain ⟨_, _, _, _, _, same⟩ := State.act_frame acted
    rw [same] at now
    exact absurd rfl now
  | synced _ _ _ _ own =>
    have entered := entered_dispatch callback noted fun named => absurd (SubmitNative.syncJob_plain own).1 named
    exact absurd (SubmitNative.syncJob_plain own).1 entered.named
  | syncRejected =>
    have entered := entered_dispatch callback noted fun named => absurd rfl named
    exact absurd rfl entered.named
  | submitted =>
    rw [State.submitted] at now
    split at now
    all_goals exact absurd rfl now
  | @leave activation stack running =>
    rw [running] at orderly
    rw [State.leave] at noted now ⊢
    cases waits : activation.waiting with
    | server | hash | reject =>
      rw [waits] at now
      exact absurd rfl now
    | dispatch other resumption caller =>
      rw [waits] at noted
      cases resumption with
      | reported | calledBack =>
        dsimp only [Component.resumeDispatch] at noted
        rw [State.returned_history, List.getLast?_append] at noted
        cases noted
      | audited job script =>
        have outside (named : job.callback ≠ "") : caller = .tick ∧ stack = [] := by
          cases tick : caller.isTick with
          | true =>
            refine ⟨?_, orderly.outermost waits tick⟩
            cases caller with
            | tick => rfl
            | sync | syncReject => cases tick
          | false => exact absurd (orderly.hooks waits tick).2 named
        refine ⟨job, ?_, ?_⟩
        · apply List.mem_append_right
          rw [running, List.flatMap_cons]
          apply List.mem_append_left
          rw [Activation.held, waits]
          exact List.mem_cons_self
        · have begun := (accounted activation (running ▸ List.mem_cons_self)).begun other job script caller waits
          exact entered_rest (Component.afterAudit_rest host.strtof _ job script) callback noted begun outside

/-- With nothing secret every step is allowed. -/
theorem withholds_nothing (state : State) (event : Event) : withholds (fun _ => false) state event = true := by
  cases event with
  | act action => cases action <;> simp [withholds]
  | submit => simp [withholds]
  | perform | hash | players | scripts | run | tick | turn | reset | leave => rfl

/-- A callback is called for a query that a worker has performed. -/
theorem callback_entered {events : List Event} (run : Run (Steps (step host)) {} events before)
    (stepped : step host before event = some after) (calls : CallsBack before after serial call) :
    ∃ job performance, Performed host events job performance ∧
      Entered (job.complete (performance.outcome job)) serial call after := by
  have confined : Confined (fun _ => false) before :=
    run.invariant confined_start
      (fun state event _ held move => confined_move held (withholds_nothing state event) (moves_of_step move))
  obtain ⟨held, waits, entered⟩ := entered_move confined.orderly confined.accounted (moves_of_step stepped) calls
  obtain ⟨job, performance, performed, rfl⟩ := held_performed run waits entered.named
  exact ⟨job, performance, performed, entered⟩

/-- The job brings the result that its callback is shown. -/
theorem Entered.result {job : QueryJob} {performance : Performance}
    (entered : Entered (job.complete (performance.outcome job)) serial call after) :
    (job.complete (performance.outcome job)).result = some (performance.outcome job).result := if_pos entered.succeeded

end Entry
end OmpMySQL.MainThread
