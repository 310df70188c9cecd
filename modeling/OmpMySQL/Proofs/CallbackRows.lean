import OmpMySQL.Proofs.CallbackEntry

/-! A callback's rows stay readable until its script asks for others, whatever hooks and
reports run inside it. -/

namespace OmpMySQL.MainThread
open Library

/-- A step that neither ends the outermost public nor asks for other rows. -/
def undisturbed (state : State) : Event → Bool
  | .act (.activate _) | .act .deactivate => false
  | .submit native _ _ performance => native.syncJob.all fun job => !(performance.outcome job).succeeded
  | .leave => 2 ≤ state.stack.length
  | _ => true

/-- A callback with its rows, and only failed queries waiting inside it. -/
structure Showing (result : QueryResult) (serial : Nat) (state : State) : Prop where
  orderly : Orderly state.stack
  runs : CallbackRuns state.stack serial
  failed : ∀ activation ∈ state.stack, ∀ serial resumption done useCache,
    activation.waiting = .dispatch serial resumption (.sync done useCache) → done.succeeded = false
  active : state.component.activeCache = some result

section Steps
variable {result : QueryResult} {serial : Nat} {host : Host} {state : State}

theorem Showing.inside (showing : Showing result serial state) : state.stack ≠ [] := by
  obtain ⟨_, last, _⟩ := showing.runs
  intro none
  rw [none] at last
  cases last

theorem Showing.of_same (showing : Showing result serial state) {after : State} (stack : after.stack = state.stack)
    (active : after.component.activeCache = state.component.activeCache) : Showing result serial after where
  orderly := stack ▸ showing.orderly
  runs := stack ▸ showing.runs
  failed := stack ▸ showing.failed
  active := active.trans showing.active

theorem Showing.push (showing : Showing result serial state) {activation : Activation} (inner : activation.waiting.Inner)
    (failed : ∀ serial resumption done useCache,
      activation.waiting = .dispatch serial resumption (.sync done useCache) → done.succeeded = false)
    {after : State} (stack : after.stack = activation :: state.stack)
    (active : after.component.activeCache = state.component.activeCache) : Showing result serial after := by
  refine ⟨?_, ?_, ?_, active.trans showing.active⟩
  · rw [stack]
    exact .inner inner showing.inside showing.orderly
  · rw [stack]
    exact (callbackRuns_cons showing.inside).mpr showing.runs
  · rw [stack]
    intro other inside
    rcases List.mem_cons.mp inside with rfl | below
    · exact failed
    · exact showing.failed other below

theorem syncQuery_failed (cache : ResultCache) {done : QueryJob} (useCache : Bool) (failed : done.succeeded = false) :
    cache.syncQuery done useCache = (cache, 0) := by
  unfold ResultCache.syncQuery
  rw [failed]

theorem Showing.asked (showing : Showing result serial state) {other : Nat} {caller : Caller} {progress : Progress}
    (asked : caller.isTick = false) (hooks : progress.Hooks)
    (active : progress.component.activeCache = state.component.activeCache)
    (failed : ∀ done ∈ caller.jobs, done.succeeded = false) :
    Showing result serial (state.proceed other caller progress) := by
  cases progress with
  | returned component =>
    cases caller with
    | tick => cases asked
    | syncReject => exact showing.of_same rfl active
    | sync done useCache =>
      refine showing.of_same rfl ?_
      have unanswered := syncQuery_failed { state.cache with component } useCache (failed done List.mem_cons_self)
      rw [State.proceed, State.settle, State.setComponent, State.component, unanswered]
      exact active
  | calling component call resumption =>
    refine @Showing.push _ _ _ showing { script := call.script, heap := call.heap, waiting := .dispatch other resumption caller }
      ⟨asked, hooks⟩ ?_ _ rfl active
    intro _ _ done useCache waits
    cases waits
    exact failed done List.mem_cons_self

theorem showing_leave (showing : Showing result serial state) {activation : Activation} {stack : List Activation}
    (running : state.stack = activation :: stack) (inside : stack ≠ []) :
    Showing result serial (state.leave host activation stack) := by
  have orderly := showing.orderly
  rw [running] at orderly
  have popped : Showing result serial (state.pop activation stack) := by
    refine ⟨orderly.tail, ?_, ?_, showing.active⟩
    · have runs := showing.runs
      rw [running] at runs
      exact (callbackRuns_cons inside).mp runs
    · exact fun other below => showing.failed other (running ▸ List.mem_cons_of_mem _ below)
  rw [State.leave]
  split
  next => exact popped
  next => exact popped
  next => exact popped
  next other resumption caller waits =>
    cases ticks : caller.isTick with
    | true => exact absurd (orderly.outermost waits ticks) inside
    | false =>
      have hook := (orderly.hooks waits ticks).2
      refine popped.asked ticks (Component.resume_hooks host.strtof _ hook) (resume_active host.strtof _ hook) ?_
      intro done carried
      cases caller with
      | tick => cases ticks
      | syncReject => cases carried
      | sync answer useCache =>
        rw [List.mem_singleton.mp carried]
        exact showing.failed activation (running ▸ List.mem_cons_self) other resumption answer useCache waits

theorem acts_active {cache after : ResultCache} {action : Action} (acts : ActsOn cache action after)
    (allowed : undisturbed state (.act action) = true) : after.component.activeCache = cache.component.activeCache := by
  cases acts with
  | other _ active => exact active
  | retain =>
    unfold ResultCache.saveActiveCache
    split <;> rfl
  | release => rfl
  | activate | deactivate => cases allowed
  | selectSet index =>
    unfold Component.setActiveResultIndex
    split
    next => rfl
    next => split <;> rfl

theorem showing_move {event : Event} {after : State} (showing : Showing result serial state)
    (allowed : undisturbed state event = true) (moved : Moves host state event after) : Showing result serial after := by
  cases moved with
  | perform | hash | players | unheard => exact showing.of_same rfl rfl
  | scripts free | run free | tick free | reset free => exact absurd (State.idle_of_free free).1 showing.inside
  | nextJob idle | lastJob idle | silentHash idle | nextHash idle | lastHash idle => exact absurd idle showing.inside
  | act acted =>
    obtain ⟨acts, _, _, _, _, same⟩ := State.act_frame acted
    exact showing.of_same (by rw [same]) (acts_active acts allowed)
  | @synced _ _ _ performance registry job useCache _ own =>
    have sent : Showing result serial (State.begun { state with registry } (job.complete (performance.outcome job))) :=
      showing.of_same rfl rfl
    have anonymous : (job.complete (performance.outcome job)).callback = "" := (SubmitNative.syncJob_plain own).1
    refine sent.asked rfl (Component.begin_hooks host.strtof _ anonymous) (begin_active host.strtof _ anonymous) ?_
    intro done carried
    rw [List.mem_singleton.mp carried, QueryJob.complete_succeeded]
    simpa only [undisturbed, own, Option.all_some, Bool.not_eq_true'] using allowed
  | syncRejected registry handle sql reason =>
    have sent : Showing result serial (State.begun { state with registry } (Component.rejectedJob handle sql reason)) :=
      showing.of_same rfl rfl
    refine sent.asked rfl (Component.begin_hooks host.strtof _ rfl) (begin_active host.strtof _ rfl) ?_
    intro done carried
    cases carried
  | @submitted _ _ _ _ _ submission _ _ leaves =>
    have accepted : Showing result serial (state.accept submission) := showing.of_same rfl leaves.reads.1
    rw [State.submitted]
    split
    next => exact accepted
    next call _ _ =>
      refine @Showing.push _ _ _ accepted { script := call.script, heap := call.heap, waiting := .reject } trivial ?_ _ rfl rfl
      intro _ _ _ _ waits
      cases waits
  | leave running =>
    refine showing_leave showing running ?_
    rintro rfl
    rw [undisturbed, running] at allowed
    cases allowed

theorem showing_entered {activation : Activation} (entered : state.stack = [activation])
    (waits : activation.waiting = .dispatch serial .calledBack .tick) (shown : state.component.activeCache = some result) :
    Showing result serial state := by
  refine ⟨?_, ⟨activation, ?_, waits⟩, ?_, shown⟩
  · rw [entered]
    refine .outer ?_
    rw [waits]
    exact rfl
  · rw [entered]
    rfl
  · rw [entered]
    intro other inside _ _ _ _ asked
    rw [List.mem_singleton.mp inside] at asked
    cases waits.symm.trans asked

theorem showing_run {events : List Event} {after : State} (showing : Showing result serial state)
    (run : Run (Guarded (fun state event => undisturbed state event = true) (Steps (step host))) state events after) :
    Showing result serial after :=
  run.invariant showing (fun _ _ _ held move => showing_move held move.1 (moves_of_step move.2))

end Steps

/-- From the moment a callback is entered until it returns, its rows are there to be read, unless a
script activates others or has a query of its own answered. In a run they are those of the job whose
callback it is. -/
theorem callback_keeps_rows {host : Host} {start state : State} {activation : Activation} {serial : Nat}
    {result : QueryResult} {events : List Event} (entered : start.stack = [activation])
    (waits : activation.waiting = .dispatch serial .calledBack .tick) (shown : start.component.activeCache = some result)
    (run : Run (Guarded (fun state event => undisturbed state event = true) (Steps (step host))) start events state) :
    (state.component.activeCache = some result ∧ CallbackRuns state.stack serial) ∧
      ∀ before event earlier call, Run (Steps (step host)) {} earlier before → step host before event = some start →
        CallsBack before start serial call →
        ∃ job, .begun serial job ∈ start.history ∧ call.name = job.callback ∧ job.result = some result := by
  have showing := showing_run (showing_entered entered waits shown) run
  refine ⟨⟨showing.active, showing.runs⟩, ?_⟩
  intro before event earlier call reached stepped calls
  obtain ⟨job, performance, _, own⟩ := callback_entered reached stepped calls
  obtain ⟨_, _, rfl⟩ := own.pushed
  refine ⟨_, own.begun, rfl, ?_⟩
  rw [own.result, ← own.rows _ own.result, shown]

section Entered

/-- The dispatch whose callback a public is. -/
def Waiting.calledBack : Waiting → Option Nat
  | .dispatch serial .calledBack .tick => some serial
  | _ => none

theorem Waiting.calledBack_eq_some {waiting : Waiting} {serial : Nat} (callback : waiting.calledBack = some serial) :
    waiting = .dispatch serial .calledBack .tick := by
  unfold calledBack at callback
  split at callback
  next =>
    cases callback
    rfl
  next => cases callback

/-- A query of its own that fails, with its report, and a refused one. -/
private def failing : List Event :=
  [.submit (.executeSync 1 "SELEC 1" true) (fun _ => 0) 0 (.plain true none 1 1064 "syntax"),
    .submit (.execute 1 "SELECT 1; DROP TABLE t" "" []) (fun _ => 0) 0 .disconnected, .leave, .leave, .act .retain]

theorem callback_keeps_rows_failing : ∃ start state serial result,
    exec (step plainHost) listening (sending ++ answering) = some start ∧
    exec (guarded (fun state event => undisturbed state event = true) (step plainHost)) start failing = some state ∧
    state.component.activeCache = some result ∧ CallbackRuns state.stack serial := by
  have enters : ((exec (step plainHost) listening (sending ++ answering)).any fun start =>
      (start.stack.length == 1 && start.stack.all (·.waiting.calledBack == some 0)) &&
        (start.component.activeCache.isSome &&
          (exec (guarded (fun state event => undisturbed state event = true) (step plainHost)) start failing).isSome)) = true := by
    decide
  obtain ⟨start, started, shape⟩ := (Option.any_eq_true ..).mp enters
  obtain ⟨⟨single, callback⟩, shown, runs⟩ :
      (start.stack.length = 1 ∧ ∀ activation ∈ start.stack, activation.waiting.calledBack = some 0) ∧
        start.component.activeCache.isSome ∧
          (exec (guarded (fun state event => undisturbed state event = true) (step plainHost)) start failing).isSome := by
    simpa only [Bool.and_eq_true, beq_iff_eq, List.all_eq_true] using shape
  obtain ⟨activation, entered⟩ := List.length_eq_one_iff.mp single
  obtain ⟨result, active⟩ := Option.isSome_iff_exists.mp shown
  obtain ⟨state, done⟩ := Option.isSome_iff_exists.mp runs
  have waits := Waiting.calledBack_eq_some (callback activation (entered ▸ List.mem_cons_self))
  exact ⟨start, state, 0, result, started, done, (callback_keeps_rows entered waits active (Run.of_guarded_exec done)).1⟩

end Entered
end OmpMySQL.MainThread
