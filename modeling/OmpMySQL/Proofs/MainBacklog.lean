import OmpMySQL.Proofs.EngineBacklog
import OmpMySQL.Proofs.NestedUpcalls

/-! The main thread that scripts see keeps the backlog of the engine. What it has of its workers
is what the threads do. -/

namespace OmpMySQL.MainThread
open Library

section Frames
variable {host : Host} {state : State}

/-- A step that hands nothing on, and stays where it is in `onTick`. -/
structure Still (state after : State) : Prop where
  backlog : after.backlog = state.backlog
  phase : after.phase = state.phase

theorem Still.trans {middle after : State} (first : Still state middle) (second : Still middle after) : Still state after :=
  ⟨second.backlog.trans first.backlog, second.phase.trans first.phase⟩

theorem proceed_still (state : State) (serial : Nat) (caller : Caller) (progress : Progress) :
    Still state (state.proceed serial caller progress) := by
  cases progress with
  | returned component => cases caller <;> exact ⟨rfl, rfl⟩
  | calling component call resumption => exact ⟨rfl, rfl⟩

theorem dispatch_still (state : State) (job : QueryJob) (caller : Caller) :
    Still state (state.dispatch host job caller) := by
  have begun : Still state (state.begun job) := ⟨rfl, rfl⟩
  exact begun.trans (proceed_still _ _ _ _)

theorem leave_still (state : State) (activation : Activation) (stack : List Activation) :
    Still state (state.leave host activation stack) := by
  have popped : Still state (state.pop activation stack) := ⟨rfl, rfl⟩
  unfold State.leave
  dsimp only
  split
  next => exact popped
  next => exact popped
  next => exact popped
  next => exact popped.trans (proceed_still _ _ _ _)

theorem act_still {after : State} {action : Action} (acted : state.act action = some after) : Still state after := by
  obtain ⟨_, _, _, _, _, same⟩ := State.act_frame acted
  rw [same]
  exact ⟨rfl, rfl⟩

theorem runSync_still {after : State} {handle : Int} {sql : String} {useCache : Bool} {pending : Nat → Int} {now : Int}
    {performance : Performance} (ran : state.runSync host handle sql useCache pending now performance = some after) :
    Still state after := by
  have counted {registry : Connections} : Still state { state with registry } := ⟨rfl, rfl⟩
  unfold State.runSync at ran
  dsimp only at ran
  split at ran
  next =>
    cases ran
    exact ⟨rfl, rfl⟩
  next =>
    split at ran
    next =>
      simp only [Option.ite_none_right_eq_some, Option.some.injEq] at ran
      obtain ⟨_, rfl⟩ := ran
      exact counted.trans (dispatch_still _ _ _)
    next =>
      cases ran
      exact counted.trans (dispatch_still _ _ _)

/-- An asynchronous native sends what it has accepted. -/
theorem submitted_backlog (state : State) (submission : Submission) :
    (state.submitted submission).backlog =
        { state.backlog with sent := state.sent ++ submission.accepted.toList } ∧
      (state.submitted submission).phase = state.phase := by
  have accepted : (state.accept submission).backlog =
      { state.backlog with sent := state.sent ++ submission.accepted.toList } := by
    obtain ⟨server, sent, worker, calls⟩ := submission
    cases sent with
    | none => simp [State.accept, Submission.accepted, State.backlog, State.setComponent]
    | some answer =>
      obtain ⟨job, reason⟩ := answer
      cases reason <;> simp [State.accept, Submission.accepted, State.backlog, State.setComponent]
  unfold State.submitted
  split
  next => exact ⟨accepted, rfl⟩
  next => exact ⟨accepted, rfl⟩

end Frames

section Steps
variable {host : Host} {state after : State} {event : Event}

/-- There is a batch while `onTick` goes through it. -/
def State.Batched (state : State) : Prop := state.phase = .jobs ∨ state.jobs = []

theorem Still.step (still : Still state after) (batched : state.Batched) :
    state.backlog.Follows after.backlog none ∧ after.Batched := by
  refine ⟨still.backlog, ?_⟩
  have jobs : after.jobs = state.jobs := congrArg Backlog.jobs still.backlog
  rw [State.Batched, still.phase, jobs]
  exact batched

theorem backlog_submit {amx : AMX} {native : SubmitNative} {pending : Nat → Int} {now : Int} {performance : Performance}
    (batched : state.Batched) (running : state.running = some amx)
    (submitted : state.submit host amx pending now performance native = some after) :
    state.backlog.Follows after.backlog (state.handover host (.submit native pending now performance)) ∧
      after.Batched := by
  cases native with
  | executeSync handle query useCache => exact (runSync_still submitted).step batched
  | executeFileSync handle content useCache =>
    simp only [State.submit] at submitted
    split at submitted
    next =>
      cases submitted
      exact ⟨rfl, batched⟩
    next => exact (runSync_still submitted).step batched
  | execute | executeFor | executeFile | stmtExecute | modelFind | modelInsert | modelUpdate | modelDelete | modelSave =>
    simp only [State.submit, Option.some.injEq] at submitted
    subst submitted
    simp only [State.handover, running, Option.bind_some]
    generalize state.server.call _ amx _ = submission
    obtain ⟨same, phase⟩ := submitted_backlog state submission
    have jobs : (state.submitted submission).jobs = state.jobs := congrArg Backlog.jobs same
    refine ⟨?_, by rw [State.Batched, phase, jobs]; exact batched⟩
    rw [same]
    cases submission.accepted with
    | none => simp [Backlog.Follows, State.backlog]
    | some job => simp [Backlog.Follows, Backlog.step, State.backlog]

theorem backlog_turn (busy : state.phase ≠ .idle) (batched : state.Batched) :
    state.backlog.Follows (state.turn host).backlog (state.handover host .turn) ∧ (state.turn host).Batched := by
  unfold State.turn
  split
  next idle => exact absurd idle busy
  next phase =>
    split
    next job jobs queue =>
      have still : Still { state with jobs } (State.dispatch host { state with jobs } job .tick) := dispatch_still _ _ _
      refine ⟨?_, Or.inl (still.phase.trans phase)⟩
      rw [still.backlog]
      simp [State.handover, phase, queue, Backlog.Follows, Backlog.step, State.backlog]
    next queue =>
      refine ⟨?_, Or.inr queue⟩
      simp [State.handover, phase, queue, Backlog.Follows, State.backlog]
  next phase =>
    have silent : state.handover host .turn = none := by simp [State.handover, phase]
    have none : state.jobs = [] := batched.resolve_left (by simp [phase])
    rw [silent]
    split
    next => exact ⟨rfl, Or.inr none⟩
    next =>
      split
      next => exact ⟨rfl, Or.inr none⟩
      next => exact ⟨rfl, Or.inr none⟩

theorem backlog_step (batched : state.Batched) (stepped : step host state event = some after) :
    state.backlog.Follows after.backlog (state.handover host event) ∧ after.Batched := by
  cases event with
  | perform handle performance =>
    obtain ⟨job, oldest, rfl⟩ := Option.map_eq_some_iff.mp stepped
    refine ⟨?_, batched⟩
    simp only [State.handover, oldest, Option.map_some, Backlog.Follows, Backlog.step, State.backlog]
    rfl
  | hash job | players core =>
    cases stepped
    exact ⟨rfl, batched⟩
  | scripts pawn =>
    simp only [step, Option.ite_none_right_eq_some, Option.some.injEq] at stepped
    obtain ⟨_, rfl⟩ := stepped
    exact ⟨rfl, batched⟩
  | run script =>
    simp only [step, State.run, Option.ite_none_right_eq_some, Option.some.injEq] at stepped
    obtain ⟨_, _, rfl⟩ := stepped
    exact ⟨rfl, batched⟩
  | tick =>
    simp only [step, Option.ite_none_right_eq_some, Option.some.injEq] at stepped
    obtain ⟨free, rfl⟩ := stepped
    have none : state.jobs = [] := batched.resolve_left (by simp [(State.idle_of_free free).2])
    refine ⟨?_, Or.inl rfl⟩
    simp [State.handover, Backlog.Follows, Backlog.step, State.backlog, none]
  | turn =>
    simp only [step, Option.ite_none_right_eq_some, Option.some.injEq] at stepped
    obtain ⟨⟨_, busy⟩, rfl⟩ := stepped
    exact backlog_turn busy batched
  | reset =>
    simp only [step, Option.ite_none_right_eq_some, Option.some.injEq] at stepped
    obtain ⟨_, rfl⟩ := stepped
    exact ⟨rfl, batched⟩
  | act action =>
    simp only [step, Option.ite_none_right_eq_some] at stepped
    exact (act_still stepped.2).step batched
  | submit native pending now performance =>
    obtain ⟨amx, running, submitted⟩ := Option.bind_eq_some_iff.mp stepped
    exact backlog_submit batched running submitted
  | leave =>
    simp only [step] at stepped
    split at stepped
    next => cases stepped
    next =>
      cases stepped
      exact (leave_still _ _ _).step batched

end Steps

section Runs
variable {host : Host} {start state : State} {events : List Event}

theorem run_backlog (batched : start.Batched) (run : Run (Steps (step host)) start events state) :
    Run (Steps Backlog.step) start.backlog (handovers host start events) state.backlog ∧ state.Batched := by
  induction events generalizing start with
  | nil =>
    rw [run.nil]
    exact ⟨.refl, batched⟩
  | cons event events ih =>
    obtain ⟨middle, stepped, rest⟩ := run.uncons
    obtain ⟨follows, kept⟩ := backlog_step batched stepped
    obtain ⟨onward, last⟩ := ih kept rest
    refine ⟨?_, last⟩
    rw [handovers, stepped]
    exact follows.run.trans onward

theorem handovers_append (run : Run (Steps (step host)) start events state) (more : List Event) :
    handovers host start (events ++ more) = handovers host start events ++ handovers host state more := by
  induction events generalizing start with
  | nil =>
    rw [run.nil]
    rfl
  | cons event events ih =>
    obtain ⟨middle, stepped, rest⟩ := run.uncons
    rw [List.cons_append, handovers, handovers, stepped]
    simp only [ih rest, List.append_assoc]

/-- The same handovers leave the same backlog. -/
theorem backlog_unique {backlog other : Backlog} {handovers : List Handover} {first : Backlog}
    (run : Run (Steps Backlog.step) first handovers backlog) (also : Run (Steps Backlog.step) first handovers other) :
    backlog = other := by
  induction handovers generalizing first with
  | nil => rw [run.nil, also.nil]
  | cons handover handovers ih =>
    obtain ⟨middle, stepped, rest⟩ := run.uncons
    obtain ⟨also_middle, also_stepped, also_rest⟩ := also.uncons
    cases Option.some.inj (Eq.trans (Eq.symm stepped) also_stepped)
    exact ih rest also_rest

section Settled
variable {engine : Engine.State Int} {handle : Int} (shows : engine.Shows state.backlog)
include shows

theorem settled_of_empty (empty : engine.read Engine.ConnectionWorker.queries handle = []) :
    state.settled handle = true := by
  have none : onLane QueryJob.connectionHandle handle state.sent = [] := by
    have lane := shows.sent handle
    rwa [Engine.State.asynchronous, empty] at lane
  rw [State.settled, List.all_eq_true]
  intro job inside
  simpa using List.filter_eq_nil_iff.mp none job inside

theorem none_sent (gone : ∀ conn, engine.workers conn = none) : state.sent = [] := by
  rw [List.eq_nil_iff_forall_not_mem]
  intro job inside
  have settled : state.settled job.connectionHandle = true := settled_of_empty shows (by simp [Engine.State.read, gone])
  simpa using List.all_eq_true.mp settled job inside

end Settled

end Runs

section Workers
variable {host : Host} {start state : State} {engine : Engine.State Int}

def performing (performed : Int × Performance) : Event := .perform performed.1 performed.2

/-- The main thread can see its workers do what the threads do. -/
def Sees (host : Host) (state : State) (handed : List Handover) (engine : Engine.State Int) : Prop :=
  ∃ (performs : List (Int × Performance)) (next : State), Run (Steps (step host)) state (performs.map performing) next ∧
    handovers host state (performs.map performing) = handed ∧ engine.Shows next.backlog

/-- What the main thread takes its workers for, and what they are. -/
structure Backed (host : Host) (state : State) (engine : Engine.State Int) : Prop where
  shown : engine.Shows state.backlog
  onward : ∀ more after, Run (Guarded (fun _ event => event.Works) (Steps Engine.step)) engine more after →
    Sees host state (more.filterMap Engine.Event.handover) after
  answered : ∀ done after, Engine.step engine (.wake done) = some after → state.settled done.ticket.conn = true
  stopped : ∀ conn after, Engine.step engine (.join conn) = some after → state.settled conn = true
  gone : (∀ conn, engine.workers conn = none) → state.sent = []

/-- One more step of a worker is a job performed, or is not seen. -/
theorem sees_step {handed : List Handover} {event : Engine.Event Int} {after : Engine.State Int} (batched : state.Batched)
    (sees : Sees host state handed engine) (sound : Engine.Sound engine) (works : event.Works)
    (stepped : Engine.step engine event = some after) : Sees host state (handed ++ event.handover.toList) after := by
  obtain ⟨performs, next, run, rfl, shows⟩ := sees
  have moved := Engine.step_moved stepped
  obtain ⟨backlog, follows, shown⟩ := Engine.shows_step shows sound moved works.addressed
  rcases works.handover_eq with silent | ⟨done, rfl, async⟩
  · rw [silent] at follows
    cases follows
    exact ⟨performs, next, run, by simp [silent], shown⟩
  · obtain ⟨performance, made⟩ := works.2 done List.mem_cons_self
    have oldest : next.sent.find? (·.connectionHandle = done.ticket.conn) = some done.ticket.job :=
      Engine.oldest_sent shows sound moved async
    obtain ⟨last, performed⟩ : ∃ last, step host next (performing (done.ticket.conn, performance)) = some last := by
      simp [performing, step, State.perform, oldest]
    have label : next.handover host (performing (done.ticket.conn, performance)) =
        Engine.Event.handover (.deliver done) := by
      simp [performing, State.handover, oldest, Engine.Event.handover, async, made]
    have also := (backlog_step (run_backlog batched run).2 performed).1
    rw [label] at also
    have longer : (performs ++ [(done.ticket.conn, performance)]).map performing =
        performs.map performing ++ [performing (done.ticket.conn, performance)] := List.map_append
    refine ⟨performs ++ [(done.ticket.conn, performance)], last, ?_, ?_, also.unique follows ▸ shown⟩
    · rw [longer]
      exact run.snoc performed
    · rw [longer, handovers_append run, handovers, performed, label]
      simp [handovers]

/-- Where the main thread and the threads have handed on the same jobs, the main thread's workers are the engine's. -/
theorem worker_refines_engine {events : List Event} {moves : List (Engine.Event Int)} (fresh : start.backlog = {})
    (main : Run (Steps (step host)) start events state)
    (threads : Run (Guarded (fun _ event => event.Addressed) (Steps Engine.step)) {} moves engine)
    (same : moves.filterMap Engine.Event.handover = handovers host start events) : Backed host state engine := by
  have batched : start.Batched := Or.inr (congrArg Backlog.jobs fresh)
  obtain ⟨reached, later⟩ := run_backlog batched main
  rw [fresh] at reached
  obtain ⟨backlog, kept, shown⟩ := Engine.run_shows threads
  rw [same] at kept
  have shows : engine.Shows state.backlog := backlog_unique kept reached ▸ shown
  refine ⟨shows, ?_, ?_, ?_, none_sent shows⟩
  · intro more after onward
    refine And.right (a := Engine.Sound after) ?_
    induction onward with
    | refl => exact ⟨Engine.run_sound threads.unguarded, [], state, .refl, rfl, shows⟩
    | @snoc more before event after _ move ih =>
      refine ⟨Engine.sound_step ih.1 (Engine.step_moved move.2), ?_⟩
      rw [Engine.handovers_snoc]
      exact sees_step later ih.2 ih.1 move.1 move.2
  · intro done after stepped
    exact settled_of_empty shows (Engine.wake_settled threads.unguarded stepped)
  · intro conn after stepped
    exact settled_of_empty shows (Engine.join_settled threads.unguarded stepped)

section Visit

private def rows : QueryJob :=
  { connectionHandle := 1, sql := "SELECT id", callback := "OnRows", args := [.int 3, .string "x"] }

/-- The timer's query goes to its worker, which answers it, and from there to `dispatchJob`. -/
private def visit : List (Engine.Event Int) :=
  let ticket : Engine.Ticket Int := ⟨0, 1, rows⟩
  let done : Engine.Finished Int := ⟨ticket, (oneRow "5").outcome rows⟩
  [.create 1, .enqueue ticket, .count, .pop ticket, .send ticket, .finish done, .deliver done, .drain, .uncount 1,
    .dispatch done]

theorem worker_refines_engine_visit : ∃ state engine,
    exec (step plainHost) listening (sending ++ answering) = some state ∧
      exec (guarded (fun _ event => event.Addressed) Engine.step) {} visit = some engine ∧
      Backed plainHost state engine := by
  have main : (exec (step plainHost) listening (sending ++ answering)).isSome := by decide
  have threads : (exec (guarded (fun _ event => event.Addressed) Engine.step) ({} : Engine.State Int) visit).isSome := by
    decide
  obtain ⟨state, done⟩ := Option.isSome_iff_exists.mp main
  obtain ⟨engine, worked⟩ := Option.isSome_iff_exists.mp threads
  have same : visit.filterMap Engine.Event.handover = handovers plainHost listening (sending ++ answering) := by decide
  exact ⟨state, engine, done, worked, worker_refines_engine rfl (Run.of_exec done) (Run.of_guarded_exec worked) same⟩

end Visit
end Workers
end OmpMySQL.MainThread
