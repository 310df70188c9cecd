import OmpMySQL.Backlog
import OmpMySQL.Proofs.MainProgress

/-! The engine keeps a backlog. On each connection it holds, in order, the asynchronous queries
that the worker has not handed back. -/

namespace OmpMySQL.Engine
open Library

variable {κ : Type} [DecidableEq κ]

section Waits
variable {state next : State κ} {event : Event κ} {events : List (Event κ)} {conn : κ}

theorem run_sound (run : Run (Steps step) {} events state) : Sound state :=
  run.invariant sound_initial (fun _ _ _ sound stepped => sound_step sound (step_moved stepped))

/-- The query a native waits for is the last that was enqueued. -/
theorem awaited_latest (run : Run (Steps step) {} events state) :
    ∀ serial, state.main.awaited = some serial → serial + 1 = state.issued := by
  refine @Run.invariant _ _ _ _ (fun state : State κ => ∀ serial, state.main.awaited = some serial →
    serial + 1 = state.issued) (by simp [Main.awaited]) ?_ _ _ run
  intro before event after latest stepped serial waits
  have moved := step_moved stepped
  cases moved with
  | create | pop | drop | send | finish | deliverAsync | deliverSync | uncount | exit | drain | dispatch | call =>
    exact latest serial waits
  | enqueue | wake | stop | join | ask | answer => cases waits
  | runSync _ fresh =>
    cases waits
    rw [fresh]
  | count main =>
    rw [awaited_counted] at waits
    exact latest serial (by rw [main, Main.awaited, waits])

theorem handed_flow (run : Run (Steps step) {} events state) (conn : κ) :
    (deliveredOn conn events).map Finished.ticket ++ state.read ConnectionWorker.queries conn =
      (enqueuedOn conn events).filter Ticket.isQuery := by
  have flow : events.flatMap (fun event => (doneOn conn event.delivered).map Finished.ticket) ++
      state.read ConnectionWorker.queries conn =
      events.flatMap (fun event => (ofConn conn event.enqueued).filter Ticket.isQuery) :=
    run.conserved rfl sound_initial (fun _ _ _ sound stepped => sound_step sound (step_moved stepped))
      (fun _ _ _ sound stepped => queries_conserved sound (step_moved stepped) conn)
  simpa only [deliveredOn, enqueuedOn, List.map_flatMap, List.filter_flatMap] using flow

/-- When a native has its answer its connection has no query left. -/
theorem wake_settled (run : Run (Steps step) {} events state) {done : Finished κ}
    (stepped : step state (.wake done) = some next) : state.read ConnectionWorker.queries done.ticket.conn = [] := by
  obtain ⟨waits, answered⟩ : state.main = .waitingFor done.ticket.serial ∧ done ∈ state.promised := by
    simp only [step, Option.ite_none_right_eq_some] at stepped
    exact stepped.1
  have last := awaited_latest run done.ticket.serial (by rw [waits, Main.awaited])
  have flow := handed_flow run done.ticket.conn
  have delivered : done.ticket ∈ (deliveredOn done.ticket.conn events).map Finished.ticket := by
    have inside := (returned_flow run).mem_iff.mp (List.mem_append_right _ answered)
    simp only [List.mem_flatMap, List.mem_filter] at inside
    obtain ⟨event, happened, kept, _⟩ := inside
    refine List.mem_map_of_mem (List.mem_flatMap.mpr ⟨event, happened, ?_⟩)
    simpa [doneOn] using kept
  have sorted := (enqueuedOn_sorted run done.ticket.conn).filter Ticket.isQuery
  rw [← flow] at sorted
  by_contra left
  obtain ⟨ticket, waiting⟩ := List.exists_mem_of_ne_nil _ left
  have after := (List.pairwise_append.mp sorted).2.2 done.ticket delivered ticket waiting
  have issued : ticket.serial < state.issued := by
    have queued : ticket ∈ (enqueuedOn done.ticket.conn events).filter Ticket.isQuery :=
      flow ▸ List.mem_append_right _ waiting
    have inside := (mem_enqueuedOn.mp (List.mem_filter.mp queued).1).1
    have numbered := List.mem_map_of_mem (f := Ticket.serial) inside
    rwa [enqueued_serials run, List.mem_range] at numbered
  omega

theorem join_settled (run : Run (Steps step) {} events state) (stepped : step state (.join conn) = some next) :
    state.read ConnectionWorker.queries conn = [] := by
  cases step_moved stepped with
  | join main found exited =>
    have empty := ((run_sound run _ _ found).exited exited).2
    simp [State.read, found, ConnectionWorker.queries, Thread.queries, exited, empty]

end Waits

section Shown
variable {state next : State Int} {event : Event Int} {events : List (Event Int)} {backlog : Backlog}

/-- The queries of a connection that nobody waits for and that its worker has not handed back. -/
def State.asynchronous (state : State Int) (handle : Int) : List QueryJob :=
  ((state.read ConnectionWorker.queries handle).filter Ticket.isAsync).map Ticket.job

structure State.Shows (state : State Int) (backlog : Backlog) : Prop where
  sent : ∀ handle, onLane QueryJob.connectionHandle handle backlog.sent = state.asynchronous handle
  completed : backlog.completed = state.completed.map Finished.job
  jobs : backlog.jobs = state.drained.map Finished.job

/-- Queries go to the worker of the connection they name. -/
def Event.Addressed (event : Event Int) : Prop := ∀ ticket ∈ event.enqueued, ticket.job.connectionHandle = ticket.conn

instance (event : Event Int) : Decidable event.Addressed := inferInstanceAs (Decidable (∀ ticket ∈ _, _))

theorem shows_initial : ({} : State Int).Shows {} where
  sent _ := rfl
  completed := rfl
  jobs := rfl

/-- What the queries of a connection are after an event, from what it enqueues and delivers there. -/
theorem asynchronous_step (sound : Sound state) (moved : Moved state event next) (handle : Int) :
    ((doneOn handle event.delivered).filter (·.ticket.isAsync)).map (fun done => done.ticket.job) ++
        next.asynchronous handle = state.asynchronous handle ++
        ((ofConn handle event.enqueued).filter fun ticket => ticket.isQuery && ticket.isAsync).map Ticket.job := by
  have law := congrArg (fun tickets => (tickets.filter Ticket.isAsync).map Ticket.job) (queries_conserved sound moved handle)
  simpa only [List.filter_append, List.map_append, List.filter_map, List.map_map, List.filter_filter, Function.comp_def,
    State.asynchronous, Bool.and_comm] using law

/-- What a worker delivers for nobody that waits is the oldest job its connection has sent. -/
theorem oldest_sent {done : Finished Int} (shows : state.Shows backlog) (sound : Sound state)
    (moved : Moved state (.deliver done) next) (async : done.ticket.isAsync = true) :
    backlog.sent.find? (·.connectionHandle = done.ticket.conn) = some done.ticket.job := by
  have law : done.ticket.job :: next.asynchronous done.ticket.conn = state.asynchronous done.ticket.conn := by
    simpa [Event.delivered, Event.enqueued, doneOn, ofConn, async] using asynchronous_step sound moved done.ticket.conn
  rw [← List.head?_filter]
  exact congrArg List.head? ((shows.sent done.ticket.conn).trans law.symm)

private theorem shows_performed {done : Finished Int} (shows : state.Shows backlog)
    (oldest : backlog.sent.find? (·.connectionHandle = done.ticket.conn) = some done.ticket.job)
    (lanes : ∀ handle, (if done.ticket.conn = handle then [done.ticket.job] else []) ++ next.asynchronous handle =
      state.asynchronous handle)
    (completed : next.completed = state.completed ++ [done]) (drained : next.drained = state.drained) :
    ∃ after, backlog.step (.perform done.ticket.conn done.outcome) = some after ∧ next.Shows after := by
  refine ⟨{ backlog with
    sent := withoutOldest QueryJob.connectionHandle done.ticket.conn backlog.sent
    completed := backlog.completed ++ [done.job] }, by rw [Backlog.step, oldest]; rfl, ?_⟩
  refine ⟨?_, by simp [shows.completed, completed], by rw [drained, shows.jobs]⟩
  intro handle
  by_cases here : handle = done.ticket.conn
  · subst here
    have lane := onLane_oldest oldest
    rw [shows.sent, ← lanes, if_pos rfl, List.singleton_append] at lane
    exact (List.cons.inj lane).2.symm
  · rw [onLane_other oldest here, shows.sent, ← lanes, if_neg (Ne.symm here), List.nil_append]

theorem shows_step (shows : state.Shows backlog) (sound : Sound state) (moved : Moved state event next)
    (addressed : event.Addressed) : ∃ after, backlog.Follows after event.handover ∧ next.Shows after := by
  have kept := asynchronous_step sound moved
  have unseen (queued : ∀ handle, next.asynchronous handle = state.asynchronous handle)
      (completed : next.completed = state.completed) (drained : next.drained = state.drained) : next.Shows backlog :=
    ⟨fun handle => (shows.sent handle).trans (queued handle).symm, by rw [completed, shows.completed],
      by rw [drained, shows.jobs]⟩
  have quiet (silent : event.enqueued = [] ∧ event.delivered = []) (handle : Int) :
      next.asynchronous handle = state.asynchronous handle := by
    simpa [silent.1, silent.2, doneOn, ofConn] using kept handle
  cases moved with
  | create | count | wake | stop | join | call | ask | answer | pop | drop | send | finish | uncount | exit =>
    exact ⟨backlog, rfl, unseen (quiet ⟨rfl, rfl⟩) rfl rfl⟩
  | drain free empty =>
    refine ⟨{ backlog with completed := [], jobs := backlog.completed }, ?_, ?_⟩
    · simp [Backlog.Follows, Event.handover, Backlog.step, shows.jobs, empty]
    · exact ⟨fun handle => (shows.sent handle).trans (quiet ⟨rfl, rfl⟩ handle).symm, rfl, shows.completed⟩
  | @dispatch done rest free drained =>
    have jobs : backlog.jobs = done.job :: rest.map Finished.job := by rw [shows.jobs, drained, List.map_cons]
    refine ⟨{ backlog with jobs := rest.map Finished.job }, ?_, ?_⟩
    · simp [Backlog.Follows, Event.handover, Backlog.step, jobs]
    · exact ⟨fun handle => (shows.sent handle).trans (quiet ⟨rfl, rfl⟩ handle).symm, shows.completed, rfl⟩
  | @runSync ticket worker free serial signal query found running =>
    have sync : ticket.isAsync = false := by simp [Ticket.isAsync, signal]
    refine ⟨backlog, rfl, unseen ?_ rfl rfl⟩
    intro handle
    by_cases here : ticket.conn = handle <;>
      simpa [Event.delivered, Event.enqueued, doneOn, ofConn, here, query, sync] using kept handle
  | @deliverSync done worker found thread sync =>
    refine ⟨backlog, by simp [Backlog.Follows, Event.handover, sync], unseen ?_ rfl rfl⟩
    intro handle
    by_cases here : done.ticket.conn = handle <;>
      simpa [Event.delivered, Event.enqueued, doneOn, ofConn, here, sync] using kept handle
  | @enqueue ticket worker free serial signal found =>
    have async : ticket.isAsync = true := by simp [Ticket.isAsync, signal]
    have home : ticket.job.connectionHandle = ticket.conn := addressed ticket List.mem_cons_self
    cases query : ticket.isQuery with
    | false =>
      refine ⟨backlog, by simp [Backlog.Follows, Event.handover, query], unseen ?_ rfl rfl⟩
      intro handle
      by_cases here : ticket.conn = handle <;>
        simpa [Event.delivered, Event.enqueued, doneOn, ofConn, here, query] using kept handle
    | true =>
      refine ⟨{ backlog with sent := backlog.sent ++ [ticket.job] }, ?_, ?_, shows.completed, shows.jobs⟩
      · simp [Backlog.Follows, Event.handover, query, Backlog.step]
      intro handle
      rw [onLane_append, onLane_singleton, shows.sent, home]
      by_cases here : ticket.conn = handle <;>
        simpa [Event.delivered, Event.enqueued, doneOn, ofConn, here, query, async] using (kept handle).symm
  | @deliverAsync done worker found thread async =>
    have oldest := oldest_sent shows sound (.deliverAsync found thread async) async
    simp only [Event.handover, async, if_true, Backlog.Follows]
    refine shows_performed shows oldest ?_ rfl rfl
    intro handle
    by_cases here : done.ticket.conn = handle <;>
      simpa [Event.delivered, Event.enqueued, doneOn, ofConn, here, async] using kept handle

theorem handovers_snoc (events : List (Event Int)) (event : Event Int) :
    (events ++ [event]).filterMap Event.handover = events.filterMap Event.handover ++ event.handover.toList := by
  rw [List.filterMap_append]
  cases same : event.handover <;> simp [same]

/-- Whatever the threads do, in whatever order, they keep a backlog. -/
theorem run_shows (run : Run (Guarded (fun _ event => event.Addressed) (Steps step)) {} events state) :
    ∃ backlog, Run (Steps Backlog.step) {} (events.filterMap Event.handover) backlog ∧ state.Shows backlog := by
  induction run with
  | refl => exact ⟨{}, .refl, shows_initial⟩
  | @snoc events before event after earlier move ih =>
    obtain ⟨backlog, reached, shows⟩ := ih
    obtain ⟨next, follows, shown⟩ := shows_step shows (run_sound earlier.unguarded) (step_moved move.2) move.1
    refine ⟨next, ?_, shown⟩
    rw [handovers_snoc]
    exact reached.trans follows.run

/-- A step of a worker, which makes of a job what a worker can make of it. -/
def Event.Works (event : Event Int) : Prop :=
  event.worker.isSome ∧
    ∀ done ∈ event.delivered, ∃ performance : Performance, done.outcome = performance.outcome done.ticket.job

theorem Event.Works.addressed (works : event.Works) : event.Addressed := by
  obtain ⟨own, _⟩ := works
  cases event with
  | enqueue | runSync => cases own
  | _ =>
    intro ticket inside
    cases inside

theorem Event.Works.handover_eq (works : event.Works) :
    event.handover = none ∨ ∃ done, event = .deliver done ∧ done.ticket.isAsync = true := by
  obtain ⟨own, _⟩ := works
  cases event with
  | deliver done =>
    cases async : done.ticket.isAsync with
    | true => exact Or.inr ⟨done, rfl, async⟩
    | false => exact Or.inl (by simp [Event.handover, async])
  | pop | drop | send | finish | uncount | exit => exact Or.inl rfl
  | create | enqueue | runSync | count | wake | stop | join | drain | dispatch | call | answer => cases own

end Shown
end OmpMySQL.Engine
