import OmpMySQL.Proofs.Delivery
import OmpMySQL.Proofs.GuardPolicy

/-! What `pending()` counts. The add of `enqueue()` comes after its push and the
worker's `fetch_sub` after it has handed its job back, so the count is off by one
inside each of these two windows. -/

namespace OmpMySQL.Engine
open Library

variable {κ : Type}

/-- The main thread is in none of `enqueue()`, `runSync()` and `stop()`. -/
def Main.outside : Main κ → Bool
  | .free | .asking _ _ => true
  | .counting _ _ | .waitingFor _ | .joining _ => false

def Thread.unsubtracted : Thread κ → Int
  | .settled => 1
  | .waiting | .holding _ | .asking _ | .finished _ | .exited => 0

variable [DecidableEq κ]

def Main.unadded (conn : κ) : Main κ → Int
  | .counting counted _ => if counted = conn then 1 else 0
  | .free | .waitingFor _ | .joining _ | .asking _ _ => 0

def Counted (main : Main κ) (conn : κ) (worker : ConnectionWorker κ) : Prop :=
  worker.pending + main.unadded conn = worker.outstanding.length + worker.thread.unsubtracted

def Accounted (state : State κ) : Prop := Each (Counted state.main) state

theorem accounted_initial : Accounted ({} : State κ) := by
  intro conn worker found
  cases found

private theorem Counted.elsewhere {main next : Main κ} {conn : κ} {worker : ConnectionWorker κ}
    (counted : Counted main conn worker) (same : next.unadded conn = main.unadded conn) : Counted next conn worker := by
  unfold Counted at counted ⊢
  rw [same]
  exact counted

theorem Main.unadded_outside {main : Main κ} (outside : main.outside = true) (conn : κ) : main.unadded conn = 0 := by
  cases main with
  | free | asking _ _ => rfl
  | counting _ _ | waitingFor _ | joining _ => cases outside

theorem unadded_counted (signal : Option Nat) (conn : κ) : (Main.counted signal).unadded conn = 0 := by
  cases signal <;> rfl

private theorem pushed_counted {state : State κ} (counted : Accounted state) (free : state.main = .free)
    {ticket : Ticket κ} {worker : ConnectionWorker κ} (found : state.workers ticket.conn = some worker)
    (signal : Option Nat) : Each (Counted (.counting ticket.conn signal)) (state.setWorker ticket.conn (worker.push ticket)) := by
  have held := counted _ _ found
  refine Each.setWorker counted _ _ ?_ ?_
  · simp only [Counted, free, Main.unadded, ConnectionWorker.outstanding, ConnectionWorker.push, if_true,
      List.length_append, List.length_singleton] at held ⊢
    omega
  · intro other worker apart held
    exact held.elsewhere (by simp [Main.unadded, free, Ne.symm apart])

theorem accounted_step {state next : State κ} {event : Event κ} (counted : Accounted state)
    (moved : Moved state event next) : Accounted next := by
  cases moved with
  | create free absent => exact Each.update counted {} (by simp [Counted, ConnectionWorker.outstanding, Thread.taken,
      Thread.unsubtracted, Main.unadded, free])
  | @enqueue ticket worker free serial signal found => exact pushed_counted counted free found none
  | @runSync ticket worker free serial signal query found running =>
    exact pushed_counted counted free found (some ticket.serial)
  | @count conn signal worker main found =>
    have held := counted _ _ found
    refine Each.setWorker counted _ _ ?_ ?_
    · simp only [Counted, main, Main.unadded, ConnectionWorker.outstanding, if_true] at held
      show worker.pending + 1 + (Main.counted signal).unadded conn = _
      rw [unadded_counted]
      simp only [ConnectionWorker.outstanding]
      omega
    · intro other worker apart held
      exact held.elsewhere ((unadded_counted signal other).trans (by simp [main, Main.unadded, Ne.symm apart]))
  | wake main member => exact fun conn worker found => (counted conn worker found).elsewhere (by simp [main, Main.unadded])
  | @stop conn worker free found running =>
    have held := counted _ _ found
    refine Each.setWorker counted _ _ ?_ ?_
    · simpa [Counted, free, Main.unadded, ConnectionWorker.outstanding] using held
    · intro other worker apart held
      exact held.elsewhere (by simp [free, Main.unadded])
  | @join conn worker main found exited =>
    refine Each.joined counted conn ?_
    intro other worker _ held
    exact held.elsewhere (by simp [main, Main.unadded])
  | drain free empty => exact counted
  | dispatch free drained => exact counted
  | call free present quiet => exact counted
  | ask free present asks =>
    exact fun conn worker found => (counted conn worker found).elsewhere (by simp [free, Main.unadded])
  | answer main => exact fun conn worker found => (counted conn worker found).elsewhere (by simp [main, Main.unadded])
  | pop found thread input =>
    have held := counted _ _ found
    apply Each.update counted
    simp only [Counted, ConnectionWorker.outstanding, thread, input, Thread.taken, Thread.unsubtracted,
      List.append_nil, List.length_append, List.length_cons, List.length_nil] at held ⊢
    omega
  | drop found thread _ | send found thread _ | deliverAsync found thread _ | deliverSync found thread _ =>
    have held := counted _ _ found
    apply Each.update counted
    simpa [Counted, ConnectionWorker.outstanding, thread, Thread.taken, Thread.unsubtracted] using held
  | finish found query thread =>
    have held := counted _ _ found
    apply Each.update counted
    rcases thread with thread | ⟨thread, _⟩ <;>
      simpa [Counted, ConnectionWorker.outstanding, thread, Thread.taken, Thread.unsubtracted] using held
  | uncount found thread =>
    have held := counted _ _ found
    apply Each.update counted
    simp only [Counted, ConnectionWorker.outstanding, thread, Thread.taken, Thread.unsubtracted] at held ⊢
    omega
  | exit found thread empty stopped =>
    have held := counted _ _ found
    apply Each.update counted
    simpa [Counted, ConnectionWorker.outstanding, thread, Thread.taken, Thread.unsubtracted] using held

section Run
variable {events : List (Event κ)} {state : State κ} {conn : κ} {worker : ConnectionWorker κ}

theorem accounted (run : Run (Steps step) {} events state) : Accounted state :=
  run.invariant accounted_initial (fun _ _ _ held stepped => accounted_step held (step_moved stepped))

theorem outstanding_enqueued (run : Run (Steps step) {} events state) (found : state.workers conn = some worker)
    {ticket : Ticket κ} (present : ticket ∈ worker.outstanding) : ticket ∈ events.flatMap Event.enqueued := by
  have reads : ∀ {α : Type} (list : ConnectionWorker κ → List α), state.read list conn = list worker := by
    intro α list
    simp [State.read, found]
  apply And.left
  apply mem_enqueuedOn.mp
  rw [ConnectionWorker.outstanding, Thread.taken_eq] at present
  rcases List.mem_append.mp present with waiting | taken
  · rw [← begun_flow run conn, reads]
    exact List.mem_append_right _ waiting
  rcases List.mem_append.mp taken with unrun | ran
  · exact mem_arrived_of_held (held_in_order run found) unrun
  · have finished : ticket ∈ (finishedOn conn events).map Finished.ticket := by
      rw [← delivered_flow run conn, reads, List.map_append]
      exact List.mem_append_right _ ran
    exact (List.mem_filter.mp ((finished_in_order run conn).subset finished)).1

/-- The job `runSync()` is in the middle of. -/
def Main.awaited : Main κ → Option Nat
  | .counting _ signal => signal
  | .waitingFor serial => some serial
  | .free | .joining _ | .asking _ _ => none

omit [DecidableEq κ] in
theorem awaited_counted (signal : Option Nat) : (Main.counted signal : Main κ).awaited = signal := by
  cases signal <;> rfl

omit [DecidableEq κ] in
theorem awaited_outside {main : Main κ} (outside : main.outside = true) : main.awaited = none := by
  cases main with
  | free | asking _ _ => rfl
  | counting _ _ | waitingFor _ | joining _ => cases outside

def Awaited (main : Main κ) (worker : ConnectionWorker κ) : Prop :=
  ∀ ticket ∈ worker.outstanding, main.awaited = some ticket.serial

/-- A script that runs only synchronous queries. -/
def OnlySync (events : List (Event κ)) : Prop := ∀ ticket ∈ events.flatMap Event.enqueued, ticket.isAsync = false

instance (events : List (Event κ)) : Decidable (OnlySync events) := inferInstanceAs (Decidable (∀ ticket ∈ _, _))

/-- Nothing is left of a query that has been handed back to `runSync()`. -/
theorem returned_gone (run : Run (Steps step) {} events state) {done : Finished κ}
    (returned : done ∈ events.flatMap Event.returned) (found : state.workers conn = some worker) {ticket : Ticket κ}
    (present : ticket ∈ worker.outstanding) : ticket.serial ≠ done.ticket.serial := by
  intro same
  have executed := List.mem_filter.mp (returned_executed run done returned)
  have queued : done.ticket ∈ events.flatMap Event.enqueued :=
    (mem_enqueuedOn.mp ((executed_in_order run _).subset executed.1)).1
  have distinct : ((events.flatMap Event.enqueued).map Ticket.serial).Nodup := by
    rw [enqueued_serials run]
    exact List.nodup_range
  cases List.inj_on_of_nodup_map distinct (outstanding_enqueued run found present) queued same
  obtain ⟨place, _, elsewhere⟩ := one_place run queued executed.2
  have back : place = .returned := by
    by_contra apart
    have none_back := elsewhere .returned (Ne.symm apart)
    rw [occupancy, List.count_eq_zero] at none_back
    exact none_back (List.mem_map_of_mem (List.mem_append_left _ returned))
  subst back
  have reads : ∀ {α : Type} (list : ConnectionWorker κ → List α), state.read list conn = list worker := by
    intro α list
    simp [State.read, found]
  have waiting := elsewhere (.inputQueue conn) (by simp)
  have executing := elsewhere (.executing conn) (by simp)
  rw [occupancy, reads, List.count_eq_zero] at waiting
  rw [occupancy, reads, reads, ← List.count_append, ← Thread.taken_eq, List.count_eq_zero] at executing
  exact (List.mem_append.mp present).elim waiting executing

omit [DecidableEq κ] in
private theorem Awaited.idle {main next : Main κ} (awaited : Awaited main worker) (idle : main.awaited = none) :
    Awaited next worker := by
  intro ticket present
  have waits := awaited ticket present
  rw [idle] at waits
  cases waits

omit [DecidableEq κ] in
private theorem Awaited.within {main : Main κ} {updated : ConnectionWorker κ} (awaited : Awaited main worker)
    (within : ∀ ticket ∈ updated.outstanding, ticket ∈ worker.outstanding) : Awaited main updated :=
  fun ticket present => awaited ticket (within ticket present)

/-- Everything outstanding is the one job the main thread waits for. -/
def Alone (state : State κ) : Prop := Each (fun _ => Awaited state.main) state

omit [DecidableEq κ] in
private theorem Alone.idle {state next : State κ} (alone : Alone state) (idle : state.main.awaited = none)
    (workers : next.workers = state.workers) : Alone next := by
  intro conn worker found
  rw [workers] at found
  exact (alone conn worker found).idle idle

private theorem Alone.work {state : State κ} (alone : Alone state) (found : state.workers conn = some worker)
    (updated : ConnectionWorker κ) (within : ∀ ticket ∈ updated.outstanding, ticket ∈ worker.outstanding) :
    Alone (state.setWorker conn updated) :=
  Each.update alone updated ((alone _ _ found).within within)

theorem alone_step {state next : State κ} {event : Event κ} (alone : Alone state) (moved : Moved state event next)
    (sync : ∀ ticket ∈ event.enqueued, ticket.isAsync = false)
    (gone : ∀ done ∈ event.returned, Each (fun _ worker => ∀ ticket ∈ worker.outstanding,
      ticket.serial ≠ done.ticket.serial) next) : Alone next := by
  cases moved with
  | create free absent => exact Each.update alone {} (by simp [Awaited, ConnectionWorker.outstanding, Thread.taken])
  | @enqueue ticket worker free serial signal found =>
    have async := sync ticket (List.mem_singleton.mpr rfl)
    simp [Ticket.isAsync, signal] at async
  | @runSync ticket worker free serial signal query found running =>
    refine Each.setWorker alone _ _ ?_ ?_
    · intro queued present
      have before : queued ∉ worker.outstanding := by
        intro old
        have waits := alone _ _ found queued old
        simp [free, Main.awaited] at waits
      simp only [ConnectionWorker.outstanding, ConnectionWorker.push, List.mem_append, List.mem_singleton] at before present
      have fresh : queued = ticket := by tauto
      rw [fresh]
      rfl
    · exact fun _ _ _ held => held.idle (by simp [free, Main.awaited])
  | @count conn signal worker main found =>
    have same : (Main.counted signal : Main κ).awaited = state.main.awaited := by
      rw [awaited_counted, main, Main.awaited]
    refine Each.setWorker alone _ _ ?_ ?_
    · intro queued present
      exact same.trans (alone _ _ found queued present)
    · intro other worker _ held queued present
      exact same.trans (held queued present)
  | @wake done main member =>
    intro conn worker found ticket present
    have waits := alone conn worker found ticket present
    rw [main, Main.awaited, Option.some.injEq] at waits
    exact absurd waits.symm (gone done (List.mem_singleton.mpr rfl) conn worker found ticket present)
  | @stop conn worker free found running =>
    have idle : state.main.awaited = none := by rw [free, Main.awaited]
    exact Each.setWorker alone _ _ ((alone _ _ found).idle idle) (fun _ _ _ held => held.idle idle)
  | @join conn worker main found exited =>
    refine Each.joined alone conn ?_
    intro other worker _ held
    exact held.idle (by simp [main, Main.awaited])
  | drain free empty => exact alone
  | dispatch free drained => exact alone
  | call free present quiet => exact alone
  | ask free present asks => exact alone.idle (by simp [free, Main.awaited]) rfl
  | answer main => exact alone.idle (by simp [main, Main.awaited]) rfl
  | pop found thread input =>
    apply alone.work found
    simp [ConnectionWorker.outstanding, thread, input, Thread.taken, or_comm]
  | finish found query thread =>
    apply alone.work found
    rcases thread with thread | ⟨thread, _⟩ <;> simp [ConnectionWorker.outstanding, thread, Thread.taken]
  | drop found thread _ | deliverAsync found thread _ | deliverSync found thread _ =>
    apply alone.work found
    intro ticket present
    rw [ConnectionWorker.outstanding, Thread.taken, List.append_nil] at present
    exact List.mem_append_left _ present
  | send found thread _ | uncount found thread | exit found thread _ _ =>
    apply alone.work found
    simp [ConnectionWorker.outstanding, thread, Thread.taken]

theorem only_outstanding (run : Run (Steps step) {} events state) (sync : OnlySync events) : Alone state := by
  induction run with
  | refl =>
    intro conn worker found
    cases found
  | @snoc events before event after earlier stepped ih =>
    simp only [OnlySync, List.flatMap_append, List.flatMap_singleton, List.mem_append] at sync
    have alone := ih (fun ticket present => sync ticket (Or.inl present))
    apply alone_step alone (step_moved stepped) (fun ticket present => sync ticket (Or.inr present))
    intro done returned conn worker found ticket present
    apply returned_gone (earlier.snoc stepped) _ found present
    rw [List.flatMap_append, List.flatMap_singleton]
    exact List.mem_append_right _ returned

/-- What scripts are told about `pending()`: a worker with these events behind it
counts what is really left to do, and is never thought busier than it is. -/
structure ExactCount (events : List (Event κ)) (worker : ConnectionWorker κ) : Prop where
  count : worker.pending = worker.outstanding.length
  backlog : ∀ (table : GuardTable) (job : QueryJob) (now : Int),
    (table.checkGuards job worker.pending now).2 = .tooManyPending →
      (table.limits job.connectionHandle).maxPendingQueries ≤ worker.outstanding.length
  sync : OnlySync events → ∀ (table : GuardTable) (job : QueryJob) (now : Int),
    (table.limits job.connectionHandle).maxPendingQueries = 1 →
      (table.checkGuards job worker.pending now).2 ≠ .tooManyPending

/-- Outside the worker's methods the count is exact unless the worker has handed a
job back and not yet subtracted it. -/
theorem exact_count_iff (run : Run (Steps step) {} events state) (outside : state.main.outside = true)
    (found : state.workers conn = some worker) : ExactCount events worker ↔ worker.thread ≠ .settled := by
  have counted := accounted run conn worker found
  rw [Counted, Main.unadded_outside outside, Int.add_zero] at counted
  constructor
  · intro exact_count settled
    have count := exact_count.count
    rw [settled, Thread.unsubtracted] at counted
    omega
  · intro unsettled
    have count : worker.pending = worker.outstanding.length := by
      have subtracted : worker.thread.unsubtracted = 0 := by
        cases thread : worker.thread with
        | settled => exact absurd thread unsettled
        | _ => rfl
      rw [counted, subtracted, Int.add_zero]
    have backlog : ∀ (table : GuardTable) (job : QueryJob) (now : Int),
        (table.checkGuards job worker.pending now).2 = .tooManyPending →
          (table.limits job.connectionHandle).maxPendingQueries ≤ worker.outstanding.length := by
      intro table job now refused
      rw [← count]
      exact table.full_of_checkGuards job worker.pending now refused
    refine ⟨count, backlog, ?_⟩
    intro sync table job now one refused
    have idle : worker.outstanding = [] := by
      apply List.eq_nil_iff_forall_not_mem.mpr
      intro ticket present
      have waits := only_outstanding run sync conn worker found ticket present
      rw [awaited_outside outside] at waits
      cases waits
    have some_left := backlog table job now refused
    rw [one, idle] at some_left
    simp at some_left

end Run

section SyncScript

private def query (serial : Nat) : Ticket Nat :=
  ⟨serial, 7, { connectionHandle := 1, sql := "SELECT 1", syncSignal := some serial }⟩

private def answer : Finished Nat := ⟨query 0, ⟨true, 0, "", {}⟩⟩

/-- The main thread wakes up before the worker has subtracted the job it waited for. -/
private def woken : List (Event Nat) :=
  [.create 7, .runSync (query 0), .count, .pop (query 0), .send (query 0), .finish answer, .deliver answer, .wake answer]

private def oneAtATime : GuardTable := { guards := fun _ => some { maxPendingQueries := 1 } }

theorem sync_query_refused : ¬ ∀ (events : List (Event Nat)) (state : State Nat), Run (Steps step) {} events state →
    state.main.outside = true → ∀ conn worker, state.workers conn = some worker → ExactCount events worker := by
  intro always
  have executes : ((exec step ({} : State Nat) woken).bind (·.workers 7)).map (·.pending) = some 1 := by decide
  have outside : (exec step ({} : State Nat) woken).map (·.main.outside) = some true := by decide
  obtain ⟨worker, found, pending⟩ := Option.map_eq_some_iff.mp executes
  obtain ⟨state, done, present⟩ := Option.bind_eq_some_iff.mp found
  rw [done, Option.map_some, Option.some.injEq] at outside
  have exact_count := always woken state (Run.of_exec done) outside 7 worker present
  apply exact_count.sync (by decide) oneAtATime (query 1).job 0 rfl
  rw [pending]
  decide

theorem exact_count_subtracted : ∃ state worker, exec step ({} : State Nat) (woken ++ [.uncount 7]) = some state ∧
    state.workers 7 = some worker ∧ (ExactCount (woken ++ [.uncount 7]) worker ↔ worker.thread ≠ .settled) := by
  have executes : ((exec step ({} : State Nat) (woken ++ [.uncount 7])).bind (·.workers 7)).isSome := by decide
  have outside : (exec step ({} : State Nat) (woken ++ [.uncount 7])).map (·.main.outside) = some true := by decide
  obtain ⟨worker, found⟩ := Option.isSome_iff_exists.mp executes
  obtain ⟨state, done, present⟩ := Option.bind_eq_some_iff.mp found
  rw [done, Option.map_some, Option.some.injEq] at outside
  exact ⟨state, worker, done, present, exact_count_iff (Run.of_exec done) outside present⟩

end SyncScript
end OmpMySQL.Engine
