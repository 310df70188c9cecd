import OmpMySQL.Library.Budget
import OmpMySQL.Proofs.PendingCount

/-! Scripts do not wait forever for a query of their own. Its worker can always go on, and it is done
after a number of steps that is known. -/

namespace OmpMySQL.Engine
open Library

variable {κ : Type}

/-- The worker whose thread takes the step. -/
def Event.worker : Event κ → Option κ
  | .pop ticket | .drop ticket | .send ticket => some ticket.conn
  | .finish done | .deliver done => some done.ticket.conn
  | .uncount conn | .exit conn => some conn
  | .create _ | .enqueue _ | .runSync _ | .count | .wake _ | .stop _ | .join _ | .drain | .dispatch _ | .call _ _ _
  | .answer => none

/-- The steps a thread has to take before it looks at the queue, and the one that leaves the loop. -/
def Thread.left : Thread κ → Nat
  | .holding _ => 5
  | .asking _ => 4
  | .finished _ => 3
  | .settled => 2
  | .waiting => 1
  | .exited => 0

def ConnectionWorker.left (worker : ConnectionWorker κ) : Nat := 5 * worker.input.length + worker.thread.left

def State.left (conn : κ) (state : State κ) : Nat := ((state.workers conn).map ConnectionWorker.left).getD 0

/-- A worker has jobs of its own connection, and asks the server for queries only. -/
structure Manned (conn : κ) (worker : ConnectionWorker κ) : Prop where
  home : ∀ ticket ∈ worker.outstanding, ticket.conn = conn
  asks : ∀ ticket, worker.thread = .asking ticket → ticket.isQuery = true

/-- A synchronous query has been answered or is on its way through this worker. -/
def OwedOn (conn : κ) (serial : Nat) (state : State κ) : Prop :=
  (∃ done ∈ state.promised, done.ticket.serial = serial) ∨
    ∃ worker, state.workers conn = some worker ∧
      ∃ ticket ∈ worker.outstanding, ticket.serial = serial ∧ ticket.isAsync = false ∧ ticket.isQuery = true

structure Served (state : State κ) : Prop where
  sound : Sound state
  manned : Each Manned state
  owed : ∀ serial, state.main.awaited = some serial → ∃ conn, OwedOn conn serial state

variable [DecidableEq κ]

section Steps
variable {state next : State κ} {event : Event κ} {conn : κ} {serial : Nat}

theorem main_of_worker (moved : Moved state event next) (own : event.worker.isSome) : next.main = state.main := by
  cases moved with
  | pop | drop | send | finish | deliverAsync | deliverSync | uncount | exit => rfl
  | create | enqueue | runSync | count | wake | stop | join | drain | dispatch | call | ask | answer => cases own

private theorem left_setWorker {target : κ} {worker updated : ConnectionWorker κ} (found : state.workers target = some worker)
    (workers : next.workers = (state.setWorker target updated).workers) (less : updated.left + 1 ≤ worker.left) :
    next.left conn + (decide (some target = some conn)).toNat ≤ state.left conn := by
  by_cases same : conn = target
  · subst same
    simpa [State.left, workers, found] using less
  · have apart : some target ≠ some conn := fun equal => same (Option.some.inj equal).symm
    rw [State.left, workers, State.setWorker_other _ _ _ _ same, decide_eq_false apart]
    exact Nat.le_refl _

/-- Whatever the workers do, what is left for each of them is less by its own steps. -/
theorem left_pays (moved : Moved state event next) (own : event.worker.isSome) :
    Pays (fun event : Event κ => decide (event.worker = some conn)) (State.left conn) state event next := by
  cases moved with
  | pop found thread input =>
    refine left_setWorker found rfl ?_
    simp only [ConnectionWorker.left, thread, input, Thread.left, List.length_cons]
    omega
  | drop found thread | send found thread | deliverAsync found thread | deliverSync found thread | uncount found thread
  | exit found thread =>
    refine left_setWorker found rfl ?_
    simp only [ConnectionWorker.left, thread, Thread.left]
    omega
  | finish found _ thread =>
    refine left_setWorker found rfl ?_
    rcases thread with thread | ⟨thread, _⟩
    all_goals
      simp only [ConnectionWorker.left, thread, Thread.left]
      omega
  | create | enqueue | runSync | count | wake | stop | join | drain | dispatch | call | ask | answer => cases own

omit [DecidableEq κ] in
private theorem Manned.within {worker updated : ConnectionWorker κ} (manned : Manned conn worker)
    (within : ∀ ticket ∈ updated.outstanding, ticket ∈ worker.outstanding)
    (asks : ∀ ticket, updated.thread = .asking ticket → ticket.isQuery = true) : Manned conn updated :=
  ⟨fun ticket present => manned.home ticket (within ticket present), asks⟩

omit [DecidableEq κ] in
private theorem Manned.push {ticket : Ticket κ} {worker : ConnectionWorker κ} (manned : Manned ticket.conn worker) :
    Manned ticket.conn (worker.push ticket) := by
  refine ⟨?_, manned.asks⟩
  intro other present
  simp only [ConnectionWorker.outstanding, ConnectionWorker.push, List.mem_append, List.mem_singleton] at present
  rcases present with (old | rfl) | taken
  · exact manned.home other (List.mem_append_left _ old)
  · rfl
  · exact manned.home other (List.mem_append_right _ taken)

theorem manned_step (manned : Each Manned state) (moved : Moved state event next) : Each Manned next := by
  cases moved with
  | create => exact Each.update manned {} ⟨by simp [ConnectionWorker.outstanding, Thread.taken], by simp⟩
  | enqueue _ _ _ found => exact Each.update manned _ (manned _ _ found).push
  | runSync _ _ _ _ found => exact Each.update manned _ (manned _ _ found).push
  | count _ found =>
    have own := manned _ _ found
    exact Each.update manned _ ⟨own.home, own.asks⟩
  | stop _ found =>
    have own := manned _ _ found
    exact Each.update manned _ ⟨own.home, own.asks⟩
  | wake | drain | dispatch | call | ask | answer => exact manned
  | join => exact Each.joined manned _ (fun _ _ _ held => held)
  | pop found thread input =>
    refine Each.update manned _ ((manned _ _ found).within ?_ (by simp))
    simp only [ConnectionWorker.outstanding, thread, input, Thread.taken, List.mem_append, List.mem_cons]
    tauto
  | drop found thread | deliverAsync found thread | deliverSync found thread =>
    refine Each.update manned _ ((manned _ _ found).within ?_ (by simp))
    simp only [ConnectionWorker.outstanding, thread, Thread.taken, List.mem_append]
    tauto
  | send found thread query =>
    refine Each.update manned _ ((manned _ _ found).within ?_ ?_)
    · intro ticket old
      simpa [ConnectionWorker.outstanding, thread, Thread.taken] using old
    · intro ticket same
      cases same
      exact query
  | finish found query thread =>
    refine Each.update manned _ ((manned _ _ found).within ?_ (by simp))
    intro ticket old
    rcases thread with thread | ⟨thread, _⟩
    all_goals simpa [ConnectionWorker.outstanding, thread, Thread.taken] using old
  | uncount found thread | exit found thread =>
    refine Each.update manned _ ((manned _ _ found).within ?_ (by simp))
    intro ticket old
    simpa [ConnectionWorker.outstanding, thread, Thread.taken] using old

/-- A worker hands an awaited query back, or keeps it. -/
private theorem OwedOn.work {target : κ} {worker updated : ConnectionWorker κ} (owed : OwedOn conn serial state)
    (found : state.workers target = some worker) (workers : next.workers = (state.setWorker target updated).workers)
    (promised : state.promised ⊆ next.promised)
    (kept : ∀ ticket ∈ worker.outstanding, ticket.isAsync = false → ticket.isQuery = true →
      ticket ∈ updated.outstanding ∨ ∃ done ∈ next.promised, done.ticket = ticket) : OwedOn conn serial next := by
  rcases owed with ⟨done, answered, same⟩ | ⟨own, held, ticket, waits, same, sync, query⟩
  · exact Or.inl ⟨done, promised answered, same⟩
  · by_cases here : conn = target
    · subst here
      rw [found, Option.some.injEq] at held
      subst held
      rcases kept ticket waits sync query with still | ⟨done, answered, rfl⟩
      · refine Or.inr ⟨updated, ?_, ticket, still, same, sync, query⟩
        rw [workers, State.setWorker_same]
      · exact Or.inl ⟨done, answered, same⟩
    · refine Or.inr ⟨own, ?_, ticket, waits, same, sync, query⟩
      rw [workers, State.setWorker_other _ _ _ _ here, held]

theorem owedOn_step (owed : OwedOn conn serial state) (moved : Moved state event next) (own : event.worker.isSome) :
    OwedOn conn serial next := by
  cases moved with
  | pop found thread input =>
    refine owed.work found rfl (fun _ inside => inside) ?_
    intro ticket present _ _
    left
    simp only [ConnectionWorker.outstanding, thread, input, Thread.taken, List.mem_append, List.mem_cons] at present ⊢
    tauto
  | drop found thread teardown =>
    refine owed.work found rfl (fun _ inside => inside) ?_
    intro ticket present _ query
    left
    simp only [ConnectionWorker.outstanding, thread, Thread.taken, List.mem_append, List.mem_singleton] at present ⊢
    rcases present with queued | rfl
    · exact Or.inl queued
    · cases teardown.symm.trans query
  | deliverAsync found thread async =>
    refine owed.work found rfl (fun _ inside => inside) ?_
    intro ticket present sync _
    left
    simp only [ConnectionWorker.outstanding, thread, Thread.taken, List.mem_append, List.mem_singleton] at present ⊢
    rcases present with queued | rfl
    · exact Or.inl queued
    · cases async.symm.trans sync
  | @deliverSync done worker found thread =>
    refine owed.work found rfl (List.subset_append_left _ _) ?_
    intro ticket present _ _
    simp only [ConnectionWorker.outstanding, thread, Thread.taken, List.mem_append, List.mem_singleton] at present
    rcases present with queued | rfl
    · exact Or.inl (List.mem_append_left _ queued)
    · exact Or.inr ⟨done, List.mem_append_right _ List.mem_cons_self, rfl⟩
  | send found thread | uncount found thread | exit found thread =>
    refine owed.work found rfl (fun _ inside => inside) ?_
    intro ticket present _ _
    left
    simpa [ConnectionWorker.outstanding, thread, Thread.taken] using present
  | finish found _ thread =>
    refine owed.work found rfl (fun _ inside => inside) ?_
    intro ticket present _ _
    left
    rcases thread with thread | ⟨thread, _⟩
    all_goals simpa [ConnectionWorker.outstanding, thread, Thread.taken] using present
  | create | enqueue | runSync | count | wake | stop | join | drain | dispatch | call | ask | answer => cases own

theorem owed_step (owed : ∀ serial, state.main.awaited = some serial → ∃ conn, OwedOn conn serial state)
    (moved : Moved state event next) : ∀ serial, next.main.awaited = some serial → ∃ conn, OwedOn conn serial next := by
  intro serial waits
  by_cases own : event.worker.isSome
  · rw [main_of_worker moved own] at waits
    obtain ⟨conn, owed⟩ := owed serial waits
    exact ⟨conn, owedOn_step owed moved own⟩
  · cases moved with
    | create free | call free | drain free | dispatch free =>
      have idle : state.main.awaited = some serial := waits
      rw [free] at idle
      cases idle
    | enqueue | wake | stop | join | ask | answer => cases waits
    | @runSync ticket worker free fresh signal query found =>
      cases waits
      have sync : ticket.isAsync = false := by simp [Ticket.isAsync, signal]
      refine ⟨ticket.conn, Or.inr ⟨worker.push ticket, State.setWorker_same .., ticket, ?_, rfl, sync, query⟩⟩
      exact List.mem_append_left _ (List.mem_append_right _ List.mem_cons_self)
    | count main found =>
      rw [awaited_counted] at waits
      subst waits
      obtain ⟨conn, owed⟩ := owed serial (by rw [main, Main.awaited])
      exact ⟨conn, owed.work found rfl (fun _ inside => inside) (fun ticket present _ _ => Or.inl present)⟩
    | pop | drop | send | finish | deliverAsync | deliverSync | uncount | exit => exact absurd rfl own

theorem served_step (served : Served state) (moved : Moved state event next) : Served next where
  sound := sound_step served.sound moved
  manned := manned_step served.manned moved
  owed := owed_step served.owed moved

/-- A worker with something to do can go on. -/
theorem worker_enabled {worker : ConnectionWorker κ} (manned : Manned conn worker) (kept : Kept state.main conn worker)
    (found : state.workers conn = some worker) (busy : worker.outstanding ≠ []) :
    ∃ event : Event κ, event.worker = some conn ∧ (step state event).isSome := by
  have able {act : ConnectionWorker κ → Option (ConnectionWorker κ)} (acts : (act worker).isSome) :
      (state.onWorker conn act).isSome := by
    rw [State.onWorker, found, Option.bind_some, Option.isSome_map]
    exact acts
  obtain ⟨running, pending, input, thread⟩ := worker
  cases thread with
  | waiting =>
    cases input with
    | nil => simp [ConnectionWorker.outstanding, Thread.taken] at busy
    | cons ticket rest =>
      have home : ticket.conn = conn := manned.home ticket List.mem_cons_self
      refine ⟨.pop ticket, congrArg some home, ?_⟩
      rw [step, home]
      exact able (by simp [ConnectionWorker.pop])
  | holding ticket =>
    have home : ticket.conn = conn := manned.home ticket (List.mem_append_right _ List.mem_cons_self)
    cases query : ticket.isQuery with
    | true =>
      refine ⟨.send ticket, congrArg some home, ?_⟩
      rw [step, home]
      exact able (by simp [ConnectionWorker.send, query])
    | false =>
      refine ⟨.drop ticket, congrArg some home, ?_⟩
      rw [step, home]
      exact able (by simp [ConnectionWorker.drop, query])
  | asking ticket =>
    have home : ticket.conn = conn := manned.home ticket (List.mem_append_right _ List.mem_cons_self)
    have query : ticket.isQuery = true := manned.asks ticket rfl
    refine ⟨.finish ⟨ticket, ⟨false, 0, "", {}⟩⟩, congrArg some home, ?_⟩
    rw [step, home]
    exact able (by simp [ConnectionWorker.finish, query])
  | finished done =>
    have home : done.ticket.conn = conn := manned.home done.ticket (List.mem_append_right _ List.mem_cons_self)
    refine ⟨.deliver done, congrArg some home, ?_⟩
    rw [step, home, Option.isSome_map]
    exact able (by simp [ConnectionWorker.deliver])
  | settled => exact ⟨.uncount conn, rfl, able (by simp [ConnectionWorker.uncount])⟩
  | exited =>
    have empty : input = [] := (kept.exited rfl).2
    subst empty
    simp [ConnectionWorker.outstanding, Thread.taken] at busy

end Steps

section Wait
variable {state after : State κ} {conn : κ} {serial : Nat}

/-- The main thread waits for a query that is up to this worker. -/
structure WaitsOn (conn : κ) (serial : Nat) (state : State κ) : Prop where
  waits : state.main = .waitingFor serial
  owed : OwedOn conn serial state

omit [DecidableEq κ] in
theorem Served.waitsOn (served : Served state) (waits : state.main = .waitingFor serial) :
    ∃ conn, WaitsOn conn serial state := by
  obtain ⟨conn, owed⟩ := served.owed serial (by rw [waits, Main.awaited])
  exact ⟨conn, waits, owed⟩

theorem waitsOn_step {event : Event κ} (waits : WaitsOn conn serial state) (moved : Moved state event after)
    (own : event.worker.isSome) : WaitsOn conn serial after where
  waits := (main_of_worker moved own).trans waits.waits
  owed := owedOn_step waits.owed moved own

/-- The query is handed over, or its worker goes on. -/
def Proceeds (conn : κ) (serial : Nat) (state : State κ) : Prop :=
  (∃ done : Finished κ, done.ticket.serial = serial ∧ (step state (.wake done)).isSome) ∨
    ∃ event : Event κ, event.worker = some conn ∧ (step state event).isSome

theorem WaitsOn.proceeds (waits : WaitsOn conn serial state) (served : Served state) : Proceeds conn serial state := by
  rcases waits.owed with ⟨done, answered, rfl⟩ | ⟨worker, found, ticket, present, _⟩
  · exact Or.inl ⟨done, rfl, by simp [step, waits.waits, answered]⟩
  · have busy : worker.outstanding ≠ [] := List.ne_nil_of_mem present
    exact Or.inr (worker_enabled (served.manned conn worker found) (served.sound conn worker found) found busy)

end Wait

omit [DecidableEq κ] in
theorem served_initial : Served ({} : State κ) where
  sound := sound_initial
  manned conn worker found := by cases found
  owed serial waits := by cases waits

/-- A native that waits for its query waits on one worker. That worker takes no more steps than it has left for what
it had when the wait was looked at, and until the query is handed over it can always take one. -/
theorem wait_ends {events : List (Event κ)} {state : State κ} {serial : Nat} (run : Run (Steps step) {} events state)
    (waits : state.main = .waitingFor serial) :
    ∃ conn, ∀ more after, Run (Guarded (fun _ event => event.worker.isSome) (Steps step)) state more after →
      more.countP (fun event => decide (event.worker = some conn)) ≤ state.left conn ∧ Proceeds conn serial after := by
  have served : Served state := run.invariant served_initial (fun _ _ _ held stepped => served_step held (step_moved stepped))
  obtain ⟨conn, waitsOn⟩ := served.waitsOn waits
  refine ⟨conn, ?_⟩
  intro more after onward
  have paid : after.left conn + more.countP (fun event => decide (event.worker = some conn)) ≤ state.left conn :=
    onward.within_budget (fun _ _ _ move => left_pays (step_moved move.2) move.1)
  have later : Served after ∧ WaitsOn conn serial after := by
    refine @Run.invariant _ _ _ _ (fun other => Served other ∧ WaitsOn conn serial other) ⟨served, waitsOn⟩ ?_ _ _ onward
    intro before event next held move
    have moved := step_moved move.2
    exact ⟨served_step held.1 moved, waitsOn_step held.2 moved move.1⟩
  exact ⟨Nat.le_trans (Nat.le_add_left _ _) paid, later.2.proceeds later.1⟩

section Behind

/-- A synchronous query behind one that the worker has already sent. -/
private def behind : List (Event Nat) :=
  let sent : Ticket Nat := ⟨0, 1, { sql := "UPDATE a" }⟩
  let awaited : Ticket Nat := ⟨1, 1, { sql := "SELECT 1", syncSignal := some 1 }⟩
  [.create 1, .enqueue sent, .count, .pop sent, .send sent, .runSync awaited, .count]

theorem wait_ends_behind : ∃ state : State Nat, exec step {} behind = some state ∧ ∃ conn, ∀ more after,
    Run (Guarded (fun _ event => event.worker.isSome) (Steps step)) state more after →
      more.countP (fun event => decide (event.worker = some conn)) ≤ state.left conn ∧ Proceeds conn 1 after := by
  have blocks : ((exec step ({} : State Nat) behind).any (·.main = .waitingFor 1)) = true := by decide
  obtain ⟨state, done, waits⟩ := (Option.any_eq_true ..).mp blocks
  exact ⟨state, done, wait_ends (Run.of_exec done) (of_decide_eq_true waits)⟩

end Behind
end OmpMySQL.Engine
