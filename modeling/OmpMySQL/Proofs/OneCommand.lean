import OmpMySQL.Proofs.EngineOrder

/-! Requests outstanding on one `MYSQL*`. Workers keep to one at a time among
themselves; the natives that talk to the server from the main thread are safe
only on a connection whose worker has nothing left to ask. -/

namespace OmpMySQL.Engine
open Library

variable {κ : Type}

def Thread.requests : Thread κ → Nat
  | .asking _ => 1
  | _ => 0

def Main.requests [DecidableEq κ] (conn : κ) : Main κ → Nat
  | .asking other _ => if other = conn then 1 else 0
  | _ => 0

def outstanding [DecidableEq κ] (state : State κ) (conn : κ) : Nat :=
  ((state.workers conn).map (·.thread.requests)).getD 0 + state.main.requests conn

/-- No query is queued on the worker or waiting in its hands for an answer. -/
def ConnectionWorker.Quiet (worker : ConnectionWorker κ) : Prop :=
  ∀ ticket ∈ worker.input ++ worker.thread.unrun, ticket.isQuery = false

/-- A native that sends a request of its own is called only on a quiet worker. -/
def CallsWhenQuiet (state : State κ) : Event κ → Prop
  | .call conn native clientCipher => (native.request clientCipher).isSome →
      ∀ worker ∈ state.workers conn, worker.Quiet
  | _ => True

instance (worker : ConnectionWorker κ) : Decidable worker.Quiet :=
  inferInstanceAs (Decidable (∀ ticket ∈ _, _))

instance (state : State κ) (event : Event κ) : Decidable (CallsWhenQuiet state event) :=
  match event with
  | .call _ _ _ => inferInstanceAs (Decidable (_ → _))
  | .create _ | .enqueue _ | .runSync _ | .count | .wake _ | .stop _ | .join _ | .drain | .dispatch _
  | .answer | .pop _ | .drop _ | .send _ | .finish _ | .deliver _ | .uncount _ | .exit _ =>
    inferInstanceAs (Decidable True)

def AskingQuiet (state : State κ) : Prop :=
  ∀ conn request, state.main = .asking conn request →
    ∀ worker, state.workers conn = some worker → worker.Quiet

theorem ConnectionWorker.Quiet.silent {worker : ConnectionWorker κ} (quiet : worker.Quiet)
    (queries : ∀ ticket, worker.thread = .asking ticket → ticket.isQuery = true) :
    worker.thread.requests = 0 := by
  cases thread : worker.thread with
  | asking ticket =>
    have teardown := quiet ticket (by simp [thread, Thread.unrun])
    simp [queries ticket thread] at teardown
  | waiting | holding _ | finished _ | settled | exited => rfl

variable [DecidableEq κ]

private theorem AskingQuiet.work {state : State κ} (asking : AskingQuiet state) {conn : κ}
    {worker updated : ConnectionWorker κ} (found : state.workers conn = some worker)
    (kept : worker.Quiet → updated.Quiet) : AskingQuiet (state.setWorker conn updated) := by
  intro other request main present same
  by_cases here : other = conn
  · subst here
    rw [State.setWorker_same] at same
    cases same
    exact kept (asking other request main worker found)
  · rw [State.setWorker_other _ _ _ _ here] at same
    exact asking other request main present same

theorem asking_quiet_step {state next : State κ} {event : Event κ} (asking : AskingQuiet state)
    (allowed : CallsWhenQuiet state event) (moved : Moved state event next) : AskingQuiet next := by
  cases moved with
  | @ask conn native clientCipher request free present asks =>
    intro other kind main worker found
    cases main
    exact allowed (by simp [asks]) worker found
  | pop found thread input =>
    apply asking.work found
    intro quiet ticket member
    apply quiet
    simp only [input, thread, Thread.unrun, List.mem_append, List.mem_cons, List.not_mem_nil, or_false] at member ⊢
    exact member.symm
  | drop found thread teardown =>
    apply asking.work found
    intro quiet ticket member
    exact quiet ticket (by simp_all [Thread.unrun])
  | @send ticket worker found thread query =>
    apply asking.work found
    intro quiet
    have teardown := quiet ticket (by simp [thread, Thread.unrun])
    simp [query] at teardown
  | finish found query thread =>
    apply asking.work found
    intro quiet ticket member
    exact quiet ticket (by simp_all [Thread.unrun])
  | deliverAsync found thread async | deliverSync found thread sync | uncount found thread
  | exit found thread empty stopped =>
    apply asking.work found
    intro quiet ticket member
    exact quiet ticket (by simpa [thread, Thread.unrun] using member)
  | create free absent =>
    intro conn request main
    simp [free] at main
  | drain free empty | dispatch free drained =>
    intro conn request main
    simp [free] at main
  | call free present quiet => exact asking
  | enqueue | runSync | stop | wake | join | answer =>
    intro conn request main
    cases main
  | @count conn signal worker main found =>
    intro other request asks
    cases signal <;> cases asks

def SendsQueries (state : State κ) : Prop :=
  Each (fun _ worker => ∀ ticket, worker.thread = .asking ticket → ticket.isQuery = true) state

theorem sends_queries_step {state next : State κ} {event : Event κ} (sends : SendsQueries state)
    (moved : Moved state event next) : SendsQueries next := by
  cases moved with
  | create free absent => exact Each.update sends {} (by simp)
  | enqueue free serial signal found | runSync free serial signal query found running
  | count main found | stop free found running =>
    have held := sends _ _ found
    exact Each.update sends _ held
  | send found thread query =>
    apply Each.update sends
    intro ticket same
    cases same
    exact query
  | pop | drop | finish | deliverAsync | deliverSync | uncount | exit => exact Each.update sends _ (by simp)
  | @join conn worker main found exited => exact Each.joined sends conn (fun _ _ _ held => held)
  | wake | drain | dispatch | call | ask | answer => exact sends

omit [DecidableEq κ] in
theorem asking_quiet_initial : AskingQuiet ({} : State κ) := by
  intro conn request main
  cases main

omit [DecidableEq κ] in
theorem sends_queries_initial : SendsQueries ({} : State κ) := by
  intro conn worker found
  cases found

/-- As long as no native asks the server while its worker has queries to run, no
connection ever has two requests in progress. -/
theorem one_request {events : List (Event κ)} {state : State κ}
    (run : Run (Guarded CallsWhenQuiet (Steps step)) {} events state) (conn : κ) :
    outstanding state conn ≤ 1 := by
  have asking : AskingQuiet state :=
    run.invariant asking_quiet_initial
      (fun _ _ _ kept move => asking_quiet_step kept move.1 (step_moved move.2))
  have sends : SendsQueries state :=
    run.unguarded.invariant sends_queries_initial
      (fun _ _ _ kept stepped => sends_queries_step kept (step_moved stepped))
  rw [outstanding]
  cases main : state.main with
  | asking other request =>
    by_cases same : other = conn
    · subst same
      cases found : state.workers other with
      | none => simp [Main.requests]
      | some worker =>
        have silent := (asking other request main worker found).silent (sends other worker found)
        simp [Main.requests, silent]
    · cases found : state.workers conn with
      | none => simp [Main.requests, same]
      | some worker => cases thread : worker.thread <;> simp [Main.requests, same, Thread.requests, thread]
  | free | counting _ _ | waitingFor _ | joining _ =>
    cases found : state.workers conn with
    | none => simp [Main.requests]
    | some worker => cases thread : worker.thread <;> simp [Main.requests, Thread.requests, thread]

section StatusWhileQueued

private def lookup : Ticket Nat := ⟨0, 1, { sql := "SELECT * FROM players" }⟩

/-- The worker sends its query, then a script asks for the server status. -/
private def statusRun : List (Event Nat) :=
  [.create 1, .enqueue lookup, .count, .pop lookup, .send lookup, .call 1 .serverStatus ""]

theorem status_overlaps : ¬ ∀ (events : List (Event Nat)) (state : State Nat),
    Run (Steps step) {} events state → ∀ conn, outstanding state conn ≤ 1 := by
  intro always
  have executes : (exec step ({} : State Nat) statusRun).isSome := by decide
  have overlap : (exec step ({} : State Nat) statusRun).map (outstanding · 1) = some 2 := by decide
  obtain ⟨state, done⟩ := Option.isSome_iff_exists.mp executes
  have bound := always statusRun state (Run.of_exec done) 1
  rw [done, Option.map_some, Option.some.injEq] at overlap
  omega

/-- Asked before the query is queued, and again once it has been answered. -/
private def politeRun : List (Event Nat) :=
  [.create 1, .call 1 .serverStatus "", .answer, .enqueue lookup, .count, .pop lookup, .send lookup,
    .finish ⟨lookup, ⟨true, 0, "", {}⟩⟩, .call 1 .setCharset ""]

theorem one_request_polite : ∃ state, exec (guarded CallsWhenQuiet step) ({} : State Nat) politeRun = some state ∧
    outstanding state 1 ≤ 1 := by
  have executes : (exec (guarded CallsWhenQuiet step) ({} : State Nat) politeRun).isSome := by decide
  obtain ⟨state, done⟩ := Option.isSome_iff_exists.mp executes
  exact ⟨state, done, one_request (Run.of_guarded_exec done) 1⟩

end StatusWhileQueued
end OmpMySQL.Engine
