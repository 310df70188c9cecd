import OmpMySQL.Proofs.EngineOrder
import Mathlib.Data.List.Nodup

/-! First-in first-out, exactly-once delivery across every interleaving of the
main thread with the workers, closing connections included. -/

namespace OmpMySQL.Engine
open Library

variable {κ : Type} [DecidableEq κ]

section Histories
variable (conn : κ) (events : List (Event κ))

def enqueuedOn : List (Ticket κ) := events.flatMap fun event => ofConn conn event.enqueued
def begunOn : List (Ticket κ) := events.flatMap fun event => ofConn conn event.begun
def executedOn : List (Ticket κ) := events.flatMap fun event => ofConn conn event.executed
def finishedOn : List (Finished κ) := events.flatMap fun event => doneOn conn event.finished
def deliveredOn : List (Finished κ) := events.flatMap fun event => doneOn conn event.delivered
def dispatchedOn : List (Finished κ) := events.flatMap fun event => doneOn conn event.dispatched

end Histories

/-- Where a query job can be. A promise that has been fulfilled is in the hands of
the `runSync()` that waits for it. -/
inductive Place (κ : Type) where
  | inputQueue (conn : κ)
  | executing (conn : κ)
  | completedSink
  | dispatch
  | returned
  deriving DecidableEq, Repr

def occupancy (events : List (Event κ)) (state : State κ) (ticket : Ticket κ) : Place κ → Nat
  | .inputQueue conn => (state.read ConnectionWorker.input conn).count ticket
  | .executing conn => (state.read (fun worker => worker.thread.unrun) conn).count ticket +
      ((state.read (fun worker => worker.thread.ran) conn).map Finished.ticket).count ticket
  | .completedSink => (state.completed.map Finished.ticket).count ticket
  | .dispatch => ((events.flatMap Event.dispatched ++ state.drained).map Finished.ticket).count ticket
  | .returned => ((events.flatMap Event.returned ++ state.promised).map Finished.ticket).count ticket

structure Delivery (events : List (Event κ)) (state : State κ) : Prop where
  order : ∀ conn, begunOn conn events <+: enqueuedOn conn events ∧
    executedOn conn events <+: enqueuedOn conn events
  /-- Each enqueued query job is in exactly one place, and there once. -/
  place : ∀ ticket ∈ events.flatMap Event.enqueued, ticket.isQuery = true →
    ∃ place, occupancy events state ticket place = 1 ∧
      ∀ other, other ≠ place → occupancy events state ticket other = 0
  dispatch : ∀ conn, (dispatchedOn conn events).map Finished.ticket <+:
    (enqueuedOn conn events).filter (fun ticket => ticket.isQuery && ticket.isAsync)
  sink : ∀ done ∈ state.completed, done.ticket.isAsync = true
  /-- By the time `runSync()` returns its job, everything enqueued before it has run. -/
  sync : ∀ done ∈ events.flatMap Event.returned, done.ticket ∈ executedOn done.ticket.conn events ∧
    ∀ ticket ∈ enqueuedOn done.ticket.conn events, ticket.serial < done.ticket.serial →
      ticket ∈ executedOn done.ticket.conn events

section Run
variable {events : List (Event κ)} {state : State κ}

theorem begun_flow (run : Run (Steps step) {} events state) (conn : κ) :
    begunOn conn events ++ state.read ConnectionWorker.input conn = enqueuedOn conn events :=
  run.conserved rfl sound_initial (fun _ _ _ sound stepped => sound_step sound (step_moved stepped))
    (fun _ _ _ sound stepped => input_conserved sound (step_moved stepped) conn)

theorem executed_flow (run : Run (Steps step) {} events state) (conn : κ) :
    executedOn conn events ++ state.read (fun worker => worker.thread.unrun) conn = begunOn conn events :=
  run.conserved rfl trivial (fun _ _ _ _ _ => trivial)
    (fun _ _ _ _ stepped => unrun_conserved (step_moved stepped) conn)

theorem delivered_flow (run : Run (Steps step) {} events state) (conn : κ) :
    deliveredOn conn events ++ state.read (fun worker => worker.thread.ran) conn = finishedOn conn events :=
  run.conserved rfl trivial (fun _ _ _ _ _ => trivial)
    (fun _ _ _ _ stepped => ran_conserved (step_moved stepped) conn)

theorem dispatched_flow (run : Run (Steps step) {} events state) :
    events.flatMap Event.dispatched ++ (state.drained ++ state.completed) =
      events.flatMap (fun event => event.delivered.filter (·.ticket.isAsync)) :=
  run.conserved rfl trivial (fun _ _ _ _ _ => trivial)
    (fun _ _ _ _ stepped => sink_conserved (step_moved stepped))

theorem returned_flow (run : Run (Steps step) {} events state) :
    List.Perm (events.flatMap Event.returned ++ state.promised)
      (events.flatMap fun event => event.delivered.filter (!·.ticket.isAsync)) := by
  apply List.perm_iff_count.mpr
  intro done
  induction run with
  | refl => rfl
  | snoc _ stepped ih =>
    have law := promised_counted (step_moved stepped) done
    simp only [List.flatMap_append, List.flatMap_singleton, List.count_append] at ih ⊢
    omega

theorem enqueued_serials (run : Run (Steps step) {} events state) :
    (events.flatMap Event.enqueued).map Ticket.serial = List.range state.issued := by
  induction run with
  | refl => rfl
  | snoc _ stepped ih =>
    obtain ⟨law, grows⟩ := serials_step (step_moved stepped)
    rw [List.flatMap_append, List.flatMap_singleton, List.map_append, ih, law, ← List.range_add]
    congr 1
    omega

theorem enqueued_sorted (run : Run (Steps step) {} events state) :
    (events.flatMap Event.enqueued).Pairwise (fun first second => first.serial < second.serial) := by
  have sorted : ((events.flatMap Event.enqueued).map Ticket.serial).Pairwise (· < ·) := by
    rw [enqueued_serials run]
    exact List.pairwise_lt_range
  exact List.pairwise_map.mp sorted

theorem enqueuedOn_eq (conn : κ) (events : List (Event κ)) :
    enqueuedOn conn events = ofConn conn (events.flatMap Event.enqueued) :=
  List.filter_flatMap.symm

theorem executed_queries (run : Run (Steps step) {} events state) (conn : κ) :
    (executedOn conn events).filter Ticket.isQuery = (finishedOn conn events).map Finished.ticket := by
  induction run with
  | refl => rfl
  | @snoc events before event after _ stepped ih =>
    have last : (ofConn conn event.executed).filter Ticket.isQuery =
        (doneOn conn event.finished).map Finished.ticket := by
      cases step_moved stepped with
      | @drop ticket _ _ _ teardown =>
        by_cases same : ticket.conn = conn <;>
          simp [Event.executed, Event.finished, ofConn, doneOn, same, teardown]
      | @finish done _ _ query _ =>
        by_cases same : done.ticket.conn = conn <;>
          simp [Event.executed, Event.finished, ofConn, doneOn, same, query]
      | _ => rfl
    simp only [executedOn, finishedOn, List.flatMap_append, List.flatMap_singleton, List.filter_append,
      List.map_append] at ih ⊢
    rw [ih, last]

private theorem delivered_kind (conn : κ) (keep : Finished κ → Bool) (events : List (Event κ)) :
    doneOn conn (events.flatMap fun event => event.delivered.filter keep) =
      (deliveredOn conn events).filter keep := by
  simp only [doneOn, deliveredOn, List.filter_flatMap, List.filter_filter, Bool.and_comm]

theorem executed_in_order (run : Run (Steps step) {} events state) (conn : κ) :
    executedOn conn events <+: enqueuedOn conn events :=
  (passed_in_order (executed_flow run conn)).trans (passed_in_order (begun_flow run conn))

theorem finished_in_order (run : Run (Steps step) {} events state) (conn : κ) :
    (finishedOn conn events).map Finished.ticket <+: (enqueuedOn conn events).filter Ticket.isQuery := by
  rw [← executed_queries run conn]
  exact (executed_in_order run conn).filter _

theorem dispatched_in_order (run : Run (Steps step) {} events state) (conn : κ) :
    (dispatchedOn conn events).map Finished.ticket <+:
      (enqueuedOn conn events).filter (fun ticket => ticket.isQuery && ticket.isAsync) := by
  have out : dispatchedOn conn events <+: (deliveredOn conn events).filter (·.ticket.isAsync) := by
    have sink := (passed_in_order (dispatched_flow run)).filter (·.ticket.conn = conn)
    rw [← delivered_kind conn (·.ticket.isAsync) events]
    simpa only [dispatchedOn, doneOn, List.filter_flatMap] using sink
  have ran : (deliveredOn conn events).filter (·.ticket.isAsync) <+:
      (finishedOn conn events).filter (·.ticket.isAsync) :=
    (passed_in_order (delivered_flow run conn)).filter _
  have queued := (finished_in_order run conn).filter Ticket.isAsync
  rw [List.filter_map, List.filter_filter] at queued
  have order := ((out.trans ran).map Finished.ticket).trans queued
  simpa only [Bool.and_comm] using order

theorem sink_async (run : Run (Steps step) {} events state) (done : Finished κ)
    (member : done ∈ state.completed) : done.ticket.isAsync = true := by
  have inside : done ∈ events.flatMap (fun event => event.delivered.filter (·.ticket.isAsync)) := by
    rw [← dispatched_flow run]
    simp [member]
  simp only [List.mem_flatMap, List.mem_filter] at inside
  obtain ⟨_, _, _, async⟩ := inside
  exact async

theorem returned_executed (run : Run (Steps step) {} events state) (done : Finished κ)
    (member : done ∈ events.flatMap Event.returned) :
    done.ticket ∈ (executedOn done.ticket.conn events).filter Ticket.isQuery := by
  have delivered : done ∈ deliveredOn done.ticket.conn events := by
    have inside := (returned_flow run).mem_iff.mp (List.mem_append_left _ member)
    have here : done ∈ doneOn done.ticket.conn
        (events.flatMap fun event => event.delivered.filter (!·.ticket.isAsync)) := by
      simpa [doneOn] using inside
    rw [delivered_kind] at here
    exact (List.mem_filter.mp here).1
  have finished : done ∈ finishedOn done.ticket.conn events :=
    (passed_in_order (delivered_flow run _)).subset delivered
  rw [executed_queries run]
  exact List.mem_map_of_mem finished

theorem enqueued_once (run : Run (Steps step) {} events state) {ticket : Ticket κ}
    (member : ticket ∈ events.flatMap Event.enqueued) : (events.flatMap Event.enqueued).count ticket = 1 := by
  have distinct : (events.flatMap Event.enqueued).Nodup :=
    (enqueued_sorted run).imp (fun before same => by subst same; omega)
  exact List.count_eq_one_of_mem distinct member

omit [DecidableEq κ] in
private theorem doneOn_count [DecidableEq κ] (ticket : Ticket κ) (jobs : List (Finished κ)) :
    ((doneOn ticket.conn jobs).map Finished.ticket).count ticket = (jobs.map Finished.ticket).count ticket := by
  have filtered : (doneOn ticket.conn jobs).map Finished.ticket =
      (jobs.map Finished.ticket).filter (·.conn = ticket.conn) := by
    simp [doneOn, List.filter_map, Function.comp_def]
  rw [filtered, List.count_filter (by simp)]

private theorem sink_count (run : Run (Steps step) {} events state) (ticket : Ticket κ) :
    (((deliveredOn ticket.conn events).filter (·.ticket.isAsync)).map Finished.ticket).count ticket =
      occupancy events state ticket .dispatch + occupancy events state ticket .completedSink := by
  rw [← delivered_kind, ← dispatched_flow run, doneOn_count]
  simp only [occupancy, List.map_append, List.count_append, Nat.add_assoc]

private theorem promise_count (run : Run (Steps step) {} events state) (ticket : Ticket κ) :
    (((deliveredOn ticket.conn events).filter (!·.ticket.isAsync)).map Finished.ticket).count ticket =
      occupancy events state ticket .returned := by
  rw [← delivered_kind, doneOn_count]
  exact (((returned_flow run).map Finished.ticket).count_eq ticket).symm

private theorem executing_count (run : Run (Steps step) {} events state) {ticket : Ticket κ}
    (query : ticket.isQuery = true) :
    (begunOn ticket.conn events).count ticket =
      ((deliveredOn ticket.conn events).map Finished.ticket).count ticket +
        occupancy events state ticket (.executing ticket.conn) := by
  have held := congrArg (List.count ticket) (executed_flow run ticket.conn)
  have ran := congrArg (fun jobs => (jobs.map Finished.ticket).count ticket) (delivered_flow run ticket.conn)
  have queries := congrArg (List.count ticket) (executed_queries run ticket.conn)
  rw [List.count_filter query] at queries
  simp only [List.count_append, List.map_append] at held ran
  simp only [occupancy]
  omega

private theorem delivered_count (events : List (Event κ)) (conn : κ) (ticket : Ticket κ) :
    ((deliveredOn conn events).map Finished.ticket).count ticket =
      (((deliveredOn conn events).filter (·.ticket.isAsync)).map Finished.ticket).count ticket +
        (((deliveredOn conn events).filter (!·.ticket.isAsync)).map Finished.ticket).count ticket := by
  have parts := (List.filter_append_perm (·.ticket.isAsync) (deliveredOn conn events)).map Finished.ticket
  rw [← parts.count_eq ticket, List.map_append, List.count_append]

theorem occupancy_total (run : Run (Steps step) {} events state) {ticket : Ticket κ}
    (member : ticket ∈ events.flatMap Event.enqueued) (query : ticket.isQuery = true) :
    occupancy events state ticket (.inputQueue ticket.conn) +
      occupancy events state ticket (.executing ticket.conn) +
      occupancy events state ticket .completedSink + occupancy events state ticket .dispatch +
      occupancy events state ticket .returned = 1 := by
  have queued : (begunOn ticket.conn events).count ticket +
      (state.read ConnectionWorker.input ticket.conn).count ticket = 1 := by
    rw [← List.count_append, begun_flow run, enqueuedOn_eq, ofConn, List.count_filter (by simp)]
    exact enqueued_once run member
  have begun := executing_count run query
  have delivered := delivered_count events ticket.conn ticket
  have sink := sink_count run ticket
  have promise := promise_count run ticket
  simp only [occupancy] at begun sink promise ⊢
  omega

theorem occupancy_elsewhere (run : Run (Steps step) {} events state) (ticket : Ticket κ) (conn : κ)
    (apart : conn ≠ ticket.conn) :
    occupancy events state ticket (.inputQueue conn) = 0 ∧
      occupancy events state ticket (.executing conn) = 0 := by
  have absent : (enqueuedOn conn events).count ticket = 0 := by
    rw [enqueuedOn_eq]
    apply List.count_eq_zero_of_not_mem
    simp [ofConn, Ne.symm apart]
  have queued := congrArg (List.count ticket) (begun_flow run conn)
  have held := congrArg (List.count ticket) (executed_flow run conn)
  have ran : ((finishedOn conn events).map Finished.ticket).count ticket = 0 := by
    have within := (finished_in_order run conn).sublist.count_le ticket
    have fewer := (List.filter_sublist (p := Ticket.isQuery) (l := enqueuedOn conn events)).count_le ticket
    omega
  have handed := congrArg (fun jobs => (jobs.map Finished.ticket).count ticket) (delivered_flow run conn)
  simp only [List.count_append, List.map_append] at queued held handed
  simp only [occupancy]
  omega

theorem one_place (run : Run (Steps step) {} events state) {ticket : Ticket κ}
    (member : ticket ∈ events.flatMap Event.enqueued) (query : ticket.isQuery = true) :
    ∃ place, occupancy events state ticket place = 1 ∧
      ∀ other, other ≠ place → occupancy events state ticket other = 0 := by
  have total := occupancy_total run member query
  -- The place is the one summand that is not zero.
  obtain ⟨place, holds⟩ : ∃ place, 0 < occupancy events state ticket place := by
    by_contra nowhere
    simp only [not_exists, Nat.not_lt, Nat.le_zero] at nowhere
    simp [nowhere] at total
  have here : ∀ conn, place = .inputQueue conn ∨ place = .executing conn → conn = ticket.conn := by
    intro conn located
    by_contra apart
    have elsewhere := occupancy_elsewhere run ticket conn apart
    rcases located with rfl | rfl <;> omega
  refine ⟨place, ?_, ?_⟩
  · cases place with
    | inputQueue conn =>
      cases here conn (Or.inl rfl)
      omega
    | executing conn =>
      cases here conn (Or.inr rfl)
      omega
    | completedSink | dispatch | returned => omega
  · intro other different
    have elsewhere := occupancy_elsewhere run ticket
    cases other with
    | inputQueue conn =>
      by_cases apart : conn = ticket.conn
      · subst apart
        cases place <;> grind
      · exact (elsewhere conn apart).1
    | executing conn =>
      by_cases apart : conn = ticket.conn
      · subst apart
        cases place <;> grind
      · exact (elsewhere conn apart).2
    | completedSink | dispatch | returned => cases place <;> grind

theorem mem_enqueuedOn {conn : κ} {ticket : Ticket κ} :
    ticket ∈ enqueuedOn conn events ↔ ticket ∈ events.flatMap Event.enqueued ∧ ticket.conn = conn := by
  rw [enqueuedOn_eq, ofConn, List.mem_filter, decide_eq_true_eq]

theorem mem_executedOn {conn : κ} {ticket : Ticket κ} :
    ticket ∈ executedOn conn events ↔ ticket ∈ events.flatMap Event.executed ∧ ticket.conn = conn := by
  have same : executedOn conn events = ofConn conn (events.flatMap Event.executed) := List.filter_flatMap.symm
  rw [same, ofConn, List.mem_filter, decide_eq_true_eq]

theorem held_in_order (run : Run (Steps step) {} events state) {conn : κ} {worker : ConnectionWorker κ}
    (found : state.workers conn = some worker) :
    executedOn conn events ++ worker.thread.unrun <+: enqueuedOn conn events := by
  have flow := executed_flow run conn
  simp only [State.read, found, Option.map_some, Option.getD_some] at flow
  rw [flow]
  exact passed_in_order (begun_flow run conn)

theorem enqueuedOn_sorted (run : Run (Steps step) {} events state) (conn : κ) :
    (enqueuedOn conn events).Pairwise (fun first second => first.serial < second.serial) := by
  rw [enqueuedOn_eq]
  exact (enqueued_sorted run).filter _

/-- The job in a worker's hands was enqueued, and everything that its connection got
before has run. -/
theorem held_job (run : Run (Steps step) {} events state) {ticket : Ticket κ} {worker : ConnectionWorker κ}
    (found : state.workers ticket.conn = some worker) (held : ticket ∈ worker.thread.unrun) :
    ticket ∈ events.flatMap Event.enqueued ∧ ticket ∉ events.flatMap Event.executed ∧
      ∀ other ∈ events.flatMap Event.enqueued, other.conn = ticket.conn → other.serial < ticket.serial →
        other ∈ events.flatMap Event.executed := by
  have reached := held_in_order run found
  have sorted := enqueuedOn_sorted run ticket.conn
  have distinct : (enqueuedOn ticket.conn events).Nodup := sorted.imp (fun before same => by subst same; omega)
  have only : ∀ other ∈ worker.thread.unrun, other = ticket := by
    intro other present
    cases thread : worker.thread with
    | holding _ | asking _ =>
      simp only [thread, Thread.unrun, List.mem_singleton] at held present
      rw [present, held]
    | waiting | finished _ | settled | exited =>
      rw [thread] at held
      cases held
  refine ⟨(mem_enqueuedOn.mp (mem_arrived_of_held reached held)).1, ?_, ?_⟩
  · intro ran
    exact not_passed_of_held reached distinct held (mem_executedOn.mpr ⟨ran, rfl⟩)
  · intro other member same before
    exact (mem_executedOn.mp (passed_of_lt reached sorted before (mem_enqueuedOn.mpr ⟨member, same⟩) held only)).1

/-- A worker that is gone has run everything its connection was given. -/
theorem drained (run : Run (Steps step) {} events state) {ticket : Ticket κ}
    (absent : state.workers ticket.conn = none) (member : ticket ∈ events.flatMap Event.enqueued) :
    ticket ∈ events.flatMap Event.executed := by
  have queue := begun_flow run ticket.conn
  have hands := executed_flow run ticket.conn
  simp only [State.read, absent, Option.map_none, Option.getD_none, List.append_nil] at queue hands
  rw [← hands] at queue
  have inside : ticket ∈ enqueuedOn ticket.conn events := mem_enqueuedOn.mpr ⟨member, rfl⟩
  rw [← queue] at inside
  exact (mem_executedOn.mp inside).1

/-- Jobs of one connection run, are dispatched and are returned in the order they
were enqueued, and each of them is in exactly one place at every moment. -/
theorem delivery (run : Run (Steps step) {} events state) : Delivery events state where
  order conn := ⟨passed_in_order (begun_flow run conn), executed_in_order run conn⟩
  place _ member query := one_place run member query
  dispatch conn := dispatched_in_order run conn
  sink := sink_async run
  sync done member := by
    have executed := (List.mem_filter.mp (returned_executed run done member)).1
    refine ⟨executed, ?_⟩
    intro ticket enqueued before
    exact mem_prefix_of_lt (executed_in_order run _) (enqueuedOn_sorted run _) before enqueued executed

end Run

section Closing

private def queued (serial conn : Nat) (job : QueryJob) : Ticket Nat := ⟨serial, conn, job⟩
private def answered (ticket : Ticket Nat) : Finished Nat := ⟨ticket, ⟨true, 0, "", {}⟩⟩

private def first : Ticket Nat := queued 0 1 { sql := "UPDATE a" }
private def second : Ticket Nat := queued 1 1 { sql := "DELETE b" }
private def blocking : Ticket Nat := queued 2 2 { sql := "SELECT 1", syncSignal := some 2 }

/-- Connection 1 is closed with one job running and one queued, right after a
synchronous query on connection 2. -/
private def closingRun : List (Event Nat) :=
  [.create 1, .create 2, .enqueue first, .count, .pop first, .enqueue second, .count,
    .runSync blocking, .count, .pop blocking, .send blocking, .finish (answered blocking), .send first,
    .deliver (answered blocking), .wake (answered blocking), .stop 1, .finish (answered first),
    .deliver (answered first), .uncount 1, .pop second, .send second, .finish (answered second),
    .deliver (answered second), .uncount 1, .exit 1, .join 1, .drain, .dispatch (answered first)]

theorem closing_delivery : ∃ state, exec step ({} : State Nat) closingRun = some state ∧
    Delivery closingRun state := by
  have executes : (exec step ({} : State Nat) closingRun).isSome := by decide
  obtain ⟨state, done⟩ := Option.isSome_iff_exists.mp executes
  exact ⟨state, done, delivery (Run.of_exec done)⟩

end Closing
end OmpMySQL.Engine
