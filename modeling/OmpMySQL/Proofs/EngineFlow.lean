import OmpMySQL.Engine
import OmpMySQL.Library.Flow

/-! Where jobs are, and what one step of the engine does to them. Each stage of a
job's way (the input queue, the worker's hands, the sink) is a first-in first-out
buffer between two kinds of events. -/

namespace OmpMySQL.Engine
open Library

variable {κ : Type} [DecidableEq κ]

namespace Event

def enqueued : Event κ → List (Ticket κ)
  | .enqueue ticket | .runSync ticket => [ticket]
  | _ => []

def begun : Event κ → List (Ticket κ)
  | .pop ticket => [ticket]
  | _ => []

/-- A job has run once its query is over or the statement it carried is gone. -/
def executed : Event κ → List (Ticket κ)
  | .drop ticket => [ticket]
  | .finish done => [done.ticket]
  | _ => []

/-- What a worker executes, or destroys, or is done with in this step. -/
def handled : Event κ → List (Ticket κ)
  | .send ticket | .drop ticket => [ticket]
  | .finish done => [done.ticket]
  | _ => []

def finished : Event κ → List (Finished κ)
  | .finish done => [done]
  | _ => []

def delivered : Event κ → List (Finished κ)
  | .deliver done => [done]
  | _ => []

def dispatched : Event κ → List (Finished κ)
  | .dispatch done => [done]
  | _ => []

def returned : Event κ → List (Finished κ)
  | .wake done => [done]
  | _ => []

end Event

def ofConn (conn : κ) (tickets : List (Ticket κ)) : List (Ticket κ) := tickets.filter (·.conn = conn)

def doneOn (conn : κ) (jobs : List (Finished κ)) : List (Finished κ) := jobs.filter (·.ticket.conn = conn)

def Thread.unrun : Thread κ → List (Ticket κ)
  | .holding ticket | .asking ticket => [ticket]
  | _ => []

def Thread.ran : Thread κ → List (Finished κ)
  | .finished done => [done]
  | _ => []

/-- The job a worker has taken from its queue and not yet handed back. -/
def Thread.taken : Thread κ → List (Ticket κ)
  | .holding ticket | .asking ticket => [ticket]
  | .finished done => [done.ticket]
  | .waiting | .settled | .exited => []

def ConnectionWorker.outstanding (worker : ConnectionWorker κ) : List (Ticket κ) :=
  worker.input ++ worker.thread.taken

/-- The query a worker is at. A job that only carries a statement to close is none. -/
def Thread.queries : Thread κ → List (Ticket κ)
  | .holding ticket => [ticket].filter Ticket.isQuery
  | .asking ticket => [ticket]
  | .finished done => [done.ticket]
  | .waiting | .settled | .exited => []

/-- The queries a worker has not handed back yet, the oldest first. -/
def ConnectionWorker.queries (worker : ConnectionWorker κ) : List (Ticket κ) :=
  worker.thread.queries ++ worker.input.filter Ticket.isQuery

omit [DecidableEq κ] in
theorem Thread.taken_eq (thread : Thread κ) : thread.taken = thread.unrun ++ thread.ran.map Finished.ticket := by
  cases thread <;> rfl

namespace State

def read {α : Type} (list : ConnectionWorker κ → List α) (conn : κ) (state : State κ) : List α :=
  ((state.workers conn).map list).getD []

variable {α : Type} (list : ConnectionWorker κ → List α) (state : State κ) (conn other : κ)
  (worker : ConnectionWorker κ)

@[simp] theorem setWorker_same : (state.setWorker conn worker).workers conn = some worker :=
  Function.update_self ..

theorem setWorker_other (different : other ≠ conn) :
    (state.setWorker conn worker).workers other = state.workers other :=
  Function.update_of_ne different ..

@[simp] theorem setWorker_main : (state.setWorker conn worker).main = state.main := rfl
@[simp] theorem setWorker_completed : (state.setWorker conn worker).completed = state.completed := rfl
@[simp] theorem setWorker_drained : (state.setWorker conn worker).drained = state.drained := rfl
@[simp] theorem setWorker_promised : (state.setWorker conn worker).promised = state.promised := rfl
@[simp] theorem setWorker_issued : (state.setWorker conn worker).issued = state.issued := rfl

theorem onWorker_eq_some {state next : State κ} {conn : κ}
    {act : ConnectionWorker κ → Option (ConnectionWorker κ)} :
    state.onWorker conn act = some next ↔
      ∃ worker updated, state.workers conn = some worker ∧ act worker = some updated ∧
        next = state.setWorker conn updated := by
  simp only [onWorker, Option.bind_eq_some_iff, Option.map_eq_some_iff]
  constructor
  · rintro ⟨worker, found, updated, acted, rfl⟩
    exact ⟨worker, updated, found, acted, rfl⟩
  · rintro ⟨worker, updated, found, acted, rfl⟩
    exact ⟨worker, found, updated, acted, rfl⟩

theorem read_setWorker : (state.setWorker conn worker).read list other =
    if conn = other then list worker else state.read list other := by
  by_cases same : conn = other
  · subst same
    simp [read]
  · simp [read, same, setWorker_other state conn other worker (Ne.symm same)]

end State

/-- What each event finds and leaves. Every invariant of the engine is a case
analysis of this relation. -/
inductive Moved (state : State κ) : Event κ → State κ → Prop where
  | create {conn} : state.main = .free → state.workers conn = none →
      Moved state (.create conn) (state.setWorker conn {})
  | enqueue {ticket worker} : state.main = .free → ticket.serial = state.issued →
      ticket.job.syncSignal = none → state.workers ticket.conn = some worker →
      Moved state (.enqueue ticket)
        { state.setWorker ticket.conn (worker.push ticket) with
          main := .counting ticket.conn none, issued := state.issued + 1 }
  | runSync {ticket worker} : state.main = .free → ticket.serial = state.issued →
      ticket.job.syncSignal = some ticket.serial → ticket.isQuery = true →
      state.workers ticket.conn = some worker → worker.running = true →
      Moved state (.runSync ticket)
        { state.setWorker ticket.conn (worker.push ticket) with
          main := .counting ticket.conn (some ticket.serial), issued := state.issued + 1 }
  | count {conn signal worker} : state.main = .counting conn signal → state.workers conn = some worker →
      Moved state .count
        { state.setWorker conn { worker with pending := worker.pending + 1 } with main := .counted signal }
  | wake {done} : state.main = .waitingFor done.ticket.serial → done ∈ state.promised →
      Moved state (.wake done) { state with promised := state.promised.erase done, main := .free }
  | stop {conn worker} : state.main = .free → state.workers conn = some worker → worker.running = true →
      Moved state (.stop conn)
        { state.setWorker conn { worker with running := false } with main := .joining conn }
  | join {conn worker} : state.main = .joining conn → state.workers conn = some worker →
      worker.thread = .exited →
      Moved state (.join conn)
        { state with workers := Function.update state.workers conn none, main := .free }
  | drain : state.main = .free → state.drained = [] →
      Moved state .drain { state with drained := state.completed, completed := [] }
  | dispatch {done rest} : state.main = .free → state.drained = done :: rest →
      Moved state (.dispatch done) { state with drained := rest }
  | call {conn native clientCipher} : state.main = .free → (state.workers conn).isSome →
      native.request clientCipher = none → Moved state (.call conn native clientCipher) state
  | ask {conn native clientCipher request} : state.main = .free → (state.workers conn).isSome →
      native.request clientCipher = some request →
      Moved state (.call conn native clientCipher) { state with main := .asking conn request }
  | answer {conn request} : state.main = .asking conn request →
      Moved state .answer { state with main := .free }
  | pop {ticket worker rest} : state.workers ticket.conn = some worker → worker.thread = .waiting →
      worker.input = ticket :: rest →
      Moved state (.pop ticket)
        (state.setWorker ticket.conn { worker with input := rest, thread := .holding ticket })
  | drop {ticket worker} : state.workers ticket.conn = some worker → worker.thread = .holding ticket →
      ticket.isQuery = false →
      Moved state (.drop ticket) (state.setWorker ticket.conn { worker with thread := .settled })
  | send {ticket worker} : state.workers ticket.conn = some worker → worker.thread = .holding ticket →
      ticket.isQuery = true →
      Moved state (.send ticket) (state.setWorker ticket.conn { worker with thread := .asking ticket })
  | finish {done worker} : state.workers done.ticket.conn = some worker → done.ticket.isQuery = true →
      (worker.thread = .asking done.ticket ∨
        worker.thread = .holding done.ticket ∧ done.outcome.succeeded = false) →
      Moved state (.finish done) (state.setWorker done.ticket.conn { worker with thread := .finished done })
  | deliverAsync {done worker} : state.workers done.ticket.conn = some worker →
      worker.thread = .finished done → done.ticket.isAsync = true →
      Moved state (.deliver done)
        { state.setWorker done.ticket.conn { worker with thread := .settled } with
          completed := state.completed ++ [done] }
  | deliverSync {done worker} : state.workers done.ticket.conn = some worker →
      worker.thread = .finished done → done.ticket.isAsync = false →
      Moved state (.deliver done)
        { state.setWorker done.ticket.conn { worker with thread := .settled } with
          promised := state.promised ++ [done] }
  | uncount {conn worker} : state.workers conn = some worker → worker.thread = .settled →
      Moved state (.uncount conn)
        (state.setWorker conn { worker with pending := worker.pending - 1, thread := .waiting })
  | exit {conn worker} : state.workers conn = some worker → worker.thread = .waiting →
      worker.input = [] → worker.running = false →
      Moved state (.exit conn) (state.setWorker conn { worker with thread := .exited })

private theorem push_moves {state next : State κ} {ticket : Ticket κ} {signal : Option Nat}
    (pushed : state.push ticket signal = some next) :
    ∃ worker, state.main = .free ∧ ticket.serial = state.issued ∧ ticket.job.syncSignal = signal ∧
      state.workers ticket.conn = some worker ∧
      next = { state.setWorker ticket.conn (worker.push ticket) with
        main := .counting ticket.conn signal, issued := state.issued + 1 } := by
  unfold State.push at pushed
  split at pushed
  next allowed =>
    obtain ⟨middle, acted, rfl⟩ := Option.map_eq_some_iff.mp pushed
    obtain ⟨worker, _, found, same, rfl⟩ := State.onWorker_eq_some.mp acted
    cases same
    exact ⟨worker, allowed.1, allowed.2.1, allowed.2.2, found, rfl⟩
  next => cases pushed

theorem step_moved {state next : State κ} {event : Event κ} (stepped : step state event = some next) :
    Moved state event next := by
  cases event with
  | create conn =>
    simp only [step, Option.ite_none_right_eq_some, Option.some.injEq] at stepped
    obtain ⟨⟨free, absent⟩, rfl⟩ := stepped
    exact .create free (Option.isNone_iff_eq_none.mp absent)
  | enqueue ticket =>
    obtain ⟨worker, free, serial, signal, found, rfl⟩ := push_moves stepped
    exact .enqueue free serial signal found
  | runSync ticket =>
    simp only [step, Option.ite_none_right_eq_some] at stepped
    obtain ⟨⟨query, running⟩, pushed⟩ := stepped
    obtain ⟨worker, free, serial, signal, found, rfl⟩ := push_moves pushed
    exact .runSync free serial signal query found (by simpa [found] using running)
  | count =>
    cases main : state.main with
    | counting conn signal =>
      simp only [step, main, Option.map_eq_some_iff] at stepped
      obtain ⟨middle, acted, rfl⟩ := stepped
      obtain ⟨worker, _, found, same, rfl⟩ := State.onWorker_eq_some.mp acted
      cases same
      exact .count main found
    | free | waitingFor _ | joining _ | asking _ _ => simp [step, main] at stepped
  | wake done =>
    simp only [step, Option.ite_none_right_eq_some, Option.some.injEq] at stepped
    obtain ⟨⟨main, member⟩, rfl⟩ := stepped
    exact .wake main member
  | stop conn =>
    simp only [step, Option.ite_none_right_eq_some, Option.map_eq_some_iff] at stepped
    obtain ⟨free, middle, acted, rfl⟩ := stepped
    obtain ⟨worker, _, found, same, rfl⟩ := State.onWorker_eq_some.mp acted
    simp only [Option.ite_none_right_eq_some, Option.some.injEq] at same
    obtain ⟨running, rfl⟩ := same
    exact .stop free found running
  | join conn =>
    simp only [step] at stepped
    split at stepped
    next worker found =>
      simp only [Option.ite_none_right_eq_some, Option.some.injEq] at stepped
      obtain ⟨⟨main, exited⟩, rfl⟩ := stepped
      exact .join main found exited
    next => cases stepped
  | drain =>
    simp only [step, Option.ite_none_right_eq_some, Option.some.injEq] at stepped
    obtain ⟨⟨free, empty⟩, rfl⟩ := stepped
    exact .drain free empty
  | dispatch done =>
    simp only [step, Option.ite_none_right_eq_some, Option.some.injEq] at stepped
    obtain ⟨⟨free, head⟩, rfl⟩ := stepped
    obtain ⟨rest, drained⟩ := List.head?_eq_some_iff.mp head
    simpa only [drained, List.tail_cons] using Moved.dispatch free drained
  | call conn native clientCipher =>
    simp only [step, Option.ite_none_right_eq_some] at stepped
    obtain ⟨⟨free, present⟩, result⟩ := stepped
    split at result
    next quiet =>
      cases result
      exact .call free present quiet
    next request asks =>
      cases result
      exact .ask free present asks
  | answer =>
    cases main : state.main with
    | asking conn request =>
      simp only [step, main, Option.some.injEq] at stepped
      subst next
      exact .answer main
    | free | waitingFor _ | joining _ | counting _ _ => simp [step, main] at stepped
  | pop ticket =>
    obtain ⟨worker, _, found, same, rfl⟩ := State.onWorker_eq_some.mp stepped
    simp only [ConnectionWorker.pop, Option.ite_none_right_eq_some, Option.some.injEq] at same
    obtain ⟨⟨waiting, head⟩, rfl⟩ := same
    obtain ⟨rest, input⟩ := List.head?_eq_some_iff.mp head
    simpa only [input, List.tail_cons] using Moved.pop found waiting input
  | drop ticket =>
    obtain ⟨worker, _, found, same, rfl⟩ := State.onWorker_eq_some.mp stepped
    simp only [ConnectionWorker.drop, Option.ite_none_right_eq_some, Option.some.injEq] at same
    obtain ⟨⟨holding, teardown⟩, rfl⟩ := same
    exact .drop found holding teardown
  | send ticket =>
    obtain ⟨worker, _, found, same, rfl⟩ := State.onWorker_eq_some.mp stepped
    simp only [ConnectionWorker.send, Option.ite_none_right_eq_some, Option.some.injEq] at same
    obtain ⟨⟨holding, query⟩, rfl⟩ := same
    exact .send found holding query
  | finish done =>
    obtain ⟨worker, _, found, same, rfl⟩ := State.onWorker_eq_some.mp stepped
    simp only [ConnectionWorker.finish, Option.ite_none_right_eq_some, Option.some.injEq] at same
    obtain ⟨⟨query, thread⟩, rfl⟩ := same
    exact .finish found query thread
  | deliver done =>
    simp only [step, Option.map_eq_some_iff] at stepped
    obtain ⟨middle, acted, rfl⟩ := stepped
    obtain ⟨worker, _, found, same, rfl⟩ := State.onWorker_eq_some.mp acted
    simp only [ConnectionWorker.deliver, Option.ite_none_right_eq_some, Option.some.injEq] at same
    obtain ⟨thread, rfl⟩ := same
    cases async : done.ticket.isAsync with
    | true => simpa only [if_true] using Moved.deliverAsync found thread async
    | false => simpa only [Bool.false_eq_true, if_false] using Moved.deliverSync found thread async
  | uncount conn =>
    obtain ⟨worker, _, found, same, rfl⟩ := State.onWorker_eq_some.mp stepped
    simp only [ConnectionWorker.uncount, Option.ite_none_right_eq_some, Option.some.injEq] at same
    obtain ⟨settled, rfl⟩ := same
    exact .uncount found settled
  | exit conn =>
    obtain ⟨worker, _, found, same, rfl⟩ := State.onWorker_eq_some.mp stepped
    simp only [ConnectionWorker.exit, Option.ite_none_right_eq_some, Option.some.injEq] at same
    obtain ⟨⟨waiting, empty, stopped⟩, rfl⟩ := same
    exact .exit found waiting empty stopped

private theorem outstanding_setWorker {state : State κ} {target : κ} {worker changed : ConnectionWorker κ}
    {queued : List (Ticket κ)} (held : state.workers target = some worker)
    (within : ∀ ticket ∈ changed.outstanding, ticket ∈ queued ∨ ticket ∈ worker.outstanding) {conn : κ}
    {updated : ConnectionWorker κ} (found : (state.setWorker target changed).workers conn = some updated)
    {ticket : Ticket κ} (present : ticket ∈ updated.outstanding) :
    ticket ∈ queued ∨ ∃ worker, state.workers conn = some worker ∧ ticket ∈ worker.outstanding := by
  by_cases same : conn = target
  · subst same
    rw [State.setWorker_same] at found
    cases found
    exact (within ticket present).imp_right (fun old => ⟨worker, held, old⟩)
  · rw [State.setWorker_other _ _ _ _ same] at found
    exact Or.inr ⟨updated, found, present⟩

/-- Work is given to a worker by an enqueue and in no other way. -/
theorem outstanding_step {state next : State κ} {event : Event κ} (moved : Moved state event next) {conn : κ}
    {updated : ConnectionWorker κ} (found : next.workers conn = some updated) {ticket : Ticket κ}
    (present : ticket ∈ updated.outstanding) :
    ticket ∈ event.enqueued ∨ ∃ worker, state.workers conn = some worker ∧ ticket ∈ worker.outstanding := by
  cases moved with
  | @create target free absent =>
    by_cases same : conn = target
    · subst same
      rw [State.setWorker_same] at found
      cases found
      cases present
    · rw [State.setWorker_other _ _ _ _ same] at found
      exact Or.inr ⟨updated, found, present⟩
  | enqueue free serial signal held | runSync free serial signal query held running =>
    refine outstanding_setWorker held ?_ found present
    simp only [ConnectionWorker.outstanding, ConnectionWorker.push, Event.enqueued, List.mem_append, List.mem_singleton]
    tauto
  | count main held | stop free held running =>
    refine outstanding_setWorker held ?_ found present
    exact fun _ old => Or.inr old
  | @join target worker main held exited =>
    have apart : conn ≠ target := by
      intro same
      subst same
      simp at found
    simp only [Function.update_of_ne apart] at found
    exact Or.inr ⟨updated, found, present⟩
  | wake | drain | dispatch | call | ask | answer => exact Or.inr ⟨updated, found, present⟩
  | pop held thread input =>
    refine outstanding_setWorker held ?_ found present
    simp only [ConnectionWorker.outstanding, thread, input, Thread.taken, List.mem_append, List.mem_cons]
    tauto
  | drop held thread _ | deliverAsync held thread _ | deliverSync held thread _ =>
    refine outstanding_setWorker held ?_ found present
    simp only [ConnectionWorker.outstanding, thread, Thread.taken, List.mem_append]
    tauto
  | finish held query thread =>
    refine outstanding_setWorker held ?_ found present
    intro queued old
    rcases thread with thread | ⟨thread, _⟩ <;>
      exact Or.inr (by simpa [ConnectionWorker.outstanding, thread, Thread.taken] using old)
  | send held thread _ | uncount held thread | exit held thread _ _ =>
    refine outstanding_setWorker held ?_ found present
    intro queued old
    exact Or.inr (by simpa [ConnectionWorker.outstanding, thread, Thread.taken] using old)

/-- A worker comes into being by its own event. -/
theorem worker_step {state next : State κ} {event : Event κ} (moved : Moved state event next) {conn : κ}
    (present : (next.workers conn).isSome) : (state.workers conn).isSome ∨ event = .create conn := by
  have kept {target : κ} {worker changed : ConnectionWorker κ} (held : state.workers target = some worker)
      (found : ((state.setWorker target changed).workers conn).isSome) : (state.workers conn).isSome := by
    by_cases same : conn = target
    · subst same
      rw [held]
      rfl
    · rwa [State.setWorker_other _ _ _ _ same] at found
  cases moved with
  | @create target free absent =>
    by_cases same : conn = target
    · subst same
      exact Or.inr rfl
    · rw [State.setWorker_other _ _ _ _ same] at present
      exact Or.inl present
  | enqueue _ _ _ held | runSync _ _ _ _ held | count _ held | stop _ held | pop held | drop held | send held
  | finish held | deliverAsync held | deliverSync held | uncount held | exit held =>
    exact Or.inl (kept held present)
  | @join target =>
    by_cases same : conn = target
    · subst same
      simp at present
    · simp only [Function.update_of_ne same] at present
      exact Or.inl present
  | wake | drain | dispatch | call | ask | answer => exact Or.inl present

theorem handled_held {state next : State κ} {event : Event κ} (moved : Moved state event next) {ticket : Ticket κ}
    (present : ticket ∈ event.handled) :
    ∃ worker, state.workers ticket.conn = some worker ∧ ticket ∈ worker.thread.unrun := by
  cases moved with
  | drop found thread | send found thread =>
    rw [List.mem_singleton.mp present]
    exact ⟨_, found, by simp [thread, Thread.unrun]⟩
  | finish found _ thread =>
    rw [List.mem_singleton.mp present]
    refine ⟨_, found, ?_⟩
    rcases thread with thread | ⟨thread, _⟩ <;> simp [thread, Thread.unrun]
  | _ => cases present

end OmpMySQL.Engine
