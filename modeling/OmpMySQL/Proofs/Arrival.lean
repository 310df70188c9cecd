import OmpMySQL.Proofs.MainProgress

/-! No query starves. Whatever else is submitted, to its own connection or to others, a query
has a known number of steps of its worker before it, and its report a known number of turns
of the tick. -/

namespace OmpMySQL.Engine
open Library

variable {κ : Type} [DecidableEq κ]

/-- The steps a worker takes before a job it has is answered: those of the job in hand, five
for each job queued ahead, and the job's own four. -/
def ConnectionWorker.due (worker : ConnectionWorker κ) (ticket : Ticket κ) : Nat :=
  if worker.thread.taken.contains ticket then worker.thread.left - 2
  else worker.thread.left + 5 * worker.input.idxOf ticket + 3

theorem due_eq (worker : ConnectionWorker κ) (ticket : Ticket κ) :
    worker.due ticket =
      if ticket ∈ worker.thread.taken then worker.thread.left - 2
      else worker.thread.left + 5 * worker.input.idxOf ticket + 3 := by
  simp only [ConnectionWorker.due, List.contains_iff_mem]

def Awaits (ticket : Ticket κ) (turns : Nat) (state : State κ) : Prop :=
  ∃ worker, state.workers ticket.conn = some worker ∧ ticket ∈ worker.outstanding ∧ worker.due ticket ≤ turns

/-- The job has been answered and is on its way to its callback, or its callback has been called. -/
def Reported (ticket : Ticket κ) (events : List (Event κ)) (state : State κ) : Prop :=
  ∃ done, done.ticket = ticket ∧ (done ∈ state.drained ++ state.completed ∨ .dispatch done ∈ events)

/-- A turn of the tick: the sink is emptied, or one callback is called. -/
def Event.turn : Event κ → Bool
  | .drain | .dispatch _ => true
  | _ => false

/-- The turns before a report: those drained ahead of it and its own, and before these
everything that was drained earlier and the drain that takes it out of the sink. -/
def Behind (done : Finished κ) (turns : Nat) (state : State κ) : Prop :=
  (∃ ahead later, state.drained = ahead ++ done :: later ∧ ahead.length + 1 ≤ turns) ∨
    ∃ ahead later, state.completed = ahead ++ done :: later ∧ state.drained.length + ahead.length + 2 ≤ turns

section Steps
variable {state next : State κ} {event : Event κ} {ticket : Ticket κ} {turns : Nat}

private theorem Awaits.update {target : κ} {worker updated : ConnectionWorker κ} {paid : Nat}
    (awaits : Awaits ticket turns state) (found : state.workers target = some worker)
    (workers : next.workers = (state.setWorker target updated).workers)
    (kept : ticket ∈ worker.outstanding → ticket ∈ updated.outstanding ∧ updated.due ticket + paid ≤ worker.due ticket) :
    ∃ less, Awaits ticket less next ∧ less + (if target = ticket.conn then paid else 0) ≤ turns := by
  obtain ⟨own, held, waits, due⟩ := awaits
  by_cases here : target = ticket.conn
  · subst here
    rw [found, Option.some.injEq] at held
    subst held
    obtain ⟨still, less⟩ := kept waits
    refine ⟨updated.due ticket, ⟨updated, ?_, still, Nat.le_refl _⟩, ?_⟩
    · rw [workers, State.setWorker_same]
    · rw [if_pos rfl]
      exact Nat.le_trans less due
  · refine ⟨turns, ⟨own, ?_, waits, due⟩, ?_⟩
    · rw [workers, State.setWorker_other _ _ _ _ (Ne.symm here), held]
    · rw [if_neg here]
      exact Nat.le_refl _

private theorem Awaits.own {target : κ} {worker updated : ConnectionWorker κ} (awaits : Awaits ticket turns state)
    (found : state.workers target = some worker) (workers : next.workers = (state.setWorker target updated).workers)
    (kept : ticket ∈ worker.outstanding → ticket ∈ updated.outstanding ∧ updated.due ticket + 1 ≤ worker.due ticket) :
    ∃ less, Awaits ticket less next ∧ less + (decide (some target = some ticket.conn)).toNat ≤ turns := by
  have cost : (decide (some target = some ticket.conn)).toNat = if target = ticket.conn then 1 else 0 := by
    by_cases here : target = ticket.conn <;> simp [here]
  rw [cost]
  exact awaits.update found workers kept

private theorem Awaits.foreign {target : κ} {worker updated : ConnectionWorker κ} (awaits : Awaits ticket turns state)
    (found : state.workers target = some worker) (workers : next.workers = (state.setWorker target updated).workers)
    (kept : ticket ∈ worker.outstanding → ticket ∈ updated.outstanding ∧ updated.due ticket ≤ worker.due ticket) :
    ∃ less, Awaits ticket less next ∧ less ≤ turns := by
  obtain ⟨less, still, within⟩ := @Awaits.update _ _ _ _ _ _ _ _ _ 0 awaits found workers kept
  exact ⟨less, still, Nat.le_trans (Nat.le_add_right _ _) within⟩

/-- What is queued later does not come before what is queued. -/
private theorem due_push {worker : ConnectionWorker κ} {later : Ticket κ} (waits : ticket ∈ worker.outstanding) :
    ticket ∈ (worker.push later).outstanding ∧ (worker.push later).due ticket ≤ worker.due ticket := by
  have split : ticket ∈ worker.input ∨ ticket ∈ worker.thread.taken := List.mem_append.mp waits
  refine ⟨?_, ?_⟩
  · rw [ConnectionWorker.outstanding, List.mem_append, ConnectionWorker.push, List.mem_append]
    exact split.imp_left Or.inl
  · by_cases taken : ticket ∈ worker.thread.taken
    · simp [due_eq, ConnectionWorker.push, taken]
    · have queued : ticket ∈ worker.input := split.resolve_right taken
      simp [due_eq, ConnectionWorker.push, taken, List.idxOf_append_of_mem queued]

private theorem due_pop {worker : ConnectionWorker κ} {head : Ticket κ} {rest : List (Ticket κ)}
    (thread : worker.thread = .waiting) (input : worker.input = head :: rest) (waits : ticket ∈ worker.outstanding) :
    ticket ∈ ({ worker with input := rest, thread := .holding head } : ConnectionWorker κ).outstanding ∧
      ({ worker with input := rest, thread := .holding head } : ConnectionWorker κ).due ticket + 1 ≤ worker.due ticket := by
  simp only [ConnectionWorker.outstanding, due_eq, thread, input, Thread.taken, Thread.left, List.append_nil,
    List.mem_cons, List.mem_append, List.not_mem_nil, or_false, if_false] at waits ⊢
  rcases waits with rfl | queued
  · simp
  · refine ⟨Or.inl queued, ?_⟩
    by_cases same : ticket = head
    · subst same
      simp
    · rw [if_neg same, List.idxOf_cons_ne _ (Ne.symm same)]
      omega

/-- A step on the job in hand is a step nearer for every job behind it. -/
private theorem due_thread {worker : ConnectionWorker κ} {thread : Thread κ} (less : thread.left + 1 ≤ worker.thread.left)
    (kept : ticket ∈ worker.thread.taken → ticket ∈ thread.taken ∧ 2 ≤ thread.left)
    (within : ticket ∈ thread.taken → ticket ∈ worker.thread.taken) (waits : ticket ∈ worker.outstanding) :
    ticket ∈ ({ worker with thread := thread } : ConnectionWorker κ).outstanding ∧
      ({ worker with thread := thread } : ConnectionWorker κ).due ticket + 1 ≤ worker.due ticket := by
  refine ⟨?_, ?_⟩
  · rw [ConnectionWorker.outstanding, List.mem_append]
    exact (List.mem_append.mp waits).imp_right (fun taken => (kept taken).1)
  · by_cases taken : ticket ∈ worker.thread.taken
    · obtain ⟨still, enough⟩ := kept taken
      simp only [due_eq, taken, still, if_true]
      omega
    · have free : ticket ∉ thread.taken := fun present => taken (within present)
      simp only [due_eq, taken, free, if_false]
      omega

/-- While a query waits, every step of its worker brings it nearer or answers it, and nothing
anyone else does takes it back or puts anything before it. -/
theorem awaits_step (sound : Sound state) (query : ticket.isQuery = true) (async : ticket.isAsync = true)
    (awaits : Awaits ticket turns state) (moved : Moved state event next) :
    (∃ less, Awaits ticket less next ∧ less + (decide (event.worker = some ticket.conn)).toNat ≤ turns) ∨
      ∃ done ∈ next.completed, done.ticket = ticket := by
  cases moved with
  | create _ absent =>
    obtain ⟨worker, found, waits, due⟩ := awaits
    refine Or.inl ⟨turns, ⟨worker, ?_, waits, due⟩, Nat.le_refl _⟩
    have apart : ticket.conn ≠ _ := fun same => by
      rw [same, absent] at found
      cases found
    rw [State.setWorker_other _ _ _ _ apart, found]
  | enqueue _ _ _ found => exact Or.inl (awaits.foreign found rfl due_push)
  | runSync _ _ _ _ found => exact Or.inl (awaits.foreign found rfl due_push)
  | count _ found => exact Or.inl (awaits.foreign found rfl (fun waits => ⟨waits, Nat.le_refl _⟩))
  | stop _ found => exact Or.inl (awaits.foreign found rfl (fun waits => ⟨waits, Nat.le_refl _⟩))
  | wake | drain | dispatch | call | ask | answer => exact Or.inl ⟨turns, awaits, Nat.le_refl _⟩
  | @join conn worker _ found exited =>
    obtain ⟨own, held, waits, due⟩ := awaits
    refine Or.inl ⟨turns, ⟨own, ?_, waits, due⟩, Nat.le_refl _⟩
    have apart : ticket.conn ≠ conn := by
      rintro rfl
      rw [found, Option.some.injEq] at held
      subst held
      have empty := ((sound _ _ found).exited exited).2
      simp [ConnectionWorker.outstanding, empty, exited, Thread.taken] at waits
    exact (Function.update_of_ne apart ..).trans held
  | pop found thread input => exact Or.inl (awaits.own found rfl (due_pop thread input))
  | drop found thread teardown =>
    refine Or.inl (awaits.own found rfl (due_thread ?_ ?_ ?_))
    · simp [thread, Thread.left]
    · intro taken
      simp only [thread, Thread.taken, List.mem_singleton] at taken
      subst taken
      cases teardown.symm.trans query
    · intro taken
      cases taken
  | send found thread =>
    apply Or.inl
    apply awaits.own found rfl
    apply due_thread
    · simp [thread, Thread.left]
    · intro taken
      exact ⟨by simpa [thread, Thread.taken] using taken, by simp [Thread.left]⟩
    · simp [thread, Thread.taken]
  | finish found _ thread =>
    apply Or.inl
    apply awaits.own found rfl
    rcases thread with thread | ⟨thread, _⟩
    all_goals
      apply due_thread
      · simp [thread, Thread.left]
      · intro taken
        exact ⟨by simpa [thread, Thread.taken] using taken, by simp [Thread.left]⟩
      · simp [thread, Thread.taken]
  | @deliverAsync done _ found thread =>
    by_cases same : done.ticket = ticket
    · exact Or.inr ⟨done, List.mem_append_right _ List.mem_cons_self, same⟩
    · apply Or.inl
      apply awaits.own found rfl
      apply due_thread
      · simp [thread, Thread.left]
      · intro taken
        simp only [thread, Thread.taken, List.mem_singleton] at taken
        exact absurd taken.symm same
      · intro taken
        cases taken
  | @deliverSync done _ found thread sync =>
    apply Or.inl
    apply awaits.own found rfl
    apply due_thread
    · simp [thread, Thread.left]
    · intro taken
      simp only [thread, Thread.taken, List.mem_singleton] at taken
      subst taken
      cases sync.symm.trans async
    · intro taken
      cases taken
  | uncount found thread =>
    apply Or.inl
    apply awaits.own found rfl
    apply due_thread
    · simp [thread, Thread.left]
    · intro taken
      rw [thread] at taken
      cases taken
    · intro taken
      cases taken
  | exit found thread input =>
    obtain ⟨own, held, waits, due⟩ := awaits
    refine Or.inl (Awaits.own ⟨own, held, waits, due⟩ found rfl (fun waits => ?_))
    simp [ConnectionWorker.outstanding, thread, input, Thread.taken] at waits

/-- A report keeps its place until its turn. -/
theorem behind_step {done : Finished κ} (behind : Behind done turns state) (moved : Moved state event next) :
    (∃ less, Behind done less next ∧ less + event.turn.toNat ≤ turns) ∨ event = .dispatch done := by
  cases moved with
  | drain _ empty =>
    rcases behind with ⟨ahead, later, drained, _⟩ | ⟨ahead, later, completed, within⟩
    · simp [empty] at drained
    · refine Or.inl ⟨ahead.length + 1, Or.inl ⟨ahead, later, completed, Nat.le_refl _⟩, ?_⟩
      simp only [Event.turn, Bool.toNat_true]
      omega
  | @dispatch other rest _ drained =>
    rcases behind with ⟨ahead, later, place, within⟩ | ⟨ahead, later, completed, within⟩
    · rw [drained] at place
      cases ahead with
      | nil =>
        cases place
        exact Or.inr rfl
      | cons first ahead =>
        obtain ⟨rfl, rfl⟩ := List.cons.inj place
        exact Or.inl ⟨ahead.length + 1, Or.inl ⟨ahead, later, rfl, Nat.le_refl _⟩, within⟩
    · rw [drained, List.length_cons] at within
      refine Or.inl ⟨rest.length + ahead.length + 2, Or.inr ⟨ahead, later, completed, Nat.le_refl _⟩, ?_⟩
      simp only [Event.turn, Bool.toNat_true]
      omega
  | @deliverAsync other =>
    refine Or.inl ⟨turns, behind.imp_right ?_, Nat.le_refl _⟩
    rintro ⟨ahead, later, completed, within⟩
    exact ⟨ahead, later ++ [other], by simp [completed], within⟩
  | create | enqueue | runSync | count | wake | stop | join | call | ask | answer | pop | drop | send | finish | deliverSync
  | uncount | exit => exact Or.inl ⟨turns, behind, Nat.le_refl _⟩

private theorem reported_step {events : List (Event κ)} (reported : Reported ticket events state)
    (moved : Moved state event next) : Reported ticket (events ++ [event]) next := by
  obtain ⟨done, rfl, place | called⟩ := reported
  · refine ⟨done, rfl, ?_⟩
    cases moved with
    | drain _ empty =>
      apply Or.inl
      simpa [empty] using place
    | @dispatch other rest _ drained =>
      rw [drained, List.cons_append, List.mem_cons] at place
      rcases place with rfl | later
      · exact Or.inr (List.mem_append_right _ List.mem_cons_self)
      · exact Or.inl later
    | deliverAsync =>
      apply Or.inl
      rw [← List.append_assoc]
      exact List.mem_append_left _ place
    | create | enqueue | runSync | count | wake | stop | join | call | ask | answer | pop | drop | send | finish
    | deliverSync | uncount | exit => exact Or.inl place
  · exact ⟨done, rfl, Or.inr (List.mem_append_left _ called)⟩

omit [DecidableEq κ] in
private theorem behind_of_mem {done : Finished κ} (place : done ∈ state.drained ++ state.completed) :
    Behind done (state.drained.length + state.completed.length + 1) state := by
  rcases List.mem_append.mp place with drained | completed
  · obtain ⟨ahead, later, split⟩ := List.append_of_mem drained
    refine Or.inl ⟨ahead, later, split, ?_⟩
    rw [split, List.length_append, List.length_cons]
    omega
  · obtain ⟨ahead, later, split⟩ := List.append_of_mem completed
    refine Or.inr ⟨ahead, later, split, ?_⟩
    rw [split, List.length_append, List.length_cons]
    omega

/-- Whenever no native is running, the tick can take its next turn. -/
private theorem turn_enabled (free : state.main = .free) :
    ∃ event : Event κ, event.turn = true ∧ (step state event).isSome := by
  cases drained : state.drained with
  | nil => exact ⟨.drain, rfl, by simp [step, free, drained]⟩
  | cons first rest => exact ⟨.dispatch first, rfl, by simp [step, free, drained]⟩

private theorem due_positive {worker : ConnectionWorker κ} : 1 ≤ worker.due ticket := by
  rw [due_eq]
  split
  next taken =>
    cases thread : worker.thread with
    | holding | asking | finished => simp [Thread.left]
    | waiting | settled | exited =>
      rw [thread] at taken
      cases taken
  next => omega

end Steps

section Runs
variable {state after : State κ} {ticket : Ticket κ} {more : List (Event κ)}

private theorem reported_in_turn {done : Finished κ} {turns : Nat} (behind : Behind done turns state)
    (run : Run (Steps step) state more after) :
    more.countP Event.turn < turns ∧
        (after.main = .free → ∃ event : Event κ, event.turn = true ∧ (step after event).isSome) ∨
      .dispatch done ∈ more := by
  have whole := @Run.within_patience _ _ _ _ Event.turn (Behind done) (fun events _ => .dispatch done ∈ events) turns
    (fun rest events before event after held move =>
      (behind_step held (step_moved move)).imp_right (fun last => by simp [last]))
    (fun events before event after called _ => List.mem_append_left _ called) behind more after run
  rcases whole with ⟨rest, still, within⟩ | called
  · have left : 1 ≤ rest := by
      rcases still with ⟨ahead, later, _, few⟩ | ⟨ahead, later, _, few⟩ <;> omega
    exact Or.inl ⟨by omega, turn_enabled⟩
  · exact Or.inr called

private theorem awaited_or_reported (served : Served state) (query : ticket.isQuery = true) (async : ticket.isAsync = true)
    {turns : Nat} (awaits : Awaits ticket turns state) (run : Run (Steps step) state more after) :
    (∃ rest, (Served after ∧ Awaits ticket rest after) ∧
        rest + more.countP (fun event => decide (event.worker = some ticket.conn)) ≤ turns) ∨
      Reported ticket more after := by
  refine @Run.within_patience _ _ _ _ (fun event => decide (event.worker = some ticket.conn))
    (fun rest state => Served state ∧ Awaits ticket rest state) (Reported ticket) turns ?_ ?_ ⟨served, awaits⟩ more after run
  · rintro rest events before event after ⟨served, awaits⟩ move
    have moved := step_moved move
    rcases awaits_step served.sound query async awaits moved with ⟨less, still, within⟩ | ⟨done, place, same⟩
    · exact Or.inl ⟨less, ⟨served_step served moved, still⟩, within⟩
    · exact Or.inr ⟨done, same, Or.inl (List.mem_append_right _ place)⟩
  · intro events before event after reported move
    exact reported_step reported (step_moved move)

/-- A query submitted for a callback is not starved. Before its answer its worker takes fewer steps than are due
for it, and it can always take one; before its callback the tick takes no more turns than there are reports in
hand, and it can take one whenever no native is running. Nothing submitted later, anywhere, adds to either. -/
theorem no_query_starves {events : List (Event κ)} (run : Run (Steps step) {} events state) {worker : ConnectionWorker κ}
    (found : state.workers ticket.conn = some worker) (waits : ticket ∈ worker.outstanding)
    (query : ticket.isQuery = true) (async : ticket.isAsync = true) :
    ∀ more after, Run (Steps step) state more after →
      (more.countP (fun event => decide (event.worker = some ticket.conn)) < worker.due ticket ∧
          ∃ event : Event κ, event.worker = some ticket.conn ∧ (step after event).isSome) ∨
        ∃ done, done.ticket = ticket ∧
          (.dispatch done ∈ more ∨ ∀ further last, Run (Steps step) after further last →
            further.countP Event.turn ≤ after.drained.length + after.completed.length ∧
                (last.main = .free → ∃ event : Event κ, event.turn = true ∧ (step last event).isSome) ∨
              .dispatch done ∈ further) := by
  intro more after onward
  have served : Served state := run.invariant served_initial (fun _ _ _ held stepped => served_step held (step_moved stepped))
  have awaits : Awaits ticket (worker.due ticket) state := ⟨worker, found, waits, Nat.le_refl _⟩
  rcases awaited_or_reported served query async awaits onward with ⟨rest, ⟨later, own, held, still, due⟩, within⟩ | reported
  · have positive : 1 ≤ own.due ticket := due_positive
    have busy : own.outstanding ≠ [] := List.ne_nil_of_mem still
    refine Or.inl ⟨by omega, ?_⟩
    exact worker_enabled (later.manned _ own held) (later.sound _ own held) held busy
  · obtain ⟨done, same, place | called⟩ := reported
    · refine Or.inr ⟨done, same, Or.inr ?_⟩
      intro further last beyond
      exact (reported_in_turn (behind_of_mem place) beyond).imp_left (fun turn => ⟨Nat.le_of_lt_succ turn.1, turn.2⟩)
    · exact Or.inr ⟨done, same, Or.inl called⟩

end Runs

section Overtaken

/-- A query behind one that the worker has already sent. -/
private def overtaken : Ticket Nat := ⟨1, 1, { sql := "SELECT 2" }⟩

private def crowded : List (Event Nat) :=
  let sent : Ticket Nat := ⟨0, 1, { sql := "UPDATE a" }⟩
  [.create 1, .enqueue sent, .count, .pop sent, .send sent, .enqueue overtaken, .count]

theorem no_query_starves_overtaken : ∃ (state : State Nat) (worker : ConnectionWorker Nat),
    exec step {} crowded = some state ∧ state.workers 1 = some worker ∧ worker.due overtaken = 7 ∧ ∀ more after,
      Run (Steps step) state more after →
        (more.countP (fun event => decide (event.worker = some 1)) < worker.due overtaken ∧
            ∃ event : Event Nat, event.worker = some 1 ∧ (step after event).isSome) ∨
          ∃ done, done.ticket = overtaken ∧
            (.dispatch done ∈ more ∨ ∀ further last, Run (Steps step) after further last →
              further.countP Event.turn ≤ after.drained.length + after.completed.length ∧
                  (last.main = .free → ∃ event : Event Nat, event.turn = true ∧ (step last event).isSome) ∨
                .dispatch done ∈ further) := by
  have reached : ((exec step ({} : State Nat) crowded).any (fun state =>
      (state.workers 1).any (fun worker => overtaken ∈ worker.outstanding ∧ worker.due overtaken = 7))) = true := by decide
  obtain ⟨state, done, here⟩ := (Option.any_eq_true ..).mp reached
  obtain ⟨worker, found, waits⟩ := (Option.any_eq_true ..).mp here
  obtain ⟨waits, due⟩ := of_decide_eq_true waits
  exact ⟨state, worker, done, found, due, @no_query_starves Nat _ state overtaken _ (Run.of_exec done) worker found waits rfl rfl⟩

end Overtaken
end OmpMySQL.Engine
