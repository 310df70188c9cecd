import OmpMySQL.Shutdown

/-! Shutdown and the notification it can lose. A thread that has seen the running
flag still set and not blocked yet misses the only notification there is. -/

namespace OmpMySQL.Shutdown
open Library

/-- Nobody stands between a predicate that came out false and its block when the
shutdown notifies. -/
def NotifiesSeen (state : State) : Event → Prop
  | .notifyAll => .refused ∉ state.threads
  | _ => True

instance (state : State) (event : Event) : Decidable (NotifiesSeen state event) :=
  match event with
  | .notifyAll => inferInstanceAs (Decidable (¬ _))
  | .acquire _ | .evaluate _ | .block _ | .wakeSpuriously _ | .proceed _ | .complete _ | .push
  | .notifyOne _ | .exchangeRunning | .join => inferInstanceAs (Decidable True)

/-- The flag is down for the whole of a shutdown, and once it has notified no
thread is blocked or about to block. -/
structure Noticed (state : State) : Prop where
  cleared : state.main = .cleared → state.running = false
  joining : state.main = .joining → state.running = false ∧ ∀ thread ∈ state.threads, thread.Attentive

theorem Noticed.of_calm {state : State} (calm : state.main = .free ∨ state.main = .notifying) : Noticed state where
  cleared main := by simp [main] at calm
  joining main := by simp [main] at calm

private theorem Noticed.moveThread {state next : State} (noticed : Noticed state) {index : Nat}
    {act : Thread → Option Thread}
    (kept : state.running = false → ∀ thread updated, thread.Attentive → act thread = some updated → updated.Attentive)
    (moved : state.moveThread index act = some next) : Noticed next := by
  obtain ⟨threads, acted, rfl⟩ := Option.map_eq_some_iff.mp moved
  refine ⟨noticed.cleared, ?_⟩
  intro main
  obtain ⟨stopped, all⟩ := noticed.joining main
  refine ⟨stopped, ?_⟩
  apply forall_moveThread all _ acted
  intro thread updated member became
  exact kept stopped thread updated (all thread member) became

private theorem Noticed.resume {state next : State} (noticed : Noticed state) {index : Nat} {after : Thread}
    (moved : state.moveThread index (Waiter.resume after) = some next) (attentive : after.Attentive) :
    Noticed next :=
  noticed.moveThread (fun _ _ _ _ became => Waiter.attentive_resume attentive became) moved

private theorem Noticed.proceed {state next : State} {loop : Loop} (noticed : Noticed state) {index : Nat}
    (proceeded : state.proceed loop index = some next) : Noticed next := by
  simp only [State.proceed] at proceeded
  split at proceeded
  next =>
    obtain ⟨middle, moved, rfl⟩ := Option.map_eq_some_iff.mp proceeded
    have kept := noticed.resume moved ⟨nofun, nofun⟩
    exact ⟨kept.cleared, kept.joining⟩
  next => exact noticed.resume proceeded ⟨nofun, nofun⟩
  next => exact noticed.resume proceeded ⟨nofun, nofun⟩

theorem noticed_step {loop : Loop} {state next : State} {event : Event}
    (after : ∀ state, (loop.joined state).main = state.main) (noticed : Noticed state)
    (seen : NotifiesSeen state event) (stepped : step loop state event = some next) : Noticed next := by
  cases event with
  | acquire thread =>
    simp only [step, Option.ite_none_right_eq_some] at stepped
    exact noticed.moveThread (fun _ _ _ _ moved => Waiter.attentive_acquire moved) stepped.2
  | evaluate thread =>
    refine noticed.moveThread ?_ stepped
    intro stopped before updated _ moved
    rw [State.predicate, stopped] at moved
    exact Waiter.attentive_evaluate moved
  | block thread =>
    apply noticed.moveThread _ stepped
    intro _ before updated attentive moved
    -- A thread that could block is not attentive, so there is none during a join.
    cases before <;> cases moved
    exact absurd rfl attentive.1
  | wakeSpuriously thread =>
    exact noticed.moveThread (fun _ _ _ _ moved => Waiter.attentive_wake moved) stepped
  | proceed thread => exact noticed.proceed stepped
  | complete thread =>
    apply noticed.moveThread _ stepped
    intro _ before updated _ moved
    cases before with
    | outside place =>
      cases place <;> cases moved
      exact ⟨nofun, nofun⟩
    | entering | locked | refused | blocked | woken | admitted => cases moved
  | push =>
    simp only [step, Option.ite_none_right_eq_some, Option.some.injEq] at stepped
    obtain ⟨_, rfl⟩ := stepped
    exact .of_calm (Or.inr rfl)
  | notifyOne woken =>
    simp only [step, Option.ite_none_right_eq_some, Option.map_eq_some_iff] at stepped
    obtain ⟨_, threads, _, rfl⟩ := stepped
    exact .of_calm (Or.inl rfl)
  | exchangeRunning =>
    simp only [step, Option.ite_none_right_eq_some, Option.some.injEq] at stepped
    obtain ⟨free, rfl⟩ := stepped
    cases state.running with
    | true => exact ⟨fun _ => rfl, nofun⟩
    | false => exact noticed
  | notifyAll =>
    simp only [step, Option.ite_none_right_eq_some, Option.some.injEq] at stepped
    obtain ⟨cleared, rfl⟩ := stepped
    refine ⟨nofun, fun _ => ⟨noticed.cleared cleared, forall_notifyAll ?_⟩⟩
    intro thread member refused
    exact seen (refused ▸ member)
  | join =>
    simp only [step, Option.ite_none_right_eq_some, Option.some.injEq] at stepped
    obtain ⟨_, rfl⟩ := stepped
    exact .of_calm (Or.inl (after _))

theorem Noticed.awake {state : State} (noticed : Noticed state) : ¬ LostWakeup state := by
  intro lost
  have attentive := (noticed.joining lost.1).2 _ lost.2
  exact attentive.2 rfl

/-- A shutdown whose notification falls outside the window wakes every thread it
then joins, in the connection's worker and in a hashing pool of any size. -/
theorem no_lost_wakeup (pool : Pool) {events : List Event} {state : State}
    (run : Run (Guarded NotifiesSeen (Steps (step pool.loop))) pool.initial events state) : ¬ LostWakeup state := by
  have initial : Noticed pool.initial := by
    cases pool <;> exact .of_calm (Or.inl rfl)
  have after : ∀ state, (pool.loop.joined state).main = state.main := by
    intro state
    cases pool <;> rfl
  have noticed := run.invariant initial (fun _ _ _ noticed move => noticed_step after noticed move.1 move.2)
  exact noticed.awake

section Missed

/-- The thread finds the flag still set, the shutdown clears it and notifies, and
only then does the thread block. -/
private def missedRun : List Event := [.acquire 0, .evaluate 0, .exchangeRunning, .notifyAll, .block 0]

theorem wakeup_lost : ¬ ∀ (pool : Pool) (events : List Event) (state : State),
    Run (Steps (step pool.loop)) pool.initial events state → ¬ LostWakeup state := by
  intro always
  have done : exec (step ConnectionWorker.loop) ConnectionWorker.initial missedRun =
      some { running := false, threads := [.blocked], main := .joining } := rfl
  exact always .connectionWorker missedRun _ (Run.of_exec done) ⟨rfl, List.mem_singleton.mpr rfl⟩

/-- One job is queued; the thread evaluates its predicate after the flag has been
cleared, takes the job, and leaves on its next look. -/
private def seenRun : List Event :=
  [.push, .notifyOne none, .exchangeRunning, .acquire 0, .evaluate 0, .notifyAll, .proceed 0, .complete 0,
    .acquire 0, .evaluate 0, .proceed 0]

theorem no_lost_wakeup_seen :
    ∃ worker pool,
      exec (guarded NotifiesSeen (step ConnectionWorker.loop)) ConnectionWorker.initial seenRun = some worker ∧
      exec (guarded NotifiesSeen (step QueryEngine.hashLoop)) (QueryEngine.startHashing 2) seenRun = some pool ∧
      ¬ LostWakeup worker ∧ ¬ LostWakeup pool := by
  have single := @no_lost_wakeup .connectionWorker seenRun _ (Run.of_guarded_exec rfl)
  have several := @no_lost_wakeup (.hashing 2) seenRun _ (Run.of_guarded_exec rfl)
  exact ⟨_, _, rfl, rfl, single, several⟩

end Missed
end OmpMySQL.Shutdown
