import OmpMySQL.Shutdown

/-! No thread sleeps through a job. A notification wakes one thread for each job, so the
threads on their way to the queue are never fewer than the jobs while any thread sleeps. -/

namespace OmpMySQL.Shutdown
open Library

/-- The threads that will look at the queue before they block. -/
def State.coming (state : State) : Nat := state.threads.countP Waiter.comes

/-- The notification that is still to come. -/
def Main.owed : Main → Nat
  | .notifying => 1
  | .free | .cleared | .joining => 0

/-- A thread that sleeps or is about to leaves no job to itself. -/
structure Attended (state : State) : Prop where
  asleep : .blocked ∈ state.threads → state.queued ≤ state.coming + state.main.owed
  refused : .refused ∈ state.threads → state.queued = 0
  serving : state.running = true → .outside .exited ∉ state.threads
  manned : state.running = true → state.threads ≠ []

/-- A loop takes only what is queued, and leaves only an empty queue behind a cleared flag. -/
structure Loop.Sound (loop : Loop) : Prop where
  leaves : ∀ running empty, loop.decision running empty = .leave → running = false ∧ empty = true
  takes : ∀ running empty, loop.decision running empty = .take ↔ empty = false
  keeps : ∀ state, (loop.joined state).threads ⊆ state.threads ∧ (loop.joined state).main = state.main ∧
    (loop.joined state).running = state.running

theorem Pool.sound (pool : Pool) : pool.loop.Sound := by
  cases pool with
  | connectionWorker =>
    refine ⟨?_, ?_, fun _ => ⟨fun _ inside => inside, rfl, rfl⟩⟩
    · intro running empty left
      cases running <;> cases empty <;> cases left
      exact ⟨rfl, rfl⟩
    · intro running empty
      cases running <;> cases empty <;> decide
  | hashing threads =>
    refine ⟨?_, ?_, fun _ => ⟨List.nil_subset _, rfl, rfl⟩⟩
    · intro running empty left
      cases running <;> cases empty <;> cases left
      exact ⟨rfl, rfl⟩
    · intro running empty
      cases running <;> cases empty <;> simp [Pool.loop, QueryEngine.hashLoop]

section Moves
variable {state next : State} {index : Nat} {act : Thread → Option Thread}

/-- A thread that neither blocks nor leaves goes on coming if it came. -/
def Thread.Goes (thread updated : Thread) : Prop :=
  updated ≠ .refused ∧ updated ≠ .blocked ∧ updated ≠ .outside .exited ∧ (thread.comes = true → updated.comes = true)

theorem Attended.goes (attended : Attended state)
    (kept : ∀ thread updated, act thread = some updated → Thread.Goes thread updated)
    (moved : state.moveThread index act = some next) : Attended next := by
  obtain ⟨threads, acted, rfl⟩ := Option.map_eq_some_iff.mp moved
  obtain ⟨thread, updated, _, became, counts⟩ := @countP_moveThread _ Waiter.comes _ _ _ _ acted
  have old {other : Thread} (present : other ∈ threads) (apart : ∀ thread, act thread = some other → False) :
      other ∈ state.threads := by
    rcases mem_moveThread acted present with before | ⟨thread, became⟩
    · exact before
    · exact absurd became (fun became => apart thread became)
  refine ⟨?_, ?_, ?_, fun _ => moveThread_ne_nil acted⟩
  · intro asleep
    have waits := attended.asleep (old asleep fun thread became => (kept thread _ became).2.1 rfl)
    have comes := (kept thread updated became).2.2.2
    have more : state.threads.countP Waiter.comes ≤ threads.countP Waiter.comes := by
      cases came : thread.comes with
      | false =>
        rw [came, Bool.toNat_false] at counts
        omega
      | true =>
        rw [came, comes came] at counts
        omega
    exact Nat.le_trans waits (Nat.add_le_add_right more _)
  · exact fun refused => attended.refused (old refused fun thread became => (kept thread _ became).1 rfl)
  · exact fun running exited =>
      attended.serving running (old exited fun thread became => (kept thread _ became).2.2.1 rfl)

theorem goes_acquire {thread updated : Thread} (moved : thread.acquire = some updated) : Thread.Goes thread updated := by
  cases thread <;> cases moved <;> exact ⟨nofun, nofun, nofun, fun _ => rfl⟩

theorem goes_admit {thread updated : Thread} (moved : thread.evaluate true = some updated) : Thread.Goes thread updated := by
  cases thread <;> cases moved
  exact ⟨nofun, nofun, nofun, fun _ => rfl⟩

theorem goes_wake {thread updated : Thread} (moved : thread.wake = some updated) : Thread.Goes thread updated := by
  cases thread <;> cases moved
  exact ⟨nofun, nofun, nofun, fun _ => rfl⟩

theorem goes_again {thread updated : Thread} (moved : Waiter.resume .entering thread = some updated) :
    Thread.Goes thread updated := by
  cases thread <;> cases moved
  exact ⟨nofun, nofun, nofun, fun _ => rfl⟩

theorem goes_completed {thread updated : Thread} (moved : completed thread = some updated) : Thread.Goes thread updated := by
  cases thread with
  | outside place =>
    cases place <;> cases moved
    exact ⟨nofun, nofun, nofun, fun _ => rfl⟩
  | entering | locked | refused | blocked | woken | admitted => cases moved

/-- Over an empty queue a thread may do what it likes while the loop runs, short of leaving it. -/
theorem Attended.empty (attended : Attended state) (none : state.queued = 0)
    (stays : state.running = true → ∀ thread, act thread ≠ some (.outside .exited))
    (moved : state.moveThread index act = some next) : Attended next := by
  obtain ⟨threads, acted, rfl⟩ := Option.map_eq_some_iff.mp moved
  refine ⟨fun _ => none ▸ Nat.zero_le _, fun _ => none, ?_, fun _ => moveThread_ne_nil acted⟩
  intro running exited
  rcases mem_moveThread acted exited with before | ⟨thread, became⟩
  · exact attended.serving running before
  · exact stays running thread became

/-- A thread that takes a job is one fewer to come, for one job fewer. -/
theorem Attended.take (attended : Attended state) (waiting : state.queued ≠ 0) {middle : State}
    (moved : state.moveThread index (Waiter.resume (.outside .executing)) = some middle) :
    Attended { middle with queued := state.queued - 1 } := by
  obtain ⟨threads, acted, rfl⟩ := Option.map_eq_some_iff.mp moved
  obtain ⟨thread, updated, _, became, counts⟩ := @countP_moveThread _ Waiter.comes _ _ _ _ acted
  have old {other : Thread} (present : other ∈ threads) (apart : other ≠ .outside .executing) : other ∈ state.threads := by
    rcases mem_moveThread acted present with before | ⟨thread, became⟩
    · exact before
    · cases thread <;> cases became
      exact absurd rfl apart
  refine ⟨?_, ?_, ?_, fun _ => moveThread_ne_nil acted⟩
  · intro asleep
    have waits := attended.asleep (old asleep (by simp))
    cases thread <;> cases became
    simp only [Waiter.comes, Bool.toNat_true, Bool.toNat_false, Nat.add_zero] at counts
    rw [State.coming] at waits ⊢
    dsimp only
    omega
  · intro refused
    exact absurd (attended.refused (old refused (by simp))) waiting
  · exact fun running exited => attended.serving running (old exited (by simp))

theorem Attended.proceed {loop : Loop} (sound : loop.Sound) (attended : Attended state)
    (proceeded : state.proceed loop index = some next) : Attended next := by
  simp only [State.proceed] at proceeded
  split at proceeded
  next taken =>
    obtain ⟨middle, moved, rfl⟩ := Option.map_eq_some_iff.mp proceeded
    have waiting : state.queued ≠ 0 := beq_eq_false_iff_ne.mp ((sound.takes _ _).mp taken)
    exact attended.take waiting moved
  next left =>
    obtain ⟨stopped, empty⟩ := sound.leaves _ _ left
    refine attended.empty (beq_iff_eq.mp empty) ?_ proceeded
    intro running
    rw [stopped] at running
    cases running
  next => exact attended.goes (fun _ _ moved => goes_again moved) proceeded

/-- The job that was queued last is now somebody's. -/
theorem Attended.notified (attended : Attended state) (notifying : state.main = .notifying) {woken : Option Nat}
    {threads : List Thread} (notified : notifyOne state.threads woken = some threads) :
    Attended { state with threads, main := .free } := by
  cases woken with
  | none =>
    simp only [notifyOne, Option.ite_none_left_eq_some, Option.some.injEq] at notified
    obtain ⟨awake, rfl⟩ := notified
    exact ⟨fun asleep => absurd asleep awake, attended.refused, attended.serving, attended.manned⟩
  | some index =>
    rw [notifyOne] at notified
    obtain ⟨thread, updated, _, became, counts⟩ := @countP_moveThread _ Waiter.comes _ _ _ _ notified
    have old {other : Thread} (present : other ∈ threads) (apart : other ≠ .woken) : other ∈ state.threads := by
      rcases mem_moveThread notified present with before | ⟨thread, became⟩
      · exact before
      · cases thread <;> cases became
        exact absurd rfl apart
    refine ⟨?_, ?_, ?_, fun _ => moveThread_ne_nil notified⟩
    · intro asleep
      have waits := attended.asleep (old asleep (by simp))
      rw [notifying] at waits
      cases thread <;> cases became
      exact Nat.le_trans waits (Nat.le_of_eq counts.symm)
    · exact fun refused => attended.refused (old refused (by simp))
    · exact fun running exited => attended.serving running (old exited (by simp))

end Moves

theorem not_refused_of_mutexFree {state : State} (free : mutexFree state.threads = true) : .refused ∉ state.threads := by
  intro refused
  have holds := List.all_eq_true.mp free _ refused
  cases holds

theorem attended_step {loop : Loop} (sound : loop.Sound) {state next : State} {event : Event} (attended : Attended state)
    (stepped : step loop state event = some next) : Attended next := by
  cases event with
  | acquire thread =>
    simp only [step, Option.ite_none_right_eq_some] at stepped
    exact attended.goes (fun _ _ moved => goes_acquire moved) stepped.2
  | evaluate thread =>
    cases looks : state.predicate with
    | true =>
      rw [step, looks] at stepped
      exact attended.goes (fun _ _ moved => goes_admit moved) stepped
    | false =>
      rw [step, looks] at stepped
      have none : state.queued = 0 := by
        rw [State.predicate, Bool.or_eq_false_iff] at looks
        simpa using looks.2
      refine attended.empty none ?_ stepped
      intro _ before moved
      cases before <;> cases moved
  | block thread =>
    rw [step] at stepped
    obtain ⟨threads, acted, _⟩ := Option.map_eq_some_iff.mp stepped
    obtain ⟨before, updated, member, became, _⟩ := moveThread_eq_some acted
    have none : state.queued = 0 := by
      apply attended.refused
      cases before <;> cases became
      exact member
    refine attended.empty none ?_ stepped
    intro _ before moved
    cases before <;> cases moved
  | wakeSpuriously thread => exact attended.goes (fun _ _ moved => goes_wake moved) stepped
  | proceed thread => exact attended.proceed sound stepped
  | complete thread => exact attended.goes (fun _ _ moved => goes_completed moved) stepped
  | push =>
    simp only [step, Option.ite_none_right_eq_some, Option.some.injEq] at stepped
    obtain ⟨⟨free, mutex⟩, rfl⟩ := stepped
    refine ⟨?_, ?_, attended.serving, attended.manned⟩
    · intro asleep
      have waits := attended.asleep asleep
      rw [free] at waits
      exact Nat.succ_le_succ waits
    · exact fun refused => absurd refused (not_refused_of_mutexFree mutex)
  | notifyOne woken =>
    simp only [step, Option.ite_none_right_eq_some, Option.map_eq_some_iff] at stepped
    obtain ⟨notifying, threads, notified, rfl⟩ := stepped
    exact attended.notified notifying notified
  | exchangeRunning =>
    simp only [step, Option.ite_none_right_eq_some, Option.some.injEq] at stepped
    obtain ⟨free, rfl⟩ := stepped
    split
    next =>
      refine ⟨?_, attended.refused, (fun running => by cases running), (fun running => by cases running)⟩
      intro asleep
      have waits := attended.asleep asleep
      rwa [free] at waits
    next => exact attended
  | notifyAll =>
    simp only [step, Option.ite_none_right_eq_some, Option.some.injEq] at stepped
    obtain ⟨cleared, rfl⟩ := stepped
    have old {thread : Thread} (present : thread ∈ notifyAll state.threads) (apart : thread ≠ .woken) :
        thread ∈ state.threads := by
      obtain ⟨before, member, same⟩ := List.mem_map.mp present
      cases before with
      | blocked => exact absurd same.symm apart
      | entering | locked | refused | woken | admitted | outside => exact same ▸ member
    refine ⟨fun asleep => absurd asleep not_blocked_notifyAll, ?_, ?_, fun running => by simp [notifyAll, attended.manned running]⟩
    · exact fun refused => attended.refused (old refused (by simp))
    · exact fun running exited => attended.serving running (old exited (by simp))
  | join =>
    simp only [step, Option.ite_none_right_eq_some, Option.some.injEq] at stepped
    obtain ⟨⟨_, ended⟩, rfl⟩ := stepped
    obtain ⟨fewer, main, running⟩ := sound.keeps { state with main := .free }
    have exited {thread : Thread} (present : thread ∈ (loop.joined { state with main := .free }).threads) :
        thread = .outside .exited := eq_of_beq (List.all_eq_true.mp ended thread (fewer present))
    have stopped : state.running ≠ true := by
      intro serving
      obtain ⟨thread, member⟩ := List.exists_mem_of_ne_nil _ (attended.manned serving)
      exact attended.serving serving (eq_of_beq (List.all_eq_true.mp ended thread member) ▸ member)
    refine ⟨?_, ?_, ?_, fun serving => absurd (running.symm.trans serving) stopped⟩
    · intro asleep
      cases exited asleep
    · intro refused
      cases exited refused
    · exact fun serving => absurd (running.symm.trans serving) stopped

theorem attended_start (pool : Pool) : Attended pool.initial := by
  have entering : ∀ thread ∈ pool.initial.threads, thread = .entering := by
    cases pool with
    | connectionWorker => exact fun thread present => List.mem_singleton.mp present
    | hashing threads => exact fun thread present => List.eq_of_mem_replicate present
  refine ⟨?_, ?_, ?_, ?_⟩
  · intro asleep
    cases entering _ asleep
  · intro refused
    cases entering _ refused
  · intro _ exited
    cases entering _ exited
  · intro _
    cases pool with
    | connectionWorker => exact List.cons_ne_nil _ _
    | hashing threads =>
      simp only [Pool.initial, QueryEngine.startHashing, ne_eq, List.replicate_eq_nil_iff]
      split <;> omega

/-- What a thread does by itself. -/
def Event.own : Event → Bool
  | .acquire _ | .evaluate _ | .block _ | .proceed _ | .complete _ => true
  | .wakeSpuriously _ | .push | .notifyOne _ | .exchangeRunning | .notifyAll | .join => false

theorem moveThread_enabled {state : State} {index : Nat} {act : Thread → Option Thread} {thread : Thread}
    (found : state.threads[index]? = some thread) (able : (act thread).isSome) : (state.moveThread index act).isSome := by
  rw [State.moveThread, Option.isSome_map]
  exact moveThread_isSome found able

/-- While a job is queued and its notification is out, some thread can go on. -/
theorem Attended.progress {loop : Loop} (sound : loop.Sound) {state : State} (attended : Attended state)
    (running : state.running = true) (waiting : 0 < state.queued)
    (notified : state.main ≠ .notifying) : ∃ event, event.own = true ∧ (step loop state event).isSome := by
  have predicate : state.predicate = true := by
    simp [State.predicate, Nat.ne_of_gt waiting]
  have owed : state.main.owed = 0 := by
    cases main : state.main with
    | notifying => exact absurd main notified
    | free | cleared | joining => rfl
  by_cases free : mutexFree state.threads = true
  · obtain ⟨thread, member, goes⟩ : ∃ thread ∈ state.threads, thread ≠ .blocked := by
      by_contra asleep
      have all : ∀ thread ∈ state.threads, thread = .blocked :=
        fun thread member => by_contra fun other => asleep ⟨thread, member, other⟩
      obtain ⟨first, member⟩ := List.exists_mem_of_ne_nil _ (attended.manned running)
      have none : state.coming = 0 := by
        refine List.countP_eq_zero.mpr ?_
        intro thread present
        rw [all thread present]
        exact Bool.false_ne_true
      have attends := attended.asleep (all first member ▸ member)
      omega
    obtain ⟨index, found⟩ := List.mem_iff_getElem?.mp member
    have holds := List.all_eq_true.mp free thread member
    cases thread with
    | entering => exact ⟨.acquire index, rfl, by rw [step, if_pos free]; exact moveThread_enabled found rfl⟩
    | woken => exact ⟨.acquire index, rfl, by rw [step, if_pos free]; exact moveThread_enabled found rfl⟩
    | blocked => exact absurd rfl goes
    | outside place =>
      cases place with
      | executing => exact ⟨.complete index, rfl, moveThread_enabled found rfl⟩
      | exited => exact absurd member (attended.serving running)
    | locked | refused | admitted => cases holds
  · obtain ⟨thread, member, holds⟩ : ∃ thread ∈ state.threads, thread.holdsMutex = true := by
      simpa [mutexFree] using free
    obtain ⟨index, found⟩ := List.mem_iff_getElem?.mp member
    cases thread with
    | locked => exact ⟨.evaluate index, rfl, moveThread_enabled found rfl⟩
    | refused => exact absurd (attended.refused member) (Nat.ne_of_gt waiting)
    | admitted =>
      have takes : loop.decision state.running (state.queued == 0) = .take :=
        (sound.takes _ _).mpr (beq_eq_false_iff_ne.mpr (Nat.ne_of_gt waiting))
      refine ⟨.proceed index, rfl, ?_⟩
      rw [step, State.proceed, takes, Option.isSome_map]
      exact moveThread_enabled found rfl
    | entering | blocked | woken | outside => cases holds

/-- The worker of a connection and a hashing pool of any size: while a thread sleeps every queued job has a
thread of its own on the way, and a job that waits never waits on sleeping threads alone. -/
theorem no_job_sleeps (pool : Pool) {events : List Event} {state : State}
    (run : Run (Steps (step pool.loop)) pool.initial events state) :
    (.blocked ∈ state.threads → state.queued ≤ state.coming + state.main.owed) ∧
      (state.running = true → 0 < state.queued → state.main ≠ .notifying →
        ∃ event, event.own = true ∧ (step pool.loop state event).isSome) :=
  have attended : Attended state :=
    run.invariant (attended_start pool) (fun _ _ _ held stepped => attended_step pool.sound held stepped)
  ⟨attended.asleep, attended.progress pool.sound⟩

/-- Two threads sleep, and two jobs come in before either thread is up. -/
private def burst : List Event :=
  [.acquire 0, .evaluate 0, .block 0, .acquire 1, .evaluate 1, .block 1, .push, .notifyOne (some 1), .push]

theorem no_job_sleeps_burst : ∃ state, exec (step QueryEngine.hashLoop) (QueryEngine.startHashing 2) burst = some state ∧
    .blocked ∈ state.threads ∧ state.queued = 2 ∧ state.queued ≤ state.coming + state.main.owed :=
  have run : Run (Steps (step (Pool.hashing 2).loop)) (Pool.hashing 2).initial burst
      { running := true, queued := 2, threads := [.blocked, .woken], main := .notifying } := Run.of_exec rfl
  ⟨_, rfl, List.mem_cons_self, rfl, (no_job_sleeps (.hashing 2) run).1 List.mem_cons_self⟩

end OmpMySQL.Shutdown
