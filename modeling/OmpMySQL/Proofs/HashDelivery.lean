import OmpMySQL.HashPool
import OmpMySQL.Library.Custody
import OmpMySQL.Library.Transition

/-! Every job given to the hashing pool is in one place at a time, and comes back
with its own answer. -/

namespace OmpMySQL.HashPool
open Library

def Thread.hands : Thread → List Ticket
  | .holding ticket | .hashed ticket => [ticket]
  | .waiting | .exited => []

def State.hands (state : State) : List Ticket := state.threads.flatMap Thread.hands

/-- All the places a job can be in. -/
def State.places (state : State) : List Ticket := state.input ++ state.hands ++ state.output ++ state.drained

/-- The job that was enqueued, with the outcome of its own password. -/
structure Answers (argon2 : Argon2) (job done : HashJob) : Prop where
  callback : done.callback = job.callback
  args : done.args = job.args
  op : done.op = job.op
  hashed : job.op = .hash → ∃ salt : Salt, salt.length = 16 ∧ done.result = argon2.hashArgon2id job.password salt
  verified : job.op = .verify → done.verified = argon2.verify job.password job.hash

structure Delivered (argon2 : Argon2) (state : State) : Prop where
  once : ∀ serial < state.enqueued.length, tally Ticket.serial serial state.places = 1
  known : ∀ ticket ∈ state.places, ticket.serial < state.enqueued.length
  drained : (state.drained.map Ticket.serial).Nodup
  emptied : state.main = .stopped → state.input = []
  answered : ∀ ticket ∈ state.drained,
    ∃ job, state.enqueued[ticket.serial]? = some job ∧ Answers argon2 job ticket.job

/-- What each event finds and leaves. -/
inductive Moved (argon2 : Argon2) (state : State) : Event → State → Prop where
  | enqueueHash {job} : state.main = .free →
      Moved argon2 state (.enqueueHash job)
        { state with
          input := state.input ++ [{ serial := state.enqueued.length, job }], enqueued := state.enqueued ++ [job] }
  | drainHashes : state.main = .free →
      Moved argon2 state .drainHashes { state with drained := state.drained ++ state.output, output := [] }
  | stopHashing : state.main = .free → state.running = true →
      Moved argon2 state .stopHashing { state with running := false, main := .joining }
  | neverStarted : state.main = .free → state.running = false →
      Moved argon2 state .stopHashing { state with main := .stopped }
  | join : state.main = .joining → (∀ thread ∈ state.threads, thread = .exited) →
      Moved argon2 state .join { state with threads := [], main := .stopped }
  | take {index ticket rest} : state.threads[index]? = some .waiting → state.input = ticket :: rest →
      Moved argon2 state (.take index)
        { state with threads := state.threads.set index (.holding ticket), input := rest }
  | perform {index ticket salt} : state.threads[index]? = some (.holding ticket) → salt.length = 16 →
      Moved argon2 state (.perform index salt)
        { state with
          threads := state.threads.set index (.hashed { ticket with job := HashPool.perform argon2 salt ticket.job }) }
  | deliver {index ticket} : state.threads[index]? = some (.hashed ticket) →
      Moved argon2 state (.deliver index)
        { state with threads := state.threads.set index .waiting, output := state.output ++ [ticket] }
  | exit {index} : state.threads[index]? = some .waiting → state.running = false → state.input = [] →
      Moved argon2 state (.exit index) { state with threads := state.threads.set index .exited }

variable {argon2 : Argon2} {state after : State} {event : Event}

theorem step_moved (stepped : step argon2 state event = some after) : Moved argon2 state event after := by
  cases event with
  | enqueueHash job =>
    simp only [step, Option.ite_none_right_eq_some, Option.some.injEq] at stepped
    obtain ⟨free, rfl⟩ := stepped
    exact .enqueueHash free
  | drainHashes =>
    simp only [step, Option.ite_none_right_eq_some, Option.some.injEq] at stepped
    obtain ⟨free, rfl⟩ := stepped
    exact .drainHashes free
  | stopHashing =>
    simp only [step, Option.ite_none_right_eq_some, Option.some.injEq] at stepped
    obtain ⟨free, rfl⟩ := stepped
    cases running : state.running with
    | true => simpa only [running, if_true] using Moved.stopHashing free running
    | false => simpa only [running, Bool.false_eq_true, if_false] using Moved.neverStarted free running
  | join =>
    simp only [step, Option.ite_none_right_eq_some, Option.some.injEq, List.all_eq_true, beq_iff_eq] at stepped
    obtain ⟨⟨joining, exited⟩, rfl⟩ := stepped
    exact .join joining exited
  | take index =>
    simp only [step] at stepped
    split at stepped
    next waiting input =>
      cases stepped
      exact .take waiting input
    next => cases stepped
  | perform index salt =>
    simp only [step] at stepped
    split at stepped
    next ticket holding =>
      simp only [Option.ite_none_right_eq_some, Option.some.injEq] at stepped
      obtain ⟨drawn, rfl⟩ := stepped
      exact .perform holding drawn
    next => cases stepped
  | deliver index =>
    simp only [step] at stepped
    split at stepped
    next ticket hashed =>
      cases stepped
      exact .deliver hashed
    next => cases stepped
  | exit index =>
    simp only [step, Option.ite_none_right_eq_some, Option.some.injEq] at stepped
    obtain ⟨⟨waiting, stopped, empty⟩, rfl⟩ := stepped
    exact .exit waiting stopped empty

/-- Each serial given out is in the pool once, and no other is. -/
def Conserved (state : State) : Prop :=
  ∀ serial, tally Ticket.serial serial state.places = if serial < state.enqueued.length then 1 else 0

def Unchanged (enqueued : List HashJob) (ticket : Ticket) : Prop := enqueued[ticket.serial]? = some ticket.job

def Answered (argon2 : Argon2) (enqueued : List HashJob) (ticket : Ticket) : Prop :=
  ∃ job, enqueued[ticket.serial]? = some job ∧ Answers argon2 job ticket.job

/-- Where each job stands with respect to the one that was enqueued. -/
structure Loyal (argon2 : Argon2) (state : State) : Prop where
  input : ∀ ticket ∈ state.input, Unchanged state.enqueued ticket
  holding : ∀ ticket, .holding ticket ∈ state.threads → Unchanged state.enqueued ticket
  hashed : ∀ ticket, .hashed ticket ∈ state.threads → Answered argon2 state.enqueued ticket
  output : ∀ ticket ∈ state.output, Answered argon2 state.enqueued ticket
  drained : ∀ ticket ∈ state.drained, Answered argon2 state.enqueued ticket

/-- No thread leaves a job behind, and there is one to leave last. -/
structure Emptying (state : State) : Prop where
  running : state.main = .free → state.running = true
  staffed : state.main ≠ .stopped → state.threads ≠ []
  left : .exited ∈ state.threads → state.running = false ∧ state.input = []
  stopped : state.main = .stopped → state.input = []

theorem conserved_step (conserved : Conserved state) (moved : Moved argon2 state event after) : Conserved after := by
  intro serial
  have before := conserved serial
  simp only [State.places, State.hands, tally_append] at before ⊢
  cases moved with
  | enqueueHash free =>
    simp only [tally_append, tally_singleton, List.length_append, List.length_singleton]
    split <;> split at before <;> split <;> omega
  | drainHashes free =>
    simp only [tally_append, tally_nil]
    omega
  | stopHashing | neverStarted => exact before
  | join joining exited =>
    have idle : tally Ticket.serial serial (state.threads.flatMap Thread.hands) = 0 := by
      have none : state.threads.flatMap Thread.hands = [] := by
        apply List.flatMap_eq_nil_iff.mpr
        intro thread present
        rw [exited thread present]
        rfl
      rw [none, tally_nil]
    simp only [List.flatMap_nil, tally_nil]
    omega
  | take waiting input =>
    rename_i index ticket rest
    have swapped := tally_flatMap_set Ticket.serial serial waiting (.holding ticket) Thread.hands
    rw [input, tally_cons] at before
    simp only [Thread.hands, tally_nil] at swapped
    dsimp only
    omega
  | perform holding drawn =>
    rename_i index ticket salt
    have swapped := tally_flatMap_set Ticket.serial serial holding
      (.hashed { ticket with job := HashPool.perform argon2 salt ticket.job }) Thread.hands
    simp only [Thread.hands, tally_singleton] at swapped
    dsimp only
    omega
  | deliver hashed =>
    have swapped := tally_flatMap_set Ticket.serial serial hashed .waiting Thread.hands
    simp only [Thread.hands, tally_nil] at swapped
    simp only [tally_append]
    omega
  | exit waiting stopped empty =>
    have swapped := tally_flatMap_set Ticket.serial serial waiting .exited Thread.hands
    simp only [Thread.hands, tally_nil] at swapped
    dsimp only
    omega

theorem Unchanged.grow {enqueued : List HashJob} {ticket : Ticket} (unchanged : Unchanged enqueued ticket)
    (job : HashJob) : Unchanged (enqueued ++ [job]) ticket :=
  (List.getElem?_append_left (List.getElem?_eq_some_iff.mp unchanged).1).trans unchanged

theorem Answered.grow {enqueued : List HashJob} {ticket : Ticket} (answered : Answered argon2 enqueued ticket)
    (job : HashJob) : Answered argon2 (enqueued ++ [job]) ticket := by
  obtain ⟨original, found, answers⟩ := answered
  have inside := (List.getElem?_eq_some_iff.mp found).1
  exact ⟨original, (List.getElem?_append_left inside).trans found, answers⟩

theorem perform_answers {salt : Salt} (drawn : salt.length = 16) (job : HashJob) :
    Answers argon2 job (perform argon2 salt job) := by
  have kept : (perform argon2 salt job).callback = job.callback ∧ (perform argon2 salt job).args = job.args ∧
      (perform argon2 salt job).op = job.op := by
    cases op : job.op <;> simp [perform, op]
  refine ⟨kept.1, kept.2.1, kept.2.2, ?_, ?_⟩
  · intro op
    exact ⟨salt, drawn, by simp only [perform, op]⟩
  · intro op
    simp only [perform, op]

/-- One thread has something else in its hands. -/
theorem Loyal.hands (loyal : Loyal argon2 state) (index : Nat) (thread : Thread)
    (holding : ∀ ticket, thread = .holding ticket → Unchanged state.enqueued ticket)
    (hashed : ∀ ticket, thread = .hashed ticket → Answered argon2 state.enqueued ticket) :
    (∀ ticket, .holding ticket ∈ state.threads.set index thread → Unchanged state.enqueued ticket) ∧
      ∀ ticket, .hashed ticket ∈ state.threads.set index thread → Answered argon2 state.enqueued ticket := by
  constructor
  · intro ticket held
    rcases List.mem_or_eq_of_mem_set held with old | new
    · exact loyal.holding ticket old
    · exact holding ticket new.symm
  · intro ticket held
    rcases List.mem_or_eq_of_mem_set held with old | new
    · exact loyal.hashed ticket old
    · exact hashed ticket new.symm

theorem loyal_step (loyal : Loyal argon2 state) (moved : Moved argon2 state event after) : Loyal argon2 after := by
  cases moved with
  | @enqueueHash job free =>
    refine ⟨?_, fun ticket held => (loyal.holding ticket held).grow job,
      fun ticket held => (loyal.hashed ticket held).grow job, fun ticket present => (loyal.output ticket present).grow job,
      fun ticket present => (loyal.drained ticket present).grow job⟩
    intro ticket present
    rcases List.mem_append.mp present with old | new
    · exact (loyal.input ticket old).grow job
    · rw [List.mem_singleton.mp new]
      exact List.getElem?_concat_length
  | drainHashes free =>
    refine ⟨loyal.input, loyal.holding, loyal.hashed, nofun, ?_⟩
    intro ticket present
    rcases List.mem_append.mp present with old | new
    · exact loyal.drained ticket old
    · exact loyal.output ticket new
  | stopHashing | neverStarted => exact ⟨loyal.input, loyal.holding, loyal.hashed, loyal.output, loyal.drained⟩
  | join => exact ⟨loyal.input, nofun, nofun, loyal.output, loyal.drained⟩
  | @take index ticket rest waiting input =>
    have taken := loyal.input ticket (input ▸ List.mem_cons_self)
    have own : ∀ other, Thread.holding ticket = .holding other → Unchanged state.enqueued other := by
      intro other same
      cases same
      exact taken
    obtain ⟨holding, hashed⟩ := loyal.hands index (.holding ticket) own nofun
    exact ⟨fun other present => loyal.input other (input ▸ List.mem_cons_of_mem _ present), holding, hashed,
      loyal.output, loyal.drained⟩
  | @perform index ticket salt holding drawn =>
    have taken := loyal.holding ticket (List.mem_of_getElem? holding)
    have own : ∀ other, Thread.hashed { ticket with job := HashPool.perform argon2 salt ticket.job } = .hashed other →
        Answered argon2 state.enqueued other := by
      intro other same
      cases same
      exact ⟨ticket.job, taken, perform_answers drawn ticket.job⟩
    obtain ⟨holding, hashed⟩ :=
      loyal.hands index (.hashed { ticket with job := HashPool.perform argon2 salt ticket.job }) nofun own
    exact ⟨loyal.input, holding, hashed, loyal.output, loyal.drained⟩
  | @deliver index ticket done =>
    obtain ⟨holding, hashed⟩ := loyal.hands index .waiting nofun nofun
    refine ⟨loyal.input, holding, hashed, ?_, loyal.drained⟩
    intro other present
    rcases List.mem_append.mp present with old | new
    · exact loyal.output other old
    · rw [List.mem_singleton.mp new]
      exact loyal.hashed ticket (List.mem_of_getElem? done)
  | @exit index =>
    obtain ⟨holding, hashed⟩ := loyal.hands index .exited nofun nofun
    exact ⟨loyal.input, holding, hashed, loyal.output, loyal.drained⟩

theorem emptying_step (emptying : Emptying state) (moved : Moved argon2 state event after) : Emptying after := by
  -- A change of hands that is no exit keeps both the crew and those that left.
  have crew {index : Nat} {before : Thread} (found : state.threads[index]? = some before) (main : state.main ≠ .stopped)
      (thread : Thread) : state.threads.set index thread ≠ [] := by
    intro none
    exact emptying.staffed main ((List.set_eq_nil_iff _ _).mp none)
  have leaving (index : Nat) (thread : Thread) (stays : thread ≠ .exited)
      (left : .exited ∈ state.threads.set index thread) : .exited ∈ state.threads :=
    (List.mem_or_eq_of_mem_set left).resolve_right (fun same => stays same.symm)
  cases moved with
  | enqueueHash free =>
    refine ⟨emptying.running, emptying.staffed, ?_, fun stopped => ?_⟩
    · intro left
      have stopped := (emptying.left left).1
      rw [emptying.running free] at stopped
      cases stopped
    · rw [free] at stopped
      cases stopped
  | drainHashes free => exact ⟨emptying.running, emptying.staffed, emptying.left, emptying.stopped⟩
  | stopHashing free running =>
    refine ⟨nofun, fun _ => emptying.staffed (by simp [free]), ?_, nofun⟩
    intro left
    exact ⟨rfl, (emptying.left left).2⟩
  | neverStarted free halted =>
    rw [emptying.running free] at halted
    cases halted
  | join joining exited =>
    refine ⟨nofun, fun ongoing => absurd rfl ongoing, nofun, fun _ => ?_⟩
    obtain ⟨thread, present⟩ := List.exists_mem_of_ne_nil _ (emptying.staffed (by simp [joining]))
    have last := exited thread present
    exact (emptying.left (last ▸ present)).2
  | take waiting input =>
    refine ⟨emptying.running, fun main => crew waiting main _, ?_, ?_⟩
    · intro left
      have none := (emptying.left (leaving _ (.holding _) nofun left)).2
      rw [input] at none
      cases none
    · intro stopped
      have none := emptying.stopped stopped
      rw [input] at none
      cases none
  | perform holding drawn =>
    exact ⟨emptying.running, fun main => crew holding main _,
      fun left => emptying.left (leaving _ (.hashed _) nofun left), emptying.stopped⟩
  | deliver hashed =>
    exact ⟨emptying.running, fun main => crew hashed main _,
      fun left => emptying.left (leaving _ .waiting nofun left), emptying.stopped⟩
  | exit waiting stopped empty =>
    exact ⟨emptying.running, fun main => crew waiting main _, fun _ => ⟨stopped, empty⟩, fun _ => empty⟩

section Start
variable (threads : Nat)

theorem conserved_start : Conserved (State.startHashing {} threads) := by
  intro serial
  have idle : (State.startHashing {} threads).places = [] := by
    simp [State.places, State.hands, State.startHashing, Thread.hands]
  rw [idle]
  rfl

theorem loyal_start : Loyal argon2 (State.startHashing {} threads) where
  input := nofun
  holding _ held := nomatch List.eq_of_mem_replicate held
  hashed _ held := nomatch List.eq_of_mem_replicate held
  output := nofun
  drained := nofun

theorem emptying_start : Emptying (State.startHashing {} threads) where
  running _ := rfl
  staffed _ none := by
    have length := congrArg List.length none
    simp only [State.startHashing, Bool.false_eq_true, if_false, List.length_replicate, List.length_nil] at length
    split at length <;> omega
  left held := nomatch List.eq_of_mem_replicate held
  stopped := nofun

end Start

/-- However the threads take turns, a job is in one place at a time, is drained once
at most, and comes back as it went in, with the outcome of its own password. -/
theorem hash_delivery {threads : Nat} {events : List Event}
    (run : Run (Steps (step argon2)) (State.startHashing {} threads) events state) : Delivered argon2 state := by
  have conserved : Conserved state := run.invariant (conserved_start threads)
    (fun _ _ _ held stepped => conserved_step held (step_moved stepped))
  have loyal : Loyal argon2 state := run.invariant (loyal_start threads)
    (fun _ _ _ held stepped => loyal_step held (step_moved stepped))
  have emptying : Emptying state := run.invariant (emptying_start threads)
    (fun _ _ _ held stepped => emptying_step held (step_moved stepped))
  refine ⟨?_, ?_, ?_, emptying.stopped, loyal.drained⟩
  · intro serial issued
    rw [conserved serial, if_pos issued]
  · intro ticket present
    have counted : 0 < tally Ticket.serial ticket.serial state.places :=
      List.count_pos_iff.mpr (List.mem_map_of_mem present)
    rw [conserved] at counted
    by_contra unissued
    rw [if_neg unissued] at counted
    exact Nat.lt_irrefl 0 counted
  · apply nodup_of_tally
    intro serial
    have total := conserved serial
    simp only [State.places, tally_append] at total
    split at total <;> omega

section Verified

/-- A hash that shows what it was made of. -/
private def shown : Argon2 where
  hashEncoded _ password salt := some ("$argon2id$" ++ password ++ toString salt.length)
  verifyAs encoded password variant := variant == .argon2id && encoded == "$argon2id$" ++ password ++ "16"

private def salt : Salt := List.replicate 16 0

/-- Two threads finish a hash and two verifications out of order; the second pair of
results stays undrained when the pool stops. -/
private def verifying : List Event :=
  [.enqueueHash { password := "a", callback := "OnHashed" },
    .enqueueHash { op := .verify, password := "b", hash := "$argon2id$b16", callback := "OnVerified" },
    .take 1, .take 0, .perform 0 salt, .deliver 0, .drainHashes,
    .enqueueHash { op := .verify, password := "c", hash := "$argon2id$b16", callback := "OnVerified" }, .stopHashing,
    .perform 1 salt, .deliver 1, .take 1, .exit 0, .perform 1 salt, .deliver 1, .exit 1, .join]

theorem hash_delivery_verified : ∃ state, exec (step shown) (State.startHashing {} 2) verifying = some state ∧
    Delivered shown state := by
  have executes : (exec (step shown) (State.startHashing {} 2) verifying).isSome := by decide
  obtain ⟨state, done⟩ := Option.isSome_iff_exists.mp executes
  exact ⟨state, done, hash_delivery (Run.of_exec done)⟩

end Verified
end OmpMySQL.HashPool
