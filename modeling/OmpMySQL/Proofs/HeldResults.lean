import OmpMySQL.Proofs.ConfinedRows

/-! The results that wait: those in the sink, those a tick has taken from it, and those whose
audit hook runs. Nothing comes among them but what a worker has performed. -/

namespace OmpMySQL.MainThread
open Library

/-- The job whose audit hook a public is. -/
def Activation.held (activation : Activation) : List QueryJob :=
  match activation.waiting with
  | .dispatch _ resumption _ => resumption.jobs
  | .server | .hash | .reject => []

/-- The jobs whose results have not been written into variables yet. -/
def State.unwritten (state : State) : List QueryJob :=
  state.completed ++ state.jobs ++ state.stack.flatMap Activation.held

section Steps
variable {host : Host} {state after : State} {event : Event}

theorem proceed_unwritten (state : State) (serial : Nat) (caller : Caller) (progress : Progress) :
    (state.proceed serial caller progress).unwritten =
      state.completed ++ state.jobs ++ (progress.jobs ++ state.stack.flatMap Activation.held) := by
  cases progress with
  | returned => cases caller <;> rfl
  | calling component call resumption => cases resumption <;> rfl

/-- A dispatch that begins holds no other job up. -/
theorem dispatch_unwritten (state : State) {job held : QueryJob} {caller : Caller}
    (present : held ∈ (state.dispatch host job caller).unwritten) : held = job ∨ held ∈ state.unwritten := by
  rw [State.dispatch, proceed_unwritten] at present
  rcases List.mem_append.mp present with before | inside
  · exact Or.inr (List.mem_append_left _ before)
  · rcases List.mem_append.mp inside with new | old
    · exact Or.inl (begin_jobs host.strtof _ job held new)
    · exact Or.inr (List.mem_append_right _ old)

theorem leave_unwritten {activation : Activation} {stack : List Activation} (running : state.stack = activation :: stack)
    {held : QueryJob} (present : held ∈ (state.leave host activation stack).unwritten) : held ∈ state.unwritten := by
  have popped {held : QueryJob} (inside : held ∈ state.completed ++ state.jobs ++ stack.flatMap Activation.held) :
      held ∈ state.unwritten := by
    rcases List.mem_append.mp inside with before | old
    · exact List.mem_append_left _ before
    · apply List.mem_append_right
      rw [running]
      rw [List.flatMap_cons]
      exact List.mem_append_right _ old
  rw [State.leave] at present
  split at present
  next => exact popped present
  next => exact popped present
  next => exact popped present
  next =>
    rw [proceed_unwritten, resume_jobs] at present
    exact popped present

theorem syncJob_op {native : SubmitNative} {job : QueryJob} (own : native.syncJob = some job) : job.modelOp = 0 := by
  cases native with
  | executeSync =>
    cases own
    rfl
  | executeFileSync =>
    obtain ⟨sql, _, rfl⟩ := Option.map_eq_some_iff.mp own
    rfl
  | execute | executeFor | executeFile | stmtExecute | modelFind | modelInsert | modelUpdate | modelDelete | modelSave =>
    cases own

/-- Only a worker adds to the results that models and callbacks wait for. -/
theorem unwritten_move (moved : Moves host state event after) {held : QueryJob} (present : held ∈ after.unwritten)
    (asked : held.modelOp ≠ 0 ∨ held.callback ≠ "") :
    held ∈ state.unwritten ∨
      ∃ handle performance job, event = .perform handle performance ∧
        state.sent.find? (·.connectionHandle = handle) = some job ∧ held = job.complete (performance.outcome job) := by
  cases moved with
  | hash | players | scripts | run | silentHash | nextHash | lastHash | reset | unheard => exact Or.inl present
  | @perform handle performance job oldest =>
    simp only [State.unwritten, List.append_assoc, List.mem_append, List.mem_singleton] at present ⊢
    rcases present with before | rfl | rest
    · exact Or.inl (Or.inl before)
    · exact Or.inr ⟨handle, performance, job, rfl, oldest, rfl⟩
    · exact Or.inl (Or.inr rest)
  | tick =>
    simp only [State.unwritten, List.nil_append, List.mem_append] at present ⊢
    rcases present with before | rest
    · exact Or.inl (Or.inl (Or.inl before))
    · exact Or.inl (Or.inr rest)
  | @nextJob job jobs idle phase queue =>
    left
    have waits : ∀ other ∈ job :: jobs, other ∈ state.unwritten := fun other inside =>
      List.mem_append_left _ (List.mem_append_right _ (queue ▸ inside))
    rcases dispatch_unwritten _ present with rfl | rest
    · exact waits _ List.mem_cons_self
    · simp only [State.unwritten, List.mem_append] at rest
      rcases rest with (before | later) | held
      · exact List.mem_append_left _ (List.mem_append_left _ before)
      · exact waits _ (List.mem_cons_of_mem _ later)
      · exact List.mem_append_right _ held
  | lastJob idle phase queue => exact Or.inl present
  | act acted =>
    obtain ⟨_, _, _, _, _, same⟩ := State.act_frame acted
    rw [same] at present
    exact Or.inl present
  | @synced native pending now performance registry job useCache inside own =>
    rcases dispatch_unwritten _ present with rfl | rest
    · have unmodelled : job.modelOp = 0 := syncJob_op own
      have anonymous : job.callback = "" := (SubmitNative.syncJob_plain own).1
      exact asked.elim (absurd unmodelled) (absurd anonymous)
    · exact Or.inl rest
  | syncRejected =>
    rcases dispatch_unwritten _ present with rfl | rest
    · exact asked.elim (absurd rfl) (absurd rfl)
    · exact Or.inl rest
  | @submitted native pending now performance amx submission =>
    left
    rw [State.submitted] at present
    split at present
    next => exact present
    next => exact present
  | leave running => exact Or.inl (leave_unwritten running present)

end Steps
end OmpMySQL.MainThread
