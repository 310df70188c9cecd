import OmpMySQL.Proofs.NestedUpcalls
import OmpMySQL.Proofs.ResultBounds

/-! What scripts can read while upcalls nest. A query made inside a callback takes the
place of the rows the callback was called with, and nothing else does. -/

namespace OmpMySQL

/-- Whatever result a job carries is a whole one. -/
def QueryJob.Whole (job : QueryJob) : Prop := ∀ result, job.result = some result → result.Buffered

namespace MainThread
open Library ResultCache

def Caller.jobs : Caller → List QueryJob
  | .sync done _ => [done]
  | .tick | .syncReject => []

def Waiting.jobs : Waiting → List QueryJob
  | .dispatch _ resumption caller => resumption.jobs ++ caller.jobs
  | .server | .hash | .reject => []

/-- The jobs whose results may still be shown. -/
def State.carried (state : State) : List QueryJob :=
  state.completed ++ state.jobs ++ state.stack.flatMap (·.waiting.jobs)

section Carried
variable {state : State} {job : QueryJob}

theorem carried_upcall {call : Invocation} {waiting : Waiting} (inside : job ∈ (state.upcall call waiting).carried) :
    job ∈ waiting.jobs ∨ job ∈ state.carried := by
  simp only [State.carried, State.upcall, State.setComponent, List.flatMap_cons, List.mem_append] at inside ⊢
  rcases inside with before | new | older
  · exact Or.inr (Or.inl before)
  · exact Or.inl new
  · exact Or.inr (Or.inr older)

theorem carried_running {activation : Activation} {stack : List Activation} (running : state.stack = activation :: stack)
    (waits : job ∈ activation.waiting.jobs) : job ∈ state.carried := by
  simp only [State.carried, running, List.flatMap_cons, List.mem_append, waits, true_or, or_true]

theorem carried_pop {activation : Activation} {stack : List Activation} (running : state.stack = activation :: stack)
    (inside : job ∈ (state.pop activation stack).carried) : job ∈ state.carried := by
  simp only [State.carried, State.pop, State.setComponent, running, List.flatMap_cons, List.mem_append] at inside ⊢
  rcases inside with before | older
  · exact Or.inl before
  · exact Or.inr (Or.inr older)

theorem carried_perform {sent : List QueryJob} {done : QueryJob}
    (inside : job ∈ ({ state with sent, completed := state.completed ++ [done] } : State).carried) :
    job = done ∨ job ∈ state.carried := by
  simp only [State.carried, List.mem_append, List.mem_singleton] at inside ⊢
  rcases inside with ((before | rfl) | taken) | held
  · exact Or.inr (Or.inl (Or.inl before))
  · exact Or.inl rfl
  · exact Or.inr (Or.inl (Or.inr taken))
  · exact Or.inr (Or.inr held)

theorem carried_tick {phase : Phase}
    (inside : job ∈ ({ state with phase, jobs := state.completed, completed := [] } : State).carried) :
    job ∈ state.carried := by
  simp only [State.carried, List.nil_append, List.mem_append] at inside ⊢
  rcases inside with completed | held
  · exact Or.inl (Or.inl completed)
  · exact Or.inr held

theorem carried_next {next : QueryJob} {jobs : List QueryJob} (queue : state.jobs = next :: jobs)
    (inside : job = next ∨ job ∈ ({ state with jobs } : State).carried) : job ∈ state.carried := by
  simp only [State.carried, queue, List.mem_append, List.mem_cons] at inside ⊢
  rcases inside with here | (completed | later) | held
  · exact Or.inl (Or.inr (Or.inl here))
  · exact Or.inl (Or.inl completed)
  · exact Or.inl (Or.inr (Or.inr later))
  · exact Or.inr held

end Carried

structure Sound (state : State) : Prop where
  steady : Steady state.cache
  whole : ∀ job ∈ state.carried, job.Whole

theorem steady_of_same {cache : ResultCache} (steady : Steady cache) {component : Component}
    (active : component.activeCache = cache.component.activeCache)
    (index : component.activeResultIndex = cache.component.activeResultIndex) : Steady { cache with component } where
  buffered result held := by
    rcases held with shown | saved
    · exact steady.buffered result (Or.inl (active.symm.trans shown))
    · exact steady.buffered result (Or.inr saved)
  selected result shown := by
    rw [index]
    exact steady.selected result (active.symm.trans shown)

theorem steady_writeBack {cache : ResultCache} (steady : Steady cache) (strtof : String → Cell) (job : QueryJob) :
    Steady { cache with component := cache.component.writeBack strtof job } := by
  rw [Component.writeBack]
  split
  next =>
    rcases cache.component.applyModelResult_forms strtof job with ⟨_, same⟩ | ⟨m, memory, error, _, same⟩
    · rw [same]
      exact steady
    · rw [same]
      exact steady_of_same steady rfl rfl
  next => exact steady

theorem steady_rest {cache : ResultCache} (steady : Steady cache) {job : QueryJob} (whole : job.Whole) {script : Nat}
    {progress : Progress} (rest : cache.component.Rest job script progress) :
    Steady { cache with component := progress.component } ∧ progress.jobs = [] := by
  cases rest with
  | returned | reported => exact ⟨steady, rfl⟩
  | calledBack =>
    refine ⟨?_, rfl⟩
    simp only [Progress.component, Component.shownTo]
    split
    next => exact steady
    next result kept => exact steady.show (whole result kept)

theorem steady_begin {cache : ResultCache} (steady : Steady cache) (strtof : String → Cell) {job : QueryJob}
    (whole : job.Whole) :
    Steady { cache with component := (cache.component.beginDispatch strtof job).component } ∧
      ∀ other ∈ (cache.component.beginDispatch strtof job).jobs, other.Whole := by
  have start := cache.component.beginDispatch_start strtof job
  generalize cache.component.beginDispatch strtof job = progress at start
  cases start with
  | unresolved => exact ⟨steady, fun _ none => absurd none List.not_mem_nil⟩
  | audited =>
    refine ⟨steady, ?_⟩
    intro other carried
    rw [List.mem_singleton.mp carried]
    exact whole
  | unaudited _ _ rest =>
    obtain ⟨shown, none⟩ := steady_rest (steady_writeBack steady strtof job) whole rest
    rw [none]
    exact ⟨shown, fun _ none => absurd none List.not_mem_nil⟩

theorem steady_resume {cache : ResultCache} (steady : Steady cache) (strtof : String → Cell) {resumption : Resumption}
    (whole : ∀ job ∈ resumption.jobs, job.Whole) :
    Steady { cache with component := (cache.component.resumeDispatch strtof resumption).component } ∧
      (cache.component.resumeDispatch strtof resumption).jobs = [] := by
  cases resumption with
  | audited job script =>
    exact steady_rest (steady_writeBack steady strtof job) (whole job List.mem_cons_self)
      (cache.component.afterAudit_rest strtof job script)
  | reported => exact ⟨steady, rfl⟩
  | calledBack => exact ⟨steady.hide, rfl⟩

section Steps
variable {host : Host} {state : State}

theorem Sound.of_same (sound : Sound state) {after : State} (steady : Steady after.cache)
    (carried : ∀ job ∈ after.carried, job ∈ state.carried) : Sound after :=
  ⟨steady, fun job inside => sound.whole job (carried job inside)⟩

theorem Sound.upcall (sound : Sound state) (call : Invocation) {waiting : Waiting}
    (whole : ∀ job ∈ waiting.jobs, job.Whole) : Sound (state.upcall call waiting) where
  steady := steady_of_same sound.steady rfl rfl
  whole job inside := (carried_upcall inside).elim (whole job) (sound.whole job)

theorem Sound.proceed (sound : Sound state) {progress : Progress}
    (steady : Steady { state.cache with component := progress.component }) (whole : ∀ job ∈ progress.jobs, job.Whole)
    {caller : Caller} (waits : ∀ job ∈ caller.jobs, job.Whole) (serial : Nat) :
    Sound (state.proceed serial caller progress) := by
  cases progress with
  | returned component =>
    cases caller with
    | tick | syncReject => exact sound.of_same steady (fun _ inside => inside)
    | sync done useCache =>
      exact sound.of_same (steady.syncQuery (waits done List.mem_cons_self) useCache) (fun _ inside => inside)
  | calling component call resumption =>
    have shown : Sound (state.setComponent component) := sound.of_same steady (fun _ inside => inside)
    have kept : ∀ job ∈ (Waiting.dispatch serial resumption caller).jobs, job.Whole := by
      intro job inside
      rcases List.mem_append.mp inside with own | outer
      · exact whole job own
      · exact waits job outer
    have called := shown.upcall call kept
    exact called.of_same called.steady (fun _ inside => inside)

theorem Sound.dispatch (sound : Sound state) {job : QueryJob} (whole : job.Whole) {caller : Caller}
    (waits : ∀ job ∈ caller.jobs, job.Whole) : Sound (state.dispatch host job caller) := by
  obtain ⟨steady, carried⟩ := steady_begin sound.steady host.strtof whole
  have begun : Sound (state.begun job) := sound.of_same sound.steady (fun _ inside => inside)
  exact begun.proceed steady carried waits _

theorem Sound.leave (sound : Sound state) {activation : Activation} {stack : List Activation}
    (running : state.stack = activation :: stack) : Sound (state.leave host activation stack) := by
  have inner : ∀ job ∈ activation.waiting.jobs, job.Whole :=
    fun job waits => sound.whole job (carried_running running waits)
  have popped : Sound (state.pop activation stack) :=
    sound.of_same (steady_of_same sound.steady rfl rfl) (fun _ inside => carried_pop running inside)
  rw [State.leave]
  split
  next => exact popped
  next => exact popped
  next => exact popped
  next serial resumption caller waits =>
    rw [waits] at inner
    obtain ⟨steady, none⟩ := steady_resume popped.steady host.strtof
      (fun job own => inner job (List.mem_append_left _ own))
    refine popped.proceed steady ?_ (fun job outer => inner job (List.mem_append_right _ outer)) serial
    intro job carried
    rw [none] at carried
    cases carried

theorem steady_acts {cache after : ResultCache} (steady : Steady cache) {action : Action}
    (acts : ActsOn cache action after) : Steady after := by
  cases acts with
  | other _ active index => exact steady_of_same steady active index
  | retain => exact steady.saveActiveCache
  | release cacheId => exact steady.deleteSavedCache cacheId
  | activate cacheId => exact steady.activateSavedCache cacheId
  | deactivate => exact steady.hide
  | selectSet index => exact steady.setActiveResultIndex index

theorem Sound.submitted (sound : Sound state) {amx : AMX} {submission : Submission}
    (leaves : state.server.Leaves amx submission.server.component submission.calls) :
    Sound (state.submitted submission) := by
  have accepted : Sound (state.accept submission) := by
    refine sound.of_same (steady_of_same sound.steady ?_ ?_) (fun _ inside => inside)
    · exact leaves.reads.1
    · exact leaves.reads.2
  rw [State.submitted]
  split
  next => exact accepted
  next call _ _ => exact accepted.upcall call (fun _ none => absurd none List.not_mem_nil)

theorem rejectedJob_whole (handle : Int) (sql : String) (reason : GuardReject) :
    (Component.rejectedJob handle sql reason).Whole := by
  intro result kept
  cases kept

theorem sound_move {event : Event} {after : State} (sound : Sound state) (moved : Moves host state event after) :
    Sound after := by
  have unchanged : ∀ job ∈ state.carried, job ∈ state.carried := fun _ inside => inside
  cases moved with
  | @perform _ performance job oldest =>
    refine ⟨sound.steady, ?_⟩
    intro other inside
    rcases carried_perform inside with rfl | kept
    · exact fun result => performed_buffered
    · exact sound.whole other kept
  | hash | lastHash | silentHash | unheard => exact sound.of_same sound.steady unchanged
  | players | scripts => exact sound.of_same (steady_of_same sound.steady rfl rfl) unchanged
  | run => exact sound.of_same sound.steady unchanged
  | tick free => exact sound.of_same sound.steady (fun _ inside => carried_tick inside)
  | @nextJob job jobs _ _ queue =>
    have taken : Sound { state with jobs } :=
      sound.of_same sound.steady (fun _ inside => carried_next queue (Or.inr inside))
    have whole : job.Whole := sound.whole job (carried_next queue (Or.inl rfl))
    exact taken.dispatch whole (fun _ none => absurd none List.not_mem_nil)
  | lastJob => exact sound.of_same sound.steady unchanged
  | @nextHash job hashes call =>
    have taken : Sound { state with hashes } := sound.of_same sound.steady unchanged
    exact taken.upcall call (fun _ none => absurd none List.not_mem_nil)
  | reset free settled => exact sound.of_same (steady_of_same (steady_reset state.cache) rfl rfl) unchanged
  | act acted =>
    obtain ⟨acts, _, _, _, _, same⟩ := State.act_frame acted
    refine sound.of_same (steady_acts sound.steady acts) ?_
    rw [same]
    exact unchanged
  | @synced _ _ _ performance registry job useCache inside own =>
    have sent : Sound { state with registry } := sound.of_same sound.steady unchanged
    have whole : (job.complete (performance.outcome job)).Whole := fun _ => performed_buffered
    refine sent.dispatch whole ?_
    intro other inside
    rw [List.mem_singleton.mp inside]
    exact whole
  | syncRejected registry handle sql reason inside =>
    have sent : Sound { state with registry } := sound.of_same sound.steady unchanged
    exact sent.dispatch (rejectedJob_whole handle sql reason) (fun _ none => absurd none List.not_mem_nil)
  | submitted inside running leaves => exact sound.submitted leaves
  | leave running => exact sound.leave running

end Steps

theorem sound_start : Sound {} where
  steady := ResultCache.sound_start.steady
  whole job inside := by cases inside

/-- However upcalls nest, no read of a result leaves it. -/
theorem nested_reads_in_bounds {host : Host} {events : List Event} {state : State}
    (run : Run (Steps (step host)) {} events state) : InBounds state.cache :=
  have sound : Sound state := run.invariant sound_start (fun _ _ _ held stepped => sound_move held (moves_of_step stepped))
  sound.steady.inBounds

theorem nested_reads_in_bounds_visit : ∃ state,
    exec (step plainHost) {} (.scripts (some listener) :: sending ++ answering ++ asking ++ [.leave, .leave]) = some state ∧
    InBounds state.cache := by
  have executes : (exec (step plainHost) {}
      (.scripts (some listener) :: sending ++ answering ++ asking ++ [.leave, .leave])).isSome := by decide
  obtain ⟨state, done⟩ := Option.isSome_iff_exists.mp executes
  exact ⟨state, done, nested_reads_in_bounds (Run.of_exec done)⟩

end MainThread
end OmpMySQL
