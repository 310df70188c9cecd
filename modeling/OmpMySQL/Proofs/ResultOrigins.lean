import OmpMySQL.Proofs.AnswerReads

/-! Nothing that scripts read is made up. Every result that is shown or retained came from a
query that a worker performed, through whatever callbacks, numbers and synchronous natives it
was passed on. -/

namespace OmpMySQL.MainThread
open Library

/-- The result comes with one of the jobs. -/
def Brings (jobs : List QueryJob) (result : QueryResult) : Prop := ∃ job ∈ jobs, job.result = some result

/-- The result can be read, is retained, or may still be shown. -/
def State.Has (state : State) (result : QueryResult) : Prop := state.cache.Holds result ∨ Brings state.carried result

/-- A worker performs the job in this step: the oldest it has, or a synchronous query that is let through. -/
inductive Performs (state : State) (job : QueryJob) (performance : Performance) : Event → Prop where
  | worker {handle} (oldest : state.sent.find? (·.connectionHandle = handle) = some job) :
      Performs state job performance (.perform handle performance)
  | sync {native pending now} (own : native.syncJob = some job)
      (accepted : (state.registry.runJobSync job pending now).reason = .none) :
      Performs state job performance (.submit native pending now performance)

section Results
variable {cache : ResultCache} {component : Component} {job : QueryJob} {result : QueryResult}

theorem rest_shows {script : Nat} {progress : Progress} (rest : component.Rest job script progress)
    (shown : progress.component.activeCache = some result) :
    component.activeCache = some result ∨ job.result = some result := by
  cases rest with
  | returned | reported => exact Or.inl shown
  | calledBack =>
    rw [Progress.component, Component.shownTo] at shown
    split at shown
    next => exact Or.inl shown
    next own kept => exact Or.inr (kept.trans shown)

theorem begin_shows (strtof : String → Cell) (shown : (component.beginDispatch strtof job).component.activeCache = some result) :
    component.activeCache = some result ∨ job.result = some result := by
  have start := component.beginDispatch_start strtof job
  generalize component.beginDispatch strtof job = progress at start shown
  cases start with
  | unresolved | audited => exact Or.inl shown
  | unaudited _ _ rest =>
    rw [← writeBack_active strtof component job]
    exact rest_shows rest shown

theorem resume_shows (strtof : String → Cell) {resumption : Resumption}
    (shown : (component.resumeDispatch strtof resumption).component.activeCache = some result) :
    component.activeCache = some result ∨ Brings resumption.jobs result := by
  cases resumption with
  | audited job script =>
    rw [← writeBack_active strtof component job]
    exact (rest_shows (component.afterAudit_rest strtof job script) shown).imp_right
      (fun own => ⟨job, List.mem_cons_self, own⟩)
  | reported => exact Or.inl shown
  | calledBack => cases shown

theorem saveActiveCache_holds (held : cache.saveActiveCache.1.Holds result) : cache.Holds result := by
  unfold ResultCache.saveActiveCache at held
  split at held
  next => exact held
  next active shown =>
    rcases held with same | ⟨cacheId, saved⟩
    · exact Or.inl same
    · rcases Table.emplace_eq_some saved with old | rfl
      · exact Or.inr ⟨cacheId, old⟩
      · exact Or.inl shown

theorem syncQuery_holds {useCache : Bool} (held : (cache.syncQuery job useCache).1.Holds result) :
    cache.Holds result ∨ job.result = some result := by
  unfold ResultCache.syncQuery at held
  split at held
  next answer _ kept =>
    have shown : ResultCache.Holds { cache with component := cache.component.setActiveCache answer 0 } result := by
      cases useCache with
      | false => exact held
      | true => exact saveActiveCache_holds held
    rcases shown with same | saved
    · exact Or.inr (kept.trans same)
    · exact Or.inl (Or.inr saved)
  next => exact Or.inl held

theorem acts_hold {after : ResultCache} {action : Action} (acts : ActsOn cache action after) (held : after.Holds result) :
    cache.Holds result := by
  cases acts with
  | other _ active => exact held.imp_left active.symm.trans
  | retain => exact saveActiveCache_holds held
  | release cacheId =>
    rcases held with shown | ⟨other, saved⟩
    · exact Or.inl shown
    · exact Or.inr ⟨other, (Table.erase_eq_some.mp saved).2⟩
  | activate cacheId =>
    unfold ResultCache.activateSavedCache at held
    split at held
    next => exact held
    next kept saved =>
      rcases held with same | others
      · cases same
        exact Or.inr ⟨cacheId, saved⟩
      · exact Or.inr others
  | deactivate =>
    rcases held with shown | saved
    · cases shown
    · exact Or.inr saved
  | selectSet index =>
    rcases held with shown | saved
    · refine Or.inl (Eq.trans ?_ shown)
      unfold Component.setActiveResultIndex
      split
      next => rfl
      next => split <;> rfl
    · exact Or.inr saved

end Results

section Steps
variable {host : Host} {state after : State} {event : Event} {result : QueryResult}

theorem Brings.mono {jobs more : List QueryJob} (brings : Brings jobs result) (within : ∀ job ∈ jobs, job ∈ more) :
    Brings more result := by
  obtain ⟨job, inside, own⟩ := brings
  exact ⟨job, within job inside, own⟩

theorem State.Has.of_same (has : after.Has result) (holds : after.cache.Holds result → state.cache.Holds result)
    (carried : ∀ job ∈ after.carried, job ∈ state.carried) : state.Has result :=
  has.imp holds (·.mono carried)

theorem upcall_has {call : Invocation} {waiting : Waiting} (has : (state.upcall call waiting).Has result) :
    state.Has result ∨ Brings waiting.jobs result := by
  rcases has with held | ⟨job, inside, own⟩
  · exact Or.inl (Or.inl held)
  · rcases carried_upcall inside with new | older
    · exact Or.inr ⟨job, new, own⟩
    · exact Or.inl (Or.inr ⟨job, older, own⟩)

/-- What a segment of a dispatch leaves was there, or comes with the jobs that wait for it. -/
theorem proceed_has {serial : Nat} {caller : Caller} {progress : Progress}
    (has : (state.proceed serial caller progress).Has result) :
    state.Has result ∨ progress.component.activeCache = some result ∨ Brings (progress.jobs ++ caller.jobs) result := by
  have shown {component : Component} (has : (state.setComponent component).Has result) :
      state.Has result ∨ component.activeCache = some result := by
    rcases has with (same | saved) | carried
    · exact Or.inr same
    · exact Or.inl (Or.inl (Or.inr saved))
    · exact Or.inl (Or.inr carried)
  cases progress with
  | returned component =>
    cases caller with
    | tick | syncReject => exact (shown has).imp_right Or.inl
    | sync done useCache =>
      rcases has with held | carried
      · rcases syncQuery_holds held with kept | own
        · exact (shown (Or.inl kept)).imp_right Or.inl
        · exact Or.inr (Or.inr ⟨done, List.mem_cons_self, own⟩)
      · exact Or.inl (Or.inr carried)
  | calling component call resumption =>
    have called : ((state.setComponent component).upcall call (.dispatch serial resumption caller)).Has result := has
    rcases upcall_has called with kept | waits
    · exact (shown kept).imp_right Or.inl
    · exact Or.inr (Or.inr waits)

theorem dispatch_has {job : QueryJob} {caller : Caller} (callers : ∀ done ∈ caller.jobs, done = job)
    (has : (state.dispatch host job caller).Has result) : state.Has result ∨ job.result = some result := by
  rcases proceed_has has with kept | shown | ⟨other, inside, own⟩
  · exact Or.inl kept
  · rcases begin_shows host.strtof shown with same | own
    · exact Or.inl (Or.inl (Or.inl same))
    · exact Or.inr own
  · rcases List.mem_append.mp inside with begun | called
    · exact Or.inr (begin_jobs host.strtof _ job other begun ▸ own)
    · exact Or.inr (callers other called ▸ own)

theorem leave_has {activation : Activation} {stack : List Activation} (running : state.stack = activation :: stack)
    (has : (state.leave host activation stack).Has result) : state.Has result := by
  have inner (inside : Brings activation.waiting.jobs result) : state.Has result :=
    Or.inr (inside.mono (fun _ waits => carried_running running waits))
  have popped (has : (state.pop activation stack).Has result) : state.Has result :=
    has.of_same id (fun _ inside => carried_pop running inside)
  rw [State.leave] at has
  split at has
  next => exact popped has
  next => exact popped has
  next => exact popped has
  next serial resumption caller waits =>
    rw [waits] at inner
    rcases proceed_has has with kept | shown | brings
    · exact popped kept
    · rcases resume_shows host.strtof shown with same | own
      · exact popped (Or.inl (Or.inl same))
      · exact inner (own.mono (fun job => List.mem_append_left _))
    · rw [resume_jobs] at brings
      exact inner (brings.mono (fun job => List.mem_append_right _))

/-- Only a performance brings in a result. -/
theorem has_move (moved : Moves host state event after) (has : after.Has result) :
    state.Has result ∨ ∃ job performance, Performs state job performance event ∧
      (job.complete (performance.outcome job)).result = some result := by
  have unchanged : ∀ job ∈ state.carried, job ∈ state.carried := fun _ inside => inside
  cases moved with
  | hash | players | scripts | run | lastJob | silentHash | lastHash | unheard => exact Or.inl has
  | @perform handle performance job oldest =>
    rcases has with held | ⟨other, inside, own⟩
    · exact Or.inl (Or.inl held)
    · rcases carried_perform inside with rfl | kept
      · exact Or.inr ⟨job, performance, .worker oldest, own⟩
      · exact Or.inl (Or.inr ⟨other, kept, own⟩)
  | tick => exact Or.inl (has.of_same id (fun _ inside => carried_tick inside))
  | @nextJob job jobs _ _ queue =>
    left
    rcases dispatch_has (fun _ none => absurd none List.not_mem_nil) has with kept | own
    · exact kept.of_same id (fun _ inside => carried_next queue (Or.inr inside))
    · exact Or.inr ⟨job, carried_next queue (Or.inl rfl), own⟩
  | nextHash =>
    rcases upcall_has has with kept | ⟨_, none, _⟩
    · exact Or.inl kept
    · cases none
  | reset =>
    rcases has with (shown | ⟨_, saved⟩) | carried
    · cases shown
    · cases saved
    · exact Or.inl (Or.inr carried)
  | act acted =>
    obtain ⟨acts, _, _, _, _, same⟩ := State.act_frame acted
    refine Or.inl (has.of_same (acts_hold acts) ?_)
    rw [same]
    exact unchanged
  | @synced native pending now performance registry job useCache inside own accepted =>
    have callers : ∀ done ∈ (Caller.sync (job.complete (performance.outcome job)) useCache).jobs,
        done = job.complete (performance.outcome job) := fun _ carried => List.mem_singleton.mp carried
    rcases dispatch_has callers has with kept | answer
    · exact Or.inl kept
    · exact Or.inr ⟨job, performance, .sync own accepted, answer⟩
  | syncRejected =>
    rcases dispatch_has (fun _ none => absurd none List.not_mem_nil) has with kept | answer
    · exact Or.inl kept
    · cases answer
  | @submitted _ _ _ _ _ submission _ _ leaves =>
    left
    have accepted (has : (state.accept submission).Has result) : state.Has result := by
      refine has.of_same ?_ unchanged
      exact fun held => held.imp_left leaves.reads.1.symm.trans
    rw [State.submitted] at has
    split at has
    next => exact accepted has
    next =>
      rcases upcall_has has with kept | ⟨_, none, _⟩
      · exact accepted kept
      · cases none
  | leave running => exact Or.inl (leave_has running has)

end Steps

/-- In the course of the run a worker has performed the job, for a callback or for a synchronous native. -/
def Fetched (host : Host) (events : List Event) (job : QueryJob) (performance : Performance) : Prop :=
  ∃ first rest event state, events = first ++ event :: rest ∧ Run (Steps (step host)) {} first state ∧
    Performs state job performance event

section Runs
variable {host : Host} {events : List Event} {state : State} {result : QueryResult}

theorem has_run (run : Run (Steps (step host)) {} events state) (has : state.Has result) :
    ∃ job performance, Fetched host events job performance ∧
      (job.complete (performance.outcome job)).result = some result := by
  induction run with
  | refl =>
    rcases has with (shown | ⟨_, saved⟩) | ⟨_, none, _⟩
    · cases shown
    · cases saved
    · cases none
  | @snoc events state event after earlier move ih =>
    rcases has_move (moves_of_step move) has with old | ⟨job, performance, performs, own⟩
    · obtain ⟨job, performance, ⟨first, rest, other, before, rfl, run, performs⟩, own⟩ := ih old
      exact ⟨job, performance, ⟨first, rest ++ [event], other, before, by simp, run, performs⟩, own⟩
    · exact ⟨job, performance, ⟨events, [], event, state, rfl, earlier, performs⟩, own⟩

/-- Every result that scripts can read or have retained is what a query performed in this run left, and whenever
it is the active one the natives read what the server responded to that query. -/
theorem results_come_from_queries (run : Run (Steps (step host)) {} events state) (held : state.cache.Holds result) :
    ∃ job performance, Fetched host events job performance ∧ (performance.outcome job).succeeded = true ∧
      (performance.outcome job).result = result ∧
      ∀ response, performance.Responds job.sql response → response.Countable → ∀ component : Component,
        component.activeCache = some result → ∀ atof native,
          native.call atof component = some (response.read component.activeResultIndex atof native) := by
  obtain ⟨job, performance, fetched, own⟩ := has_run run (Or.inl held)
  obtain ⟨answered, rfl⟩ : (performance.outcome job).succeeded = true ∧ (performance.outcome job).result = result := by
    simpa only [QueryJob.complete, Option.ite_none_right_eq_some, Option.some.injEq] using own
  refine ⟨job, performance, fetched, answered, rfl, ?_⟩
  intro response responds countable component active atof native
  exact call_response (responds.shown answered) countable active atof native

end Runs

/-- A callback makes a query of its own and is given a number for the answer. -/
private def numbering : List Event :=
  .scripts (some listener) :: sending ++ answering ++
    [.submit (.executeSync 1 "SELECT 1" true) (fun _ => 0) 0 (oneRow "6"), .leave, .leave]

theorem results_come_from_queries_numbered : ∃ state result,
    exec (step plainHost) {} numbering = some state ∧ state.cache.savedCaches 1 = some result ∧
    ∃ job performance, Fetched plainHost numbering job performance ∧ (performance.outcome job).succeeded = true ∧
      (performance.outcome job).result = result ∧
      ∀ response, performance.Responds job.sql response → response.Countable → ∀ component : Component,
        component.activeCache = some result → ∀ atof native,
          native.call atof component = some (response.read component.activeResultIndex atof native) := by
  have retains : ((exec (step plainHost) {} numbering).any fun state => (state.cache.savedCaches 1).isSome) = true := by
    decide
  obtain ⟨state, done, saves⟩ := (Option.any_eq_true ..).mp retains
  obtain ⟨result, saved⟩ := Option.isSome_iff_exists.mp saves
  exact ⟨state, result, done, saved, results_come_from_queries (Run.of_exec done) (Or.inr ⟨1, saved⟩)⟩

end OmpMySQL.MainThread
