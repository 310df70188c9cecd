import OmpMySQL.Proofs.NestedUpcalls

/-! A retained result keeps its number, and so does one that a synchronous query answered with. Numbers count up
until the component is reset, so one that was released never comes to mean another result. -/

namespace OmpMySQL.MainThread
open Library

def Event.releases (cacheId : Int) : Event → Bool
  | .act (.release other) => other == cacheId
  | _ => false

def Event.isReset : Event → Bool
  | .reset => true
  | _ => false

/-- What a step does to the retained results. -/
inductive Renumbers (cache : ResultCache) : Event → ResultCache → Prop where
  | same {event after} (other : ∀ cacheId, event.releases cacheId = false)
      (saved : after.savedCaches = cache.savedCaches) (next : after.nextCache = cache.nextCache) :
      Renumbers cache event after
  | retained {event after} (result : QueryResult) (other : ∀ cacheId, event.releases cacheId = false)
      (saved : after.savedCaches = cache.savedCaches.emplace cache.nextCache result)
      (next : after.nextCache = cache.nextCache + 1) : Renumbers cache event after
  | released {cacheId after} (saved : after.savedCaches = cache.savedCaches.erase cacheId)
      (next : after.nextCache = cache.nextCache) : Renumbers cache (.act (.release cacheId)) after
  | reset {after} (saved : after.savedCaches = .empty) (next : after.nextCache = 1) : Renumbers cache .reset after

theorem Renumbers.of_same {cache middle after : ResultCache} {event : Event} (renumbers : Renumbers middle event after)
    (saved : middle.savedCaches = cache.savedCaches) (next : middle.nextCache = cache.nextCache) :
    Renumbers cache event after := by
  cases renumbers with
  | same other kept counted => exact .same other (kept.trans saved) (counted.trans next)
  | retained result other kept counted =>
    rw [saved, next] at kept
    rw [next] at counted
    exact .retained result other kept counted
  | released kept counted =>
    rw [saved] at kept
    exact .released kept (counted.trans next)
  | reset kept counted => exact .reset kept counted

section Steps
variable {host : Host} {state : State} {event : Event}

theorem renumbers_saveActive (cache : ResultCache) (other : ∀ cacheId, event.releases cacheId = false) :
    Renumbers cache event cache.saveActiveCache.1 := by
  rw [ResultCache.saveActiveCache]
  split
  next => exact .same other rfl rfl
  next result _ => exact .retained result other rfl rfl

theorem renumbers_syncQuery (cache : ResultCache) (component : Component) (done : QueryJob) (useCache : Bool)
    (other : ∀ cacheId, event.releases cacheId = false) :
    Renumbers cache event (ResultCache.syncQuery { cache with component } done useCache).1 := by
  rw [ResultCache.syncQuery]
  split
  next result _ _ =>
    cases useCache with
    | false => exact .same other rfl rfl
    | true => exact .retained result other rfl rfl
  next => exact .same other rfl rfl

theorem renumbers_proceed {serial : Nat} {caller : Caller} {progress : Progress}
    (other : ∀ cacheId, event.releases cacheId = false) :
    Renumbers state.cache event (state.proceed serial caller progress).cache := by
  cases progress with
  | calling => exact .same other rfl rfl
  | returned component =>
    cases caller with
    | tick | syncReject => exact .same other rfl rfl
    | sync done useCache => exact renumbers_syncQuery state.cache component done useCache other

theorem renumbers_leave {activation : Activation} {stack : List Activation}
    (other : ∀ cacheId, event.releases cacheId = false) :
    Renumbers state.cache event (state.leave host activation stack).cache := by
  rw [State.leave]
  split
  next => exact .same other rfl rfl
  next => exact .same other rfl rfl
  next => exact .same other rfl rfl
  next =>
    have went := @renumbers_proceed (state.pop activation stack) event
    exact (went other).of_same rfl rfl

theorem acts_renumber {cache after : ResultCache} {action : Action} (acts : ActsOn cache action after)
    (other : ∀ cacheId, Event.releases cacheId (.act action) = false) : Renumbers cache (.act action) after := by
  cases acts with
  | other | deactivate | selectSet => exact .same other rfl rfl
  | retain => exact renumbers_saveActive cache other
  | release cacheId =>
    have releases := other cacheId
    simp [Event.releases] at releases
  | activate cacheId =>
    refine .same other ?_ ?_
    all_goals
      unfold ResultCache.activateSavedCache
      split <;> rfl

theorem act_renumbers {action : Action} {after : State} (acted : state.act action = some after) :
    Renumbers state.cache (.act action) after.cache := by
  have acts := (State.act_frame acted).1
  cases action with
  | release cacheId =>
    cases acted
    exact .released rfl rfl
  | assign | connect | close | setLimit | prepare | stmtClose | modelCreate | modelDestroy | model | retain | activate
  | deactivate | selectSet => exact acts_renumber acts (fun _ => rfl)

theorem renumbers_move {after : State} (moved : Moves host state event after) :
    Renumbers state.cache event after.cache := by
  cases moved with
  | perform | hash | players | scripts | run | tick | lastJob | silentHash | nextHash | lastHash | unheard =>
    exact .same (fun _ => rfl) rfl rfl
  | @nextJob job jobs =>
    have went := @renumbers_proceed (State.begun { state with jobs } job) .turn
    exact (went (fun _ => rfl)).of_same rfl rfl
  | reset => exact .reset rfl rfl
  | act acted => exact act_renumbers acted
  | @synced native pending now performance registry job useCache =>
    have went := @renumbers_proceed (State.begun { state with registry } (job.complete (performance.outcome job)))
      (.submit native pending now performance)
    exact (went (fun _ => rfl)).of_same rfl rfl
  | @syncRejected native pending now performance registry handle sql reason =>
    have went := @renumbers_proceed (State.begun { state with registry } (Component.rejectedJob handle sql reason))
      (.submit native pending now performance)
    exact (went (fun _ => rfl)).of_same rfl rfl
  | submitted =>
    rw [State.submitted]
    split
    next => exact .same (fun _ => rfl) rfl rfl
    next => exact .same (fun _ => rfl) rfl rfl
  | leave => exact renumbers_leave (fun _ => rfl)

end Steps
/-- Nothing is retained under a number that is still to come. -/
structure Numbered (cache : ResultCache) : Prop where
  positive : 1 ≤ cache.nextCache
  fresh : ∀ cacheId, cache.nextCache ≤ cacheId → cache.savedCaches cacheId = none

theorem numbered_step {cache after : ResultCache} {event : Event} (numbered : Numbered cache)
    (renumbers : Renumbers cache event after) : Numbered after := by
  have positive := numbered.positive
  cases renumbers with
  | same _ saved next =>
    refine ⟨next ▸ positive, ?_⟩
    rw [saved, next]
    exact numbered.fresh
  | retained result _ saved next =>
    refine ⟨by omega, ?_⟩
    rw [saved, next]
    intro cacheId beyond
    rw [Table.emplace_absent (numbered.fresh _ (Int.le_refl _)), Table.put_other _ _ _ _ (by omega)]
    exact numbered.fresh cacheId (by omega)
  | released saved next =>
    refine ⟨next ▸ positive, ?_⟩
    rw [saved, next]
    intro cacheId beyond
    cases found : (cache.savedCaches.erase _) cacheId with
    | none => rfl
    | some result => cases (numbered.fresh cacheId beyond).symm.trans (Table.erase_eq_some.mp found).2
  | reset saved next =>
    refine ⟨next ▸ Int.le_refl _, ?_⟩
    rw [saved]
    exact fun _ _ => rfl

/-- Under a number that was given out stands what stood there, until it is released. -/
theorem issued_step {cache after : ResultCache} {event : Event} {cacheId : Int} (issued : cacheId < cache.nextCache)
    (renumbers : Renumbers cache event after) (stays : event.isReset = false) :
    cacheId < after.nextCache ∧
      after.savedCaches cacheId = if event.releases cacheId then none else cache.savedCaches cacheId := by
  cases renumbers with
  | same other saved next => simp [saved, next, other, issued]
  | retained result other saved next =>
    have apart : cacheId ≠ cache.nextCache := by omega
    refine ⟨by omega, ?_⟩
    rw [saved, other, Table.emplace, Function.update_of_ne apart]
    rfl
  | @released released _ saved next =>
    refine ⟨next ▸ issued, ?_⟩
    rw [saved, Event.releases]
    by_cases same : released = cacheId
    · simp [same]
    · rw [Table.erase_other _ _ _ (Ne.symm same), if_neg (by simpa using same)]
  | reset => cases stays

theorem issued_run {host : Host} {start state : State} {events : List Event} {cacheId : Int}
    (issued : cacheId < start.cache.nextCache)
    (run : Run (Guarded (fun _ event => event.isReset = false) (Steps (step host))) start events state) :
    cacheId < state.cache.nextCache ∧ state.cache.savedCaches cacheId =
      if events.any (Event.releases cacheId) then none else start.cache.savedCaches cacheId := by
  induction run with
  | refl => exact ⟨issued, rfl⟩
  | @snoc events middle event after _ move ih =>
    obtain ⟨still, held⟩ := ih
    obtain ⟨later, kept⟩ := issued_step still (renumbers_move (moves_of_step move.2)) move.1
    refine ⟨later, ?_⟩
    rw [kept, held, List.any_append, List.any_cons, List.any_nil, Bool.or_false]
    cases event.releases cacheId <;> simp

/-- The number that a synchronous query answers, when its report ends here, and the result it is for. -/
def answered (cache : ResultCache) (done : QueryJob) (useCache : Bool) : Progress → Option (Int × QueryResult)
  | .returned component =>
    if done.succeeded = true ∧ useCache = true then
      done.result.map (({ cache with component }.syncQuery done useCache).2, ·)
    else none
  | .calling _ _ _ => none

/-- The number that a native gives out in a step, and the result it is for: a script retains what it reads, or a
synchronous query answers, at once or when the last hook of its report has returned. -/
def State.issues (host : Host) (state : State) : Event → Option (Int × QueryResult)
  | .act .retain => state.component.activeCache.map (state.cache.saveActiveCache.2, ·)
  | .submit native pending now performance =>
    native.syncJob.bind fun job =>
      if (state.registry.runJobSync job pending now).reason = .none then
        let done := job.complete (performance.outcome job)
        answered state.cache done job.useCache (state.component.beginDispatch host.strtof done)
      else none
  | .leave =>
    match state.stack with
    | [] => none
    | activation :: stack =>
      match activation.waiting with
      | .dispatch _ resumption (.sync done useCache) =>
        answered state.cache done useCache ((state.pop activation stack).component.resumeDispatch host.strtof resumption)
      | _ => none
  | _ => none

section Issue
variable {host : Host} {state after : State} {event : Event} {cacheId : Int} {result : QueryResult}

/-- The next number now means the result. -/
def Saves (cache : ResultCache) (result : QueryResult) (after : ResultCache) : Prop :=
  after.savedCaches = cache.savedCaches.emplace cache.nextCache result ∧ after.nextCache = cache.nextCache + 1

theorem answered_number {cache : ResultCache} {done : QueryJob} {useCache : Bool} {progress : Progress}
    (gives : answered cache done useCache progress = some (cacheId, result)) :
    cacheId = cache.nextCache ∧ ∃ component, progress = .returned component ∧ done.succeeded = true ∧ useCache = true ∧
      done.result = some result := by
  cases progress with
  | calling => cases gives
  | returned component =>
    simp only [answered, Option.ite_none_right_eq_some] at gives
    obtain ⟨⟨succeeded, rfl⟩, gives⟩ := gives
    obtain ⟨given, own, same⟩ := Option.map_eq_some_iff.mp gives
    cases same
    refine ⟨?_, component, rfl, succeeded, rfl, own⟩
    rw [ResultCache.syncQuery, succeeded, own]
    rfl

theorem answered_saves {cache : ResultCache} {done : QueryJob} {useCache : Bool} {progress : Progress} {serial : Nat}
    (gives : answered cache done useCache progress = some (cacheId, result)) (saved : state.cache.savedCaches = cache.savedCaches)
    (next : state.cache.nextCache = cache.nextCache) :
    Saves cache result (state.proceed serial (.sync done useCache) progress).cache := by
  obtain ⟨_, component, rfl, succeeded, rfl, given⟩ := answered_number gives
  have settles : (state.proceed serial (.sync done true) (.returned component)).cache =
      (ResultCache.syncQuery { state.cache with component } done true).1 := rfl
  rw [settles, ResultCache.syncQuery, succeeded, given, Saves, ← saved, ← next]
  exact ⟨rfl, rfl⟩

/-- Numbers are given out one after the other. -/
theorem issues_next (issued : state.issues host event = some (cacheId, result)) : cacheId = state.cache.nextCache := by
  unfold State.issues at issued
  split at issued
  next =>
    obtain ⟨shown, active, same⟩ := Option.map_eq_some_iff.mp issued
    cases same
    rw [ResultCache.saveActiveCache, show state.cache.component.activeCache = some result from active]
  next =>
    obtain ⟨job, _, issued⟩ := Option.bind_eq_some_iff.mp issued
    simp only [Option.ite_none_right_eq_some] at issued
    exact (answered_number issued.2).1
  next =>
    split at issued
    next => cases issued
    next =>
      split at issued
      next => exact (answered_number issued).1
      next => cases issued
  next => cases issued

/-- What a synchronous query that is let through leaves behind. -/
theorem synced_step {native : SubmitNative} {pending : Nat → Int} {now : Int} {performance : Performance} {job : QueryJob}
    (own : native.syncJob = some job) (accepted : (state.registry.runJobSync job pending now).reason = .none)
    (stepped : step host state (.submit native pending now performance) = some after) :
    ∃ registry, after = State.dispatch host { state with registry } (job.complete (performance.outcome job))
      (.sync (job.complete (performance.outcome job)) job.useCache) := by
  obtain ⟨amx, _, submitted⟩ := Option.bind_eq_some_iff.mp stepped
  have runs {handle : Int} {sql : String} {useCache : Bool} (same : job = { connectionHandle := handle, sql, useCache })
      (ran : state.runSync host handle sql useCache pending now performance = some after) :
      ∃ registry, after = State.dispatch host { state with registry } (job.complete (performance.outcome job))
        (.sync (job.complete (performance.outcome job)) job.useCache) := by
    subst same
    simp only [State.runSync, accepted, reduceCtorEq, if_false, if_true, Option.ite_none_right_eq_some,
      Option.some.injEq] at ran
    exact ⟨_, ran.2.symm⟩
  cases native with
  | executeSync =>
    cases own
    exact runs rfl submitted
  | executeFileSync handle content useCache =>
    obtain ⟨sql, found, rfl⟩ := Option.map_eq_some_iff.mp own
    rw [State.submit, found] at submitted
    exact runs rfl submitted
  | execute | executeFor | executeFile | stmtExecute | modelFind | modelInsert | modelUpdate | modelDelete | modelSave =>
    cases own

theorem issues_saves (issued : state.issues host event = some (cacheId, result)) (stepped : step host state event = some after) :
    Saves state.cache result after.cache := by
  unfold State.issues at issued
  split at issued
  next =>
    obtain ⟨shown, active, same⟩ := Option.map_eq_some_iff.mp issued
    cases same
    simp only [step, State.act, Option.ite_none_right_eq_some, Option.some.injEq] at stepped
    obtain ⟨_, rfl⟩ := stepped
    rw [ResultCache.saveActiveCache, show state.cache.component.activeCache = some result from active]
    exact ⟨rfl, rfl⟩
  next =>
    obtain ⟨job, own, issued⟩ := Option.bind_eq_some_iff.mp issued
    simp only [Option.ite_none_right_eq_some] at issued
    obtain ⟨registry, rfl⟩ := synced_step own issued.1 stepped
    exact @answered_saves (State.begun { state with registry } _) _ _ _ _ _ _ _ issued.2 rfl rfl
  next =>
    split at issued
    next => cases issued
    next activation stack running =>
      split at issued
      next serial resumption done useCache waits =>
        simp only [step, running, Option.some.injEq] at stepped
        subst stepped
        rw [State.leave, waits]
        exact @answered_saves (state.pop activation stack) _ _ _ _ _ _ _ issued rfl rfl
      next => cases issued
  next => cases issued

end Issue

/-- Until the component is reset, a number that a native gave out for a result denotes that result, and nothing once
it is released; the number is given out for nothing else, whatever scripts do and however they nest. -/
theorem issued_number_stays {host : Host} {before events : List Event} {start kept state : State} {event : Event}
    {cacheId : Int} {result : QueryResult} (reached : Run (Steps (step host)) {} before start)
    (issued : start.issues host event = some (cacheId, result)) (stepped : step host start event = some kept)
    (run : Run (Guarded (fun _ event => event.isReset = false) (Steps (step host))) kept events state) :
    1 ≤ cacheId ∧
      state.cache.savedCaches cacheId = (if events.any (Event.releases cacheId) then none else some result) ∧
      ∀ later other given, state.issues host later = some (other, given) → other ≠ cacheId := by
  have numbered : Numbered start.cache := by
    refine @Run.invariant _ _ _ _ (fun other => Numbered other.cache) ⟨Int.le_refl _, fun _ _ => rfl⟩ ?_ _ _ reached
    exact fun _ _ _ held stepped => numbered_step held (renumbers_move (moves_of_step stepped))
  have number := issues_next issued
  obtain ⟨saved, next⟩ := issues_saves issued stepped
  obtain ⟨past, held⟩ := @issued_run _ _ _ _ cacheId (by omega) run
  refine ⟨number ▸ numbered.positive, ?_, ?_⟩
  · rw [held, saved, number, Table.emplace_absent (numbered.fresh _ (Int.le_refl _)), Table.put_same]
  · intro later other given again
    have apart := issues_next again
    omega

/-- The callback makes a query of its own, whose hook waits to return. -/
private def asksAgain : List Event := [.submit (.executeSync 1 "SELECT 1" true) (fun _ => 0) 0 (oneRow "6")]

/-- The first number stays with the rows of the callback, and the second is that of the query. -/
theorem issued_number_stays_visit : ∃ start kept asked state first second,
    exec (step plainHost) {} (.scripts (some listener) :: sending ++ answering) = some start ∧
    start.issues plainHost (.act .retain) = some (1, first) ∧ step plainHost start (.act .retain) = some kept ∧
    exec (guarded (fun _ event => event.isReset = false) (step plainHost)) kept asksAgain = some asked ∧
    asked.issues plainHost .leave = some (2, second) ∧ step plainHost asked .leave = some state ∧
    asked.cache.savedCaches 1 = some first ∧ state.cache.savedCaches 2 = some second := by
  have runs : ((exec (step plainHost) {} (.scripts (some listener) :: sending ++ answering)).any fun start =>
      (start.issues plainHost (.act .retain)).any (·.1 = 1) && (step plainHost start (.act .retain)).any fun kept =>
        (exec (guarded (fun _ event => event.isReset = false) (step plainHost)) kept asksAgain).any fun asked =>
          (asked.issues plainHost .leave).any (·.1 = 2) && (step plainHost asked .leave).isSome) = true := by decide
  obtain ⟨start, reached, shape⟩ := (Option.any_eq_true ..).mp runs
  obtain ⟨issues, keeps⟩ := Bool.and_eq_true_iff.mp shape
  obtain ⟨⟨one, first⟩, issued, number⟩ := (Option.any_eq_true ..).mp issues
  obtain rfl : one = 1 := of_decide_eq_true number
  obtain ⟨kept, retains, asks⟩ := (Option.any_eq_true ..).mp keeps
  obtain ⟨asked, ran, shape⟩ := (Option.any_eq_true ..).mp asks
  obtain ⟨issues, leaves⟩ := Bool.and_eq_true_iff.mp shape
  obtain ⟨⟨two, second⟩, again, number⟩ := (Option.any_eq_true ..).mp issues
  obtain rfl : two = 2 := of_decide_eq_true number
  obtain ⟨state, left⟩ := Option.isSome_iff_exists.mp leaves
  have onward : Run (Steps (step plainHost)) {} _ asked :=
    ((Run.of_exec reached).snoc retains).trans (Run.of_guarded_exec ran).unguarded
  have stays := issued_number_stays (Run.of_exec reached) issued retains (Run.of_guarded_exec ran)
  have newest := issued_number_stays onward again left .refl
  exact ⟨start, kept, asked, state, first, second, reached, issued, retains, ran, again, left, stays.2.1, newest.2.1⟩

end OmpMySQL.MainThread
