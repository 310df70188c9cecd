import OmpMySQL.Proofs.NestedReads
import OmpMySQL.Proofs.UpcallOrder

/-! Rows stay with their callback. `secret` picks out some results: those that neither a
synchronous query answers nor a script retains are readable only in the callback of the
job they came with. -/

namespace OmpMySQL.MainThread
open Library

/-- A step that neither retains secret rows nor gets them from a synchronous query. -/
def withholds (secret : QueryResult → Bool) (state : State) : Event → Bool
  | .act .retain => state.component.activeCache.all (!secret ·)
  | .submit native _ _ performance =>
    native.syncJob.all fun job => (job.complete (performance.outcome job)).result.all (!secret ·)
  | _ => true

def Clear (secret : QueryResult → Bool) (component : Component) : Prop :=
  ∀ result, component.activeCache = some result → secret result = false

/-- The callback of this dispatch runs, whatever runs inside it. -/
def CallbackRuns (stack : List Activation) (serial : Nat) : Prop :=
  ∃ activation, stack.getLast? = some activation ∧ activation.waiting = .dispatch serial .calledBack .tick

/-- The secret rows that can be read belong to the callback that runs. -/
def Owned (secret : QueryResult → Bool) (state : State) : Prop :=
  ∀ result, state.component.activeCache = some result → secret result = true →
    ∃ serial job, .begun serial job ∈ state.history ∧ job.result = some result ∧ CallbackRuns state.stack serial

/-- What waits on the stack knows its dispatch and keeps no secret rows of a synchronous query. -/
structure Accounted (secret : QueryResult → Bool) (history : List Note) (activation : Activation) : Prop where
  begun : ∀ serial job script caller, activation.waiting = .dispatch serial (.audited job script) caller →
    .begun serial job ∈ history
  answered : ∀ serial resumption done useCache result, activation.waiting = .dispatch serial resumption (.sync done useCache) →
    done.result = some result → secret result = false

structure Kept (secret : QueryResult → Bool) (state : State) : Prop where
  orderly : Orderly state.stack
  saved : ∀ cacheId result, state.cache.savedCaches cacheId = some result → secret result = false
  accounted : ∀ activation ∈ state.stack, Accounted secret state.history activation

structure Confined (secret : QueryResult → Bool) (state : State) : Prop extends Kept secret state where
  owned : Owned secret state

/-- A dispatch of the tick either leaves no secret to read, or calls the callback they belong to. -/
inductive Discreet (secret : QueryResult → Bool) (job : QueryJob) : Progress → Prop where
  | returned {component} (clear : Clear secret component) : Discreet secret job (.returned component)
  | audited {component call script} (clear : Clear secret component) :
      Discreet secret job (.calling component call (.audited job script))
  | reported {component call} (clear : Clear secret component) : Discreet secret job (.calling component call .reported)
  | calledBack {component call}
      (own : ∀ result, component.activeCache = some result → secret result = true → job.result = some result) :
      Discreet secret job (.calling component call .calledBack)

section Segments
variable {secret : QueryResult → Bool} {component : Component} {job : QueryJob} {script : Nat} {progress : Progress}

theorem clear_of_same {after : Component} (clear : Clear secret component) (active : after.activeCache = component.activeCache) :
    Clear secret after :=
  fun result shown => clear result (active.symm.trans shown)

theorem writeBack_active (strtof : String → Cell) (component : Component) (job : QueryJob) :
    (component.writeBack strtof job).activeCache = component.activeCache :=
  (component.sameHost_writeBack strtof job).activeCache

theorem discreet_rest (clear : Clear secret component) (rest : component.Rest job script progress) :
    Discreet secret job progress := by
  cases rest with
  | returned => exact .returned clear
  | reported => exact .reported clear
  | calledBack =>
    refine .calledBack ?_
    intro result shown hidden
    rw [Component.shownTo] at shown
    split at shown
    next =>
      rw [clear result shown] at hidden
      cases hidden
    next own kept =>
      rw [kept]
      exact shown

theorem discreet_begin (strtof : String → Cell) (clear : Clear secret component) :
    Discreet secret job (component.beginDispatch strtof job) := by
  have start := component.beginDispatch_start strtof job
  generalize component.beginDispatch strtof job = progress at start
  cases start with
  | unresolved => exact .returned clear
  | audited => exact .audited clear
  | unaudited _ _ rest => exact discreet_rest (clear_of_same clear (writeBack_active strtof component job)) rest

/-- Hooks and what follows them leave the readable rows alone. -/
theorem rest_active (anonymous : job.callback = "") (rest : component.Rest job script progress) :
    progress.component.activeCache = component.activeCache := by
  cases rest with
  | returned | reported => rfl
  | calledBack _ _ named => exact absurd anonymous named

theorem begin_active (strtof : String → Cell) (component : Component) (anonymous : job.callback = "") :
    (component.beginDispatch strtof job).component.activeCache = component.activeCache := by
  have start := component.beginDispatch_start strtof job
  generalize component.beginDispatch strtof job = progress at start
  cases start with
  | unresolved | audited => rfl
  | unaudited _ _ rest => exact (rest_active anonymous rest).trans (writeBack_active strtof component job)

theorem resume_active (strtof : String → Cell) (component : Component) {resumption : Resumption} (hook : resumption.Hook) :
    (component.resumeDispatch strtof resumption).component.activeCache = component.activeCache := by
  cases resumption with
  | audited job script =>
    exact (rest_active hook (component.afterAudit_rest strtof job script)).trans (writeBack_active strtof component job)
  | reported => rfl
  | calledBack => exact absurd hook id

theorem rest_jobs (rest : component.Rest job script progress) : progress.jobs = [] := by
  cases rest with
  | returned | reported | calledBack => rfl

theorem resume_jobs (strtof : String → Cell) (component : Component) (resumption : Resumption) :
    (component.resumeDispatch strtof resumption).jobs = [] := by
  cases resumption with
  | audited job script => exact rest_jobs (component.afterAudit_rest strtof job script)
  | reported | calledBack => rfl

theorem begin_jobs (strtof : String → Cell) (component : Component) (job : QueryJob) :
    ∀ other ∈ (component.beginDispatch strtof job).jobs, other = job := by
  have start := component.beginDispatch_start strtof job
  generalize component.beginDispatch strtof job = progress at start
  intro other inside
  cases start with
  | unresolved => cases inside
  | audited => exact List.mem_singleton.mp inside
  | unaudited _ _ rest =>
    rw [rest_jobs rest] at inside
    cases inside

end Segments

section Steps
variable {secret : QueryResult → Bool} {host : Host} {state : State}

theorem callbackRuns_cons {activation : Activation} {stack : List Activation} (inside : stack ≠ []) {serial : Nat} :
    CallbackRuns (activation :: stack) serial ↔ CallbackRuns stack serial := by
  obtain ⟨below, rest, rfl⟩ := List.exists_cons_of_ne_nil inside
  rw [CallbackRuns, CallbackRuns, List.getLast?_cons_cons]

theorem owned_of_clear (clear : Clear secret state.component) : Owned secret state := by
  intro result shown hidden
  rw [clear result shown] at hidden
  cases hidden

theorem clear_of_idle (owned : Owned secret state) (idle : state.stack = []) : Clear secret state.component := by
  intro result shown
  cases hidden : secret result with
  | false => rfl
  | true =>
    obtain ⟨_, _, _, _, _, last, _⟩ := owned result shown hidden
    rw [idle] at last
    cases last

/-- Whatever returns but a callback leaves the rows with the callback below it. -/
theorem owned_pop (owned : Owned secret state) {activation : Activation} {stack : List Activation}
    (running : state.stack = activation :: stack) (other : ∀ serial, activation.waiting ≠ .dispatch serial .calledBack .tick) :
    Owned secret (state.pop activation stack) := by
  intro result shown hidden
  obtain ⟨serial, job, begun, own, runs⟩ := owned result shown hidden
  refine ⟨serial, job, begun, own, ?_⟩
  rw [running] at runs
  by_cases inside : stack = []
  · subst inside
    obtain ⟨outermost, last, waits⟩ := runs
    cases last
    exact absurd waits (other serial)
  · exact (callbackRuns_cons inside).mp runs

theorem Accounted.later {history later : List Note} {activation : Activation} (accounted : Accounted secret history activation)
    (grows : ∀ note ∈ history, note ∈ later) : Accounted secret later activation where
  begun serial job script caller waits := grows _ (accounted.begun serial job script caller waits)
  answered := accounted.answered

/-- Rows that are owned stay so while nothing but the history and what waits inside grows. -/
theorem Owned.grows (owned : Owned secret state) {after : State}
    (active : after.component.activeCache = state.component.activeCache) (grows : ∀ note ∈ state.history, note ∈ after.history)
    (runs : ∀ serial, CallbackRuns state.stack serial → CallbackRuns after.stack serial) : Owned secret after := by
  intro result shown hidden
  obtain ⟨serial, job, begun, own, callback⟩ := owned result (active.symm.trans shown) hidden
  exact ⟨serial, job, grows _ begun, own, runs serial callback⟩

theorem Kept.ended (kept : Kept secret state) {component : Component} (clear : Clear secret component) (serial : Nat) :
    Confined secret (state.proceed serial .tick (.returned component)) := by
  refine ⟨⟨kept.orderly, kept.saved, ?_⟩, owned_of_clear clear⟩
  intro activation inside
  exact (kept.accounted activation inside).later (fun _ noted => List.mem_append_left _ noted)

/-- A dispatch of the tick goes on from outside every script. -/
theorem Kept.ticked (kept : Kept secret state) (idle : state.stack = []) {serial : Nat} {job : QueryJob}
    (begun : .begun serial job ∈ state.history) {progress : Progress} (discreet : Discreet secret job progress) :
    Confined secret (state.proceed serial .tick progress) := by
  have waiting (component : Component) (call : Invocation) (resumption : Resumption)
      (own : ∀ other script, resumption = .audited other script → other = job) :
      Kept secret (state.proceed serial .tick (.calling component call resumption)) := by
    refine ⟨?_, kept.saved, ?_⟩
    · show Orderly (_ :: state.stack)
      rw [idle]
      exact .outer rfl
    · intro activation inside
      change activation ∈ _ :: state.stack at inside
      rw [idle] at inside
      rw [List.mem_singleton.mp inside]
      refine ⟨?_, ?_⟩
      · intro later other script caller waits
        cases waits
        rw [own other script rfl]
        exact List.mem_append_left _ begun
      · intro later resumption done useCache result waits
        cases waits
  cases discreet with
  | returned clear => exact kept.ended clear serial
  | @audited component call script clear =>
    refine ⟨waiting component call (.audited job script) ?_, owned_of_clear clear⟩
    intro other _ same
    cases same
    rfl
  | @reported component call clear =>
    refine ⟨waiting component call .reported ?_, owned_of_clear clear⟩
    intro _ _ same
    cases same
  | @calledBack component call own =>
    refine ⟨waiting component call .calledBack (fun _ _ same => by cases same), ?_⟩
    intro result shown hidden
    rw [State.calling_active] at shown
    rw [State.calling_history, State.calling_stack, idle]
    exact ⟨serial, job, List.mem_append_left _ begun, own result shown hidden, _, rfl, rfl⟩

theorem syncQuery_active (cache : ResultCache) (done : QueryJob) (useCache : Bool) :
    (cache.syncQuery done useCache).1.component.activeCache = cache.component.activeCache ∨
      ∃ result, done.result = some result ∧ (cache.syncQuery done useCache).1.component.activeCache = some result := by
  unfold ResultCache.syncQuery
  split
  next result _ kept =>
    refine Or.inr ⟨result, kept, ?_⟩
    cases useCache with
    | true => rfl
    | false => rfl
  next => exact Or.inl rfl

theorem saved_syncQuery {cache : ResultCache} {done : QueryJob} {useCache : Bool}
    (saved : ∀ cacheId result, cache.savedCaches cacheId = some result → secret result = false)
    (answered : ∀ result, done.result = some result → secret result = false) :
    ∀ cacheId result, (cache.syncQuery done useCache).1.savedCaches cacheId = some result → secret result = false := by
  intro cacheId result held
  unfold ResultCache.syncQuery at held
  split at held
  next answer _ kept =>
    cases useCache with
    | false => exact saved cacheId result held
    | true =>
      rcases Table.emplace_eq_some held with old | rfl
      · exact saved cacheId result old
      · exact answered _ kept
  next => exact saved cacheId result held

/-- A dispatch that a script asked for leaves the rows with the callback below, but for its own. -/
theorem Confined.asked (confined : Confined secret state) (inside : state.stack ≠ []) {serial : Nat} {caller : Caller}
    {progress : Progress} (asked : caller.isTick = false) (hooks : progress.Hooks)
    (active : progress.component.activeCache = state.component.activeCache)
    (begun : ∀ job ∈ progress.jobs, .begun serial job ∈ state.history)
    (answered : ∀ done ∈ caller.jobs, ∀ result, done.result = some result → secret result = false) :
    Confined secret (state.proceed serial caller progress) := by
  have grows : ∀ note ∈ state.history, ∀ last, note ∈ state.history ++ [last] :=
    fun _ noted _ => List.mem_append_left _ noted
  have accounted : ∀ activation ∈ state.stack, ∀ last, Accounted secret (state.history ++ [last]) activation :=
    fun activation below last => (confined.accounted activation below).later (fun note noted => grows note noted last)
  cases progress with
  | returned component =>
    cases caller with
    | tick => cases asked
    | syncReject =>
      refine ⟨⟨confined.orderly, confined.saved, fun activation below => accounted activation below _⟩, ?_⟩
      exact confined.owned.grows active (fun note noted => grows note noted _) (fun _ runs => runs)
    | sync done useCache =>
      have own := answered done List.mem_cons_self
      refine ⟨⟨confined.orderly, saved_syncQuery confined.saved own, fun activation below => accounted activation below _⟩, ?_⟩
      have answer := syncQuery_active { state.cache with component } done useCache
      rcases answer with same | ⟨result, kept, shown⟩
      · exact confined.owned.grows (same.trans active) (fun note noted => grows note noted _) (fun _ runs => runs)
      · apply owned_of_clear
        intro other also
        cases also.symm.trans shown
        exact own result kept
  | calling component call resumption =>
    refine ⟨⟨.inner ⟨asked, hooks⟩ inside confined.orderly, confined.saved, ?_⟩, ?_⟩
    · intro activation present
      rcases List.mem_cons.mp present with rfl | below
      · refine ⟨?_, ?_⟩
        · intro later other script caller waits
          cases waits
          exact grows _ (begun other List.mem_cons_self) _
        · intro later resumption done useCache result waits
          cases waits
          exact answered done List.mem_cons_self result
      · exact accounted activation below _
    · exact confined.owned.grows active (fun note noted => grows note noted _)
        (fun _ runs => (callbackRuns_cons inside).mpr runs)

theorem Kept.of_same (kept : Kept secret state) {after : State} (stack : after.stack = state.stack)
    (saved : after.cache.savedCaches = state.cache.savedCaches) (grows : ∀ note ∈ state.history, note ∈ after.history) :
    Kept secret after where
  orderly := stack ▸ kept.orderly
  saved := by
    rw [saved]
    exact kept.saved
  accounted activation inside := (kept.accounted activation (stack ▸ inside)).later grows

theorem Confined.of_same (confined : Confined secret state) {after : State} (stack : after.stack = state.stack)
    (saved : after.cache.savedCaches = state.cache.savedCaches) (history : after.history = state.history)
    (active : after.component.activeCache = state.component.activeCache) : Confined secret after := by
  have grows : ∀ note ∈ state.history, note ∈ after.history := fun note noted => history ▸ noted
  refine ⟨confined.toKept.of_same stack saved grows, confined.owned.grows active grows ?_⟩
  rw [stack]
  exact fun _ runs => runs

/-- A public that waits for no dispatch. -/
theorem Confined.push (confined : Confined secret state) {activation : Activation}
    (plain : ∀ serial resumption caller, activation.waiting ≠ .dispatch serial resumption caller)
    (orderly : Orderly (activation :: state.stack)) {after : State} (stack : after.stack = activation :: state.stack)
    (saved : after.cache.savedCaches = state.cache.savedCaches) (history : after.history = state.history)
    (active : after.component.activeCache = state.component.activeCache) : Confined secret after := by
  have grows : ∀ note ∈ state.history, note ∈ after.history := fun note noted => history ▸ noted
  refine ⟨⟨stack ▸ orderly, ?_, ?_⟩, ?_⟩
  · rw [saved]
    exact confined.saved
  · intro other inside
    rw [stack] at inside
    rcases List.mem_cons.mp inside with rfl | below
    · exact ⟨fun _ _ _ _ waits => absurd waits (plain _ _ _), fun _ _ _ _ _ waits => absurd waits (plain _ _ _)⟩
    · exact (confined.accounted other below).later grows
  · by_cases inside : state.stack = []
    · exact owned_of_clear (clear_of_same (clear_of_idle confined.owned inside) active)
    · refine confined.owned.grows active grows ?_
      intro serial runs
      rw [stack]
      exact (callbackRuns_cons inside).mpr runs

/-- Other rows may come to be read, as long as they are no secret. -/
theorem Confined.of_cache (confined : Confined secret state) {after : State} (stack : after.stack = state.stack)
    (history : after.history = state.history)
    (saved : ∀ cacheId result, after.cache.savedCaches cacheId = some result → secret result = false)
    (active : after.component.activeCache = state.component.activeCache ∨ Clear secret after.component) :
    Confined secret after := by
  have grows : ∀ note ∈ state.history, note ∈ after.history := fun note noted => history ▸ noted
  refine ⟨⟨stack ▸ confined.orderly, saved, ?_⟩, ?_⟩
  · exact fun activation inside => (confined.accounted activation (stack ▸ inside)).later grows
  · rcases active with same | clear
    · refine confined.owned.grows same grows ?_
      rw [stack]
      exact fun _ runs => runs
    · exact owned_of_clear clear

/-- What the actions make of the results, where no secret is retained. -/
theorem acts_clear {cache after : ResultCache} {action : Action} (acts : ActsOn cache action after)
    (saved : ∀ cacheId result, cache.savedCaches cacheId = some result → secret result = false)
    (retained : action = .retain → Clear secret cache.component) :
    (∀ cacheId result, after.savedCaches cacheId = some result → secret result = false) ∧
      (after.component.activeCache = cache.component.activeCache ∨ Clear secret after.component) := by
  cases acts with
  | other _ active => exact ⟨saved, Or.inl active⟩
  | retain =>
    unfold ResultCache.saveActiveCache
    split
    next => exact ⟨saved, Or.inl rfl⟩
    next result shown =>
      refine ⟨?_, Or.inl rfl⟩
      intro cacheId other held
      rcases Table.emplace_eq_some held with old | rfl
      · exact saved cacheId other old
      · exact retained rfl _ shown
  | release cacheId =>
    refine ⟨?_, Or.inl rfl⟩
    intro other result held
    exact saved other result (Table.erase_eq_some.mp held).2
  | activate cacheId =>
    unfold ResultCache.activateSavedCache
    split
    next => exact ⟨saved, Or.inl rfl⟩
    next result kept =>
      refine ⟨saved, Or.inr ?_⟩
      intro other shown
      cases shown
      exact saved cacheId result kept
  | deactivate =>
    refine ⟨saved, Or.inr ?_⟩
    intro other shown
    cases shown
  | selectSet index =>
    refine ⟨saved, Or.inl ?_⟩
    unfold Component.setActiveResultIndex
    split
    next => rfl
    next => split <;> rfl

theorem Confined.begun (confined : Confined secret state) (job : QueryJob) : Confined secret (state.begun job) := by
  have grows : ∀ note ∈ state.history, note ∈ (state.begun job).history := fun _ noted => List.mem_append_left _ noted
  exact ⟨confined.toKept.of_same rfl rfl grows, confined.owned.grows rfl grows (fun _ runs => runs)⟩

theorem confined_acts (confined : Confined secret state) {action : Action} {after : State}
    (allowed : withholds secret state (.act action) = true) (acted : state.act action = some after) :
    Confined secret after := by
  obtain ⟨acts, registry, statements, nextStatement, nextModel, same⟩ := State.act_frame acted
  have retained : action = .retain → Clear secret state.component := by
    rintro rfl result shown
    simpa only [withholds, shown, Option.all_some, Bool.not_eq_true'] using allowed
  obtain ⟨saved, active⟩ := acts_clear acts confined.saved retained
  have stack : after.stack = state.stack := by rw [same]
  have history : after.history = state.history := by rw [same]
  exact confined.of_cache stack history saved active

theorem confined_leave (confined : Confined secret state) {activation : Activation} {stack : List Activation}
    (running : state.stack = activation :: stack) : Confined secret (state.leave host activation stack) := by
  have orderly := confined.orderly
  rw [running] at orderly
  have own := confined.accounted activation (running ▸ List.mem_cons_self)
  have popped : Kept secret (state.pop activation stack) :=
    ⟨orderly.tail, confined.saved, fun other below => confined.accounted other (running ▸ List.mem_cons_of_mem _ below)⟩
  have returned (other : ∀ serial, activation.waiting ≠ .dispatch serial .calledBack .tick) :
      Confined secret (state.pop activation stack) :=
    ⟨popped, owned_pop confined.owned running other⟩
  rw [State.leave]
  split
  next waits => exact returned (fun _ same => by cases waits.symm.trans same)
  next waits => exact returned (fun _ same => by cases waits.symm.trans same)
  next waits => exact returned (fun _ same => by cases waits.symm.trans same)
  next serial resumption caller waits =>
    cases ticks : caller.isTick with
    | true =>
      have idle : stack = [] := orderly.outermost waits ticks
      have tick : caller = .tick := by
        cases caller with
        | tick => rfl
        | sync | syncReject => cases ticks
      subst tick
      cases resumption with
      | calledBack => exact popped.ended (fun _ shown => by cases shown) serial
      | reported =>
        have clear := clear_of_idle (returned (fun _ same => by cases waits.symm.trans same)).owned idle
        exact popped.ended clear serial
      | audited job script =>
        have clear := clear_of_idle (returned (fun _ same => by cases waits.symm.trans same)).owned idle
        have written := clear_of_same clear (writeBack_active host.strtof _ job)
        exact popped.ticked idle (own.begun serial job script .tick waits)
          (discreet_rest written (Component.afterAudit_rest host.strtof _ job script))
    | false =>
      obtain ⟨inside, hook⟩ := orderly.hooks waits ticks
      have below := returned (by
        intro other same
        cases waits.symm.trans same
        cases ticks)
      refine below.asked inside ticks (Component.resume_hooks host.strtof _ hook) (resume_active host.strtof _ hook) ?_ ?_
      · intro job carried
        rw [resume_jobs] at carried
        cases carried
      · intro done carried result
        cases caller with
        | tick => cases ticks
        | syncReject => cases carried
        | sync answer useCache =>
          rw [List.mem_singleton.mp carried]
          exact own.answered serial resumption answer useCache result waits

theorem confined_move {event : Event} {after : State} (confined : Confined secret state)
    (allowed : withholds secret state event = true) (moved : Moves host state event after) : Confined secret after := by
  cases moved with
  | perform | hash | players | scripts | tick | lastJob | silentHash | lastHash | unheard =>
    exact confined.of_same rfl rfl rfl rfl
  | run free =>
    have idle := (State.idle_of_free free).1
    exact confined.push (fun _ _ _ waits => by cases waits) (by rw [idle]; exact .outer trivial) rfl rfl rfl rfl
  | @nextJob job jobs idle =>
    have taken : Confined secret { state with jobs } := confined.of_same rfl rfl rfl rfl
    exact (taken.begun job).toKept.ticked idle (List.mem_append_right _ List.mem_cons_self)
      (discreet_begin host.strtof (clear_of_idle taken.owned idle))
  | @nextHash job hashes call idle =>
    exact confined.push (fun _ _ _ waits => by cases waits) (by rw [idle]; exact .outer trivial) rfl rfl rfl rfl
  | reset =>
    refine confined.of_cache rfl rfl ?_ (Or.inr ?_)
    · intro cacheId result held
      cases held
    · intro result shown
      cases shown
  | act acted => exact confined_acts confined allowed acted
  | @synced _ _ _ performance registry job useCache inside own =>
    have sent : Confined secret { state with registry } := confined.of_same rfl rfl rfl rfl
    have anonymous : (job.complete (performance.outcome job)).callback = "" := (SubmitNative.syncJob_plain own).1
    refine (sent.begun _).asked inside rfl (Component.begin_hooks host.strtof _ anonymous)
      (begin_active host.strtof _ anonymous) ?_ ?_
    · intro other carried
      rw [begin_jobs host.strtof _ _ other carried]
      exact List.mem_append_right _ List.mem_cons_self
    · intro done carried result kept
      rw [List.mem_singleton.mp carried] at kept
      simpa only [withholds, own, Option.all_some, kept, Bool.not_eq_true'] using allowed
  | syncRejected registry handle sql reason inside =>
    have sent : Confined secret { state with registry } := confined.of_same rfl rfl rfl rfl
    refine (sent.begun _).asked inside rfl (Component.begin_hooks host.strtof _ rfl) (begin_active host.strtof _ rfl) ?_ ?_
    · intro other carried
      rw [begin_jobs host.strtof _ _ other carried]
      exact List.mem_append_right _ List.mem_cons_self
    · intro done carried
      cases carried
  | @submitted _ _ _ _ _ submission inside running leaves =>
    have accepted : Confined secret (state.accept submission) := confined.of_same rfl rfl rfl leaves.reads.1
    rw [State.submitted]
    split
    next => exact accepted
    next call _ _ =>
      have orderly : Orderly (({ script := call.script, heap := call.heap, waiting := .reject } : Activation) ::
          state.stack) := .inner trivial inside confined.orderly
      exact accepted.push (fun _ _ _ waits => by cases waits) orderly rfl rfl rfl rfl
  | leave running => exact confined_leave confined running

end Steps

theorem confined_start {secret : QueryResult → Bool} : Confined secret {} where
  orderly := .nil
  saved _ _ held := by cases held
  accounted _ inside := by cases inside
  owned _ shown := by cases shown

/-- Secret rows can be read only while the callback runs that they were fetched for. -/
theorem rows_confined {secret : QueryResult → Bool} {host : Host} {events : List Event} {state : State}
    (run : Run (Guarded (fun state event => withholds secret state event = true) (Steps (step host))) {} events state)
    {result : QueryResult} (readable : state.component.activeCache = some result) (hidden : secret result = true) :
    ∃ serial job, .begun serial job ∈ state.history ∧ job.result = some result ∧ CallbackRuns state.stack serial :=
  have confined : Confined secret state :=
    run.invariant confined_start (fun _ _ _ held move => confined_move held move.1 (moves_of_step move.2))
  confined.owned result readable hidden

section Fetched

private def fetchedById (result : QueryResult) : Bool := result.queryString == "SELECT id"

/-- The callback asks for something the server does not know, which is reported, and lets a hook run. -/
private def mistaken : List Event :=
  .scripts (some listener) :: sending ++ answering ++
    [.submit (.executeSync 1 "SELEC 1" true) (fun _ => 0) 0 (.plain true none 1 1064 "syntax")]

theorem rows_confined_fetched : ∃ state result,
    exec (guarded (fun state event => withholds fetchedById state event = true) (step plainHost)) {} mistaken = some state ∧
    state.component.activeCache = some result ∧ state.stack.length = 2 ∧
    ∃ serial job, .begun serial job ∈ state.history ∧ job.result = some result ∧ CallbackRuns state.stack serial := by
  have reads : ((exec (guarded (fun state event => withholds fetchedById state event = true) (step plainHost)) {} mistaken).any
      fun state => state.component.activeCache.any fetchedById && state.stack.length == 2) = true := by decide
  obtain ⟨state, done, shown⟩ := (Option.any_eq_true ..).mp reads
  obtain ⟨readable, nested⟩ := Bool.and_eq_true_iff.mp shown
  obtain ⟨result, active, hidden⟩ := (Option.any_eq_true ..).mp readable
  exact ⟨state, result, done, active, eq_of_beq nested, rows_confined (Run.of_guarded_exec done) active hidden⟩

end Fetched
end OmpMySQL.MainThread
