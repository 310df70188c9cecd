import OmpMySQL.Library.Transition
import OmpMySQL.MainThread
import OmpMySQL.Proofs.Upcalls

/-! What the stretches of `dispatchJob` between two upcalls can come to, and what one step
of the main thread can do. -/

namespace OmpMySQL
open Library

section Scripts
variable {pawn : Pawn} {component : Component} {script : Nat} {amx : AMX}

def Component.loaded (component : Component) : List AMX := component.pawn.elim [] Pawn.loaded

theorem Component.loaded_of_search {name : String} (found : component.findScriptWithPublic name = some amx) :
    amx ∈ component.loaded := by
  obtain ⟨pawn, present, search⟩ := Option.bind_eq_some_iff.mp found
  rw [loaded, present]
  exact (Pawn.findPublic_of_find search).1

theorem Component.amxOf_loaded (found : component.amxOf script = some amx) :
    amx ∈ component.loaded ∧ amx.script = script := by
  obtain ⟨pawn, present, search⟩ := Option.bind_eq_some_iff.mp found
  rw [loaded, present]
  have same := List.find?_some search
  exact ⟨List.mem_of_find?_eq_some search, of_decide_eq_true same⟩

/-- A script is loaded once. -/
theorem Component.loaded_unique {other : AMX} (member : amx ∈ component.loaded) (also : other ∈ component.loaded)
    (same : amx.script = other.script) : amx = other := by
  rw [loaded] at member also
  cases present : component.pawn with
  | none => simp [present] at member
  | some pawn =>
    rw [present] at member also
    exact List.inj_on_of_nodup_map pawn.distinct member also same

theorem Component.amxOf_of_loaded (member : amx ∈ component.loaded) : component.amxOf amx.script = some amx := by
  cases found : component.amxOf amx.script with
  | some other =>
    obtain ⟨also, same⟩ := amxOf_loaded found
    rw [loaded_unique also member same]
  | none =>
    rw [loaded] at member
    rw [amxOf] at found
    cases present : component.pawn with
    | none => simp [present] at member
    | some pawn =>
      rw [present] at member found
      have absent := List.find?_eq_none.mp found amx member
      exact absurd (decide_eq_true rfl) absent

end Scripts

namespace Component
variable {strtof : String → Cell} {component : Component} {job : QueryJob} {script : Nat}

/-- What is left of a dispatch behind its audit hook. -/
inductive Rest (component : Component) (job : QueryJob) (script : Nat) : Progress → Prop where
  | returned (silent : job.succeeded = true ∨ component.boundPlayerGone job = true ∨ component.fireQueryError job = []) :
      Rest component job script (.returned component)
  | reported {call} (failed : job.succeeded = false) (present : component.boundPlayerGone job = false)
      (made : call ∈ component.fireQueryError job) : Rest component job script (.calling component call .reported)
  | calledBack {amx} (succeeded : job.succeeded = true) (present : component.boundPlayerGone job = false)
      (named : job.callback ≠ "") (found : component.amxOf script = some amx)
      (defined : amx.findPublic job.callback = true) :
      Rest component job script
        (.calling (component.shownTo job)
          ((pushArgs amx.frame job.args).exec amx job.callback .callback (component.shownTo job).activeCache) .calledBack)

theorem afterAudit_rest (strtof : String → Cell) (component : Component) (job : QueryJob) (script : Nat) :
    (component.writeBack strtof job).Rest job script (component.afterAudit strtof job script) := by
  rw [afterAudit]
  generalize written : component.writeBack strtof job = after
  rw [writeBack] at written
  dsimp only
  rw [written]
  cases gone : after.boundPlayerGone job with
  | true => exact .returned (Or.inr (Or.inl gone))
  | false =>
    simp only [Bool.false_eq_true, if_false]
    cases succeeded : job.succeeded with
    | false =>
      simp only [if_true]
      split
      next silent => exact .returned (Or.inr (Or.inr silent))
      next call _ made => exact .reported succeeded gone (made ▸ List.mem_cons_self)
    | true =>
      simp only [Bool.true_eq_false, if_false]
      split_ifs with named
      · exact .returned (Or.inl succeeded)
      · split
        next => exact .returned (Or.inl succeeded)
        next amx found =>
          split_ifs with defined
          · exact .calledBack succeeded gone named found defined
          · exact .returned (Or.inl succeeded)

/-- A dispatch from its beginning. -/
inductive Start (strtof : String → Cell) (component : Component) (job : QueryJob) : Progress → Prop where
  | unresolved (none : component.resolveScript job = none) : Start strtof component job (.returned component)
  | audited {amx call} (resolved : component.resolveScript job = some amx) (made : call ∈ component.auditCalls job) :
      Start strtof component job (.calling component call (.audited job amx.script))
  | unaudited {amx progress} (resolved : component.resolveScript job = some amx) (silent : component.auditCalls job = [])
      (rest : (component.writeBack strtof job).Rest job amx.script progress) : Start strtof component job progress

theorem beginDispatch_start (strtof : String → Cell) (component : Component) (job : QueryJob) :
    Start strtof component job (component.beginDispatch strtof job) := by
  rw [beginDispatch]
  cases resolved : component.resolveScript job with
  | none => exact .unresolved resolved
  | some amx =>
    dsimp only
    cases audit : component.auditCalls job with
    | nil => exact .unaudited resolved audit (component.afterAudit_rest strtof job amx.script)
    | cons call rest => exact .audited resolved (audit ▸ List.mem_cons_self)

end Component

def Resumption.jobs : Resumption → List QueryJob
  | .audited job _ => [job]
  | .reported | .calledBack => []

def Progress.component : Progress → Component
  | .returned component | .calling component _ _ => component

def Progress.jobs : Progress → List QueryJob
  | .returned _ => []
  | .calling _ _ resumption => resumption.jobs

/-- What an asynchronous native does with a query. -/
inductive Server.Sends (outside : Outside) (server : Server) (amx : AMX) : Submission → Prop where
  | nothing : Sends outside server amx { server }
  | reporting (job : QueryJob) (reported : String) :
      Sends outside server amx (server.enqueueReporting outside amx job reported)
  | model (model op : Int) (callback : String) (args : List CallbackArg) :
      Sends outside server amx (server.mysqlModel outside model op callback args)

/-- The job of a synchronous native. -/
def SubmitNative.syncJob : SubmitNative → Option QueryJob
  | .executeSync connectionHandle sql useCache => some { connectionHandle, sql, useCache }
  | .executeFileSync connectionHandle content useCache =>
    (Server.readSqlFile content).map fun sql => { connectionHandle, sql, useCache }
  | _ => none

def SubmitNative.isSync : SubmitNative → Bool
  | .executeSync .. | .executeFileSync .. => true
  | _ => false

/-- It carries no callback and belongs to no model and no player. -/
theorem SubmitNative.syncJob_plain {native : SubmitNative} {job : QueryJob} (own : native.syncJob = some job) :
    job.callback = "" ∧ job.modelHandle = 0 ∧ job.boundPlayer = -1 := by
  cases native with
  | executeSync =>
    cases own
    exact ⟨rfl, rfl, rfl⟩
  | executeFileSync =>
    obtain ⟨sql, _, rfl⟩ := Option.map_eq_some_iff.mp own
    exact ⟨rfl, rfl, rfl⟩
  | execute | executeFor | executeFile | stmtExecute | modelFind | modelInsert | modelUpdate | modelDelete | modelSave =>
    cases own

theorem Server.call_sends (outside : Outside) (server : Server) (amx : AMX) {native : SubmitNative}
    (async : native.isSync = false) : server.Sends outside amx (server.call outside amx native) := by
  cases native with
  | execute | executeFor => exact .reporting _ _
  | executeFile handle content callback args =>
    simp only [call, mysqlExecuteFile]
    cases readSqlFile content with
    | none => exact .nothing
    | some sql => exact .reporting _ _
  | executeSync | executeFileSync => cases async
  | stmtExecute stmt callback args =>
    simp only [call, mysqlStmtExecute]
    cases server.statements stmt with
    | none => exact .nothing
    | some found =>
      dsimp only
      split
      next => exact .nothing
      next => exact .reporting _ _
  | modelFind model callback args => exact .model model Model.opFind callback args
  | modelInsert model callback args => exact .model model Model.opInsert callback args
  | modelUpdate model callback args => exact .model model Model.opUpdate callback args
  | modelDelete model callback args => exact .model model Model.opDelete callback args
  | modelSave model callback args =>
    simp only [call, mysqlModelSave]
    cases server.component.models model with
    | none => exact .nothing
    | some m => exact .model model _ callback args

/-- A model operation that sends nothing may mark its model. -/
theorem modelExecute_component (reader : ScriptReader) (escape : Nat → String → String) (component : Component)
    (registry : Connections) (model op : Int) (callback : String) (args : List CallbackArg) :
    let after := (modelExecute reader escape component registry model op callback args).1
    after = component ∨ ∃ m, component.models model = some m ∧ after = component.setModel model (m.setError .invalid) := by
  rw [modelExecute]
  cases found : component.models model with
  | none => exact Or.inl rfl
  | some m =>
    dsimp only
    split
    next => exact Or.inr ⟨m, rfl, rfl⟩
    next =>
      split
      next => exact Or.inr ⟨m, rfl, rfl⟩
      next => exact Or.inl rfl

/-- An asynchronous native touches no more of the component than a model's status, and makes at most
one call, in the script that called it. -/
inductive Server.Leaves (server : Server) (amx : AMX) : Component → List Invocation → Prop where
  | same : Leaves server amx server.component []
  | marked {model m} (found : server.component.models model = some m) :
      Leaves server amx (server.component.setModel model (m.setError .invalid)) []
  | rejected (error callback sql : String) (handle : Int) :
      Leaves server amx server.component
        [queryErrorCall amx 0 error callback sql handle server.component.activeCache]

theorem Server.Leaves.reads {server : Server} {amx : AMX} {component : Component} {calls : List Invocation}
    (leaves : server.Leaves amx component calls) : component.activeCache = server.component.activeCache ∧
      component.activeResultIndex = server.component.activeResultIndex := by
  cases leaves with
  | same | marked | rejected => exact ⟨rfl, rfl⟩

theorem Server.Leaves.pawn {server : Server} {amx : AMX} {component : Component} {calls : List Invocation}
    (leaves : server.Leaves amx component calls) : component.pawn = server.component.pawn := by
  cases leaves with
  | same | marked | rejected => rfl

theorem Server.Sends.leaves {outside : Outside} {server : Server} {amx : AMX} {submission : Submission}
    (sends : server.Sends outside amx submission) :
    server.Leaves amx submission.server.component submission.calls := by
  cases sends with
  | nothing => exact .same
  | reporting job reported =>
    rw [enqueueReporting]
    split
    next => exact .same
    next =>
      rw [Component.reportGuardReject]
      split
      next => exact .same
      next => exact .rejected _ _ _ _
  | model model op callback args =>
    have marks := modelExecute_component outside.reader outside.escape server.component server.registry model op callback args
    rw [mysqlModel]
    generalize executed : modelExecute outside.reader outside.escape server.component server.registry model op callback args
      = done at marks
    obtain ⟨component, job⟩ := done
    have leaves : server.Leaves amx component [] := by
      rcases marks with rfl | ⟨m, found, rfl⟩
      · exact .same
      · exact .marked found
    cases job with
    | none => exact leaves
    | some job => exact leaves

namespace MainThread

/-- What an action does to what scripts can read. -/
inductive ActsOn (cache : ResultCache) : Action → ResultCache → Prop where
  | other {action component} (pawn : component.pawn = cache.component.pawn)
      (active : component.activeCache = cache.component.activeCache)
      (index : component.activeResultIndex = cache.component.activeResultIndex) :
      ActsOn cache action { cache with component }
  | retain : ActsOn cache .retain cache.saveActiveCache.1
  | release (cacheId : Int) : ActsOn cache (.release cacheId) (cache.deleteSavedCache cacheId).1
  | activate (cacheId : Int) : ActsOn cache (.activate cacheId) (cache.activateSavedCache cacheId).1
  | deactivate : ActsOn cache .deactivate { cache with component := cache.component.clearActiveCache }
  | selectSet (index : Int) :
      ActsOn cache (.selectSet index) { cache with component := (cache.component.setActiveResultIndex index).1 }

/-- The rest of what an action leaves is as it was, the tables under handles aside. -/
theorem State.act_frame {state after : State} {action : Action} (acted : state.act action = some after) :
    ActsOn state.cache action after.cache ∧ ∃ registry statements nextStatement nextModel,
      after = { state with cache := after.cache, registry, statements, nextStatement, nextModel } := by
  cases action with
  | assign | modelDestroy =>
    cases acted
    exact ⟨.other rfl rfl rfl, _, _, _, _, rfl⟩
  | connect | setLimit | stmtClose =>
    cases acted
    exact ⟨.other rfl rfl rfl, _, _, _, _, rfl⟩
  | close handle =>
    simp only [State.act, Option.ite_none_right_eq_some, Option.some.injEq] at acted
    obtain ⟨_, rfl⟩ := acted
    exact ⟨.other rfl rfl rfl, _, _, _, _, rfl⟩
  | prepare handle query =>
    cases acted
    unfold State.prepare
    dsimp only
    split <;> exact ⟨.other rfl rfl rfl, _, _, _, _, rfl⟩
  | modelCreate table handle =>
    cases acted
    unfold State.modelCreate
    split <;> exact ⟨.other rfl rfl rfl, _, _, _, _, rfl⟩
  | model model call =>
    cases acted
    unfold State.modelCall
    split <;> exact ⟨.other rfl rfl rfl, _, _, _, _, rfl⟩
  | retain =>
    cases acted
    exact ⟨.retain, _, _, _, _, rfl⟩
  | release cacheId =>
    cases acted
    exact ⟨.release cacheId, _, _, _, _, rfl⟩
  | activate cacheId =>
    cases acted
    exact ⟨.activate cacheId, _, _, _, _, rfl⟩
  | deactivate =>
    cases acted
    exact ⟨.deactivate, _, _, _, _, rfl⟩
  | selectSet resultIndex =>
    cases acted
    exact ⟨.selectSet resultIndex, _, _, _, _, rfl⟩

theorem ActsOn.pawn {cache after : ResultCache} {action : Action} (acts : ActsOn cache action after) :
    after.component.pawn = cache.component.pawn := by
  cases acts with
  | other pawn => exact pawn
  | release | deactivate => rfl
  | retain =>
    unfold ResultCache.saveActiveCache
    split <;> rfl
  | activate cacheId =>
    unfold ResultCache.activateSavedCache
    split <;> rfl
  | selectSet index =>
    unfold Component.setActiveResultIndex
    split
    next => rfl
    next => split <;> rfl

/-- What one step can do. -/
inductive Moves (host : Host) (state : State) : Event → State → Prop where
  | perform {handle performance job} (oldest : state.sent.find? (·.connectionHandle = handle) = some job) :
      Moves host state (.perform handle performance)
        { state with
          sent := state.sent.eraseP (·.connectionHandle = handle)
          completed := state.completed ++ [job.complete (performance.outcome job)] }
  | hash (job) : Moves host state (.hash job) { state with hashed := state.hashed ++ [job] }
  | players (core) : Moves host state (.players core) (state.setComponent { state.component with core })
  | scripts {pawn} (free : state.free = true) :
      Moves host state (.scripts pawn) (state.setComponent { state.component with pawn })
  | run {script} (free : state.free = true) :
      Moves host state (.run script) { state with stack := { script, waiting := .server } :: state.stack }
  | tick (free : state.free = true) :
      Moves host state .tick { state with phase := .jobs, jobs := state.completed, completed := [] }
  | nextJob {job jobs} (idle : state.stack = []) (phase : state.phase = .jobs) (queue : state.jobs = job :: jobs) :
      Moves host state .turn (State.dispatch host { state with jobs } job .tick)
  | lastJob (idle : state.stack = []) (phase : state.phase = .jobs) (queue : state.jobs = []) :
      Moves host state .turn { state with phase := .hashes, hashes := state.hashed, hashed := [] }
  | silentHash {job hashes} (idle : state.stack = []) (phase : state.phase = .hashes) (queue : state.hashes = job :: hashes)
      (silent : state.component.dispatchHash job = []) : Moves host state .turn { state with hashes }
  | nextHash {job hashes call} (idle : state.stack = []) (phase : state.phase = .hashes)
      (queue : state.hashes = job :: hashes) (made : call ∈ state.component.dispatchHash job) :
      Moves host state .turn (State.upcall { state with hashes } call .hash)
  | lastHash (idle : state.stack = []) (phase : state.phase = .hashes) (queue : state.hashes = []) :
      Moves host state .turn { state with phase := .idle }
  | reset (free : state.free = true) (settled : state.sent = []) : Moves host state .reset state.reset
  | act {action after} (acted : state.act action = some after) : Moves host state (.act action) after
  | unheard {native pending now performance} (registry : Connections) :
      Moves host state (.submit native pending now performance) { state with registry }
  | synced {native pending now performance} (registry : Connections) (job : QueryJob) (useCache : Bool)
      (inside : state.stack ≠ []) (own : native.syncJob = some job)
      (accepted : (state.registry.runJobSync job pending now).reason = .none) :
      Moves host state (.submit native pending now performance)
        (State.dispatch host { state with registry } (job.complete (performance.outcome job))
          (.sync (job.complete (performance.outcome job)) useCache))
  | syncRejected {native pending now performance} (registry : Connections) (handle : Int) (sql : String)
      (reason : GuardReject) (inside : state.stack ≠ []) :
      Moves host state (.submit native pending now performance)
        (State.dispatch host { state with registry } (Component.rejectedJob handle sql reason) .syncReject)
  | submitted {native pending now performance amx submission} (inside : state.stack ≠ [])
      (running : amx ∈ state.component.loaded)
      (leaves : state.server.Leaves amx submission.server.component submission.calls) :
      Moves host state (.submit native pending now performance) (state.submitted submission)
  | leave {activation stack} (running : state.stack = activation :: stack) :
      Moves host state .leave (state.leave host activation stack)

theorem runSync_moves {host : Host} {state after : State} {handle : Int} {sql : String} {useCache : Bool}
    {native : SubmitNative} {pending : Nat → Int} {now : Int} {performance : Performance}
    (inside : state.stack ≠ []) (own : native.syncJob = some { connectionHandle := handle, sql, useCache })
    (ran : state.runSync host handle sql useCache pending now performance = some after) :
    Moves host state (.submit native pending now performance) after := by
  unfold State.runSync at ran
  dsimp only at ran
  split at ran
  next =>
    cases ran
    exact .unheard _
  next =>
    split at ran
    next accepted =>
      simp only [Option.ite_none_right_eq_some, Option.some.injEq] at ran
      obtain ⟨_, rfl⟩ := ran
      exact .synced _ _ useCache inside own accepted
    next =>
      cases ran
      exact .syncRejected _ handle sql _ inside

theorem submit_moves {host : Host} {state after : State} {amx : AMX} (inside : state.stack ≠ [])
    (running : amx ∈ state.component.loaded)
    {native : SubmitNative} {pending : Nat → Int} {now : Int} {performance : Performance}
    (submitted : state.submit host amx pending now performance native = some after) :
    Moves host state (.submit native pending now performance) after := by
  cases native with
  | executeSync handle query useCache => exact runSync_moves inside rfl submitted
  | executeFileSync handle content useCache =>
    simp only [State.submit] at submitted
    split at submitted
    next =>
      cases submitted
      exact .unheard state.registry
    next sql found => exact runSync_moves inside (by rw [SubmitNative.syncJob, found]; rfl) submitted
  | execute | executeFor | executeFile | stmtExecute | modelFind | modelInsert | modelUpdate | modelDelete | modelSave =>
    cases submitted
    exact .submitted inside running (Server.call_sends (host.outside pending now) state.server amx rfl).leaves

theorem turn_moves {host : Host} {state : State} (idle : state.stack = []) (busy : state.phase ≠ .idle) :
    Moves host state .turn (state.turn host) := by
  unfold State.turn
  split
  next none => exact absurd none busy
  next phase =>
    split
    next queue => exact .nextJob idle phase queue
    next queue => exact .lastJob idle phase queue
  next phase =>
    split
    next queue => exact .lastHash idle phase queue
    next queue =>
      split
      next silent => exact .silentHash idle phase queue silent
      next made => exact .nextHash idle phase queue (made ▸ List.mem_cons_self)

theorem moves_of_step {host : Host} {state after : State} {event : Event} (stepped : step host state event = some after) :
    Moves host state event after := by
  cases event with
  | perform handle performance =>
    obtain ⟨job, oldest, rfl⟩ := Option.map_eq_some_iff.mp stepped
    exact .perform oldest
  | hash job =>
    cases stepped
    exact .hash job
  | players core =>
    cases stepped
    exact .players core
  | scripts pawn =>
    simp only [step, Option.ite_none_right_eq_some, Option.some.injEq] at stepped
    obtain ⟨free, rfl⟩ := stepped
    exact .scripts free
  | run script =>
    simp only [step, State.run, Option.ite_none_right_eq_some, Option.some.injEq] at stepped
    obtain ⟨free, _, rfl⟩ := stepped
    exact .run free
  | tick =>
    simp only [step, Option.ite_none_right_eq_some, Option.some.injEq] at stepped
    obtain ⟨free, rfl⟩ := stepped
    exact .tick free
  | turn =>
    simp only [step, Option.ite_none_right_eq_some, Option.some.injEq, List.isEmpty_iff] at stepped
    obtain ⟨⟨idle, busy⟩, rfl⟩ := stepped
    exact turn_moves idle busy
  | reset =>
    simp only [step, Option.ite_none_right_eq_some, Option.some.injEq] at stepped
    obtain ⟨⟨free, settled⟩, rfl⟩ := stepped
    exact .reset free settled
  | act action =>
    simp only [step, Option.ite_none_right_eq_some] at stepped
    exact .act stepped.2
  | submit native pending now performance =>
    obtain ⟨amx, running, submitted⟩ := Option.bind_eq_some_iff.mp stepped
    obtain ⟨activation, innermost, found⟩ := Option.bind_eq_some_iff.mp running
    have inside : state.stack ≠ [] := by
      intro none
      rw [none] at innermost
      cases innermost
    exact submit_moves inside (Component.amxOf_loaded found).1 submitted
  | leave =>
    simp only [step] at stepped
    split at stepped
    next => cases stepped
    next running =>
      cases stepped
      exact .leave running

theorem State.idle_of_free {state : State} (free : state.free = true) : state.stack = [] ∧ state.phase = .idle := by
  simpa only [State.free, Bool.and_eq_true, List.isEmpty_iff, beq_iff_eq] using free

section Visit

/-- A gamemode that listens to everything and a connection. -/
def listener : Pawn where
  mainScript := some { script := 0, publics := ["OnQueryExecute", "OnQueryError", "OnRows"], hea := 100 }
  distinct := by simp

def listening : State := { cache := { component := { pawn := some listener } } }

def plainHost : Host where
  reader := { getString := fun _ _ => "", floatText := fun _ => "" }
  escape _ text := text
  strtof _ := 0

def oneRow (text : String) : Performance :=
  .plain true
    (some (.last { stored := some ⟨[(some "id", 3)], [{ text := fun _ => some text, lengths := some fun _ => text.length }]⟩ }
      (-1))) 12 0 ""

/-- A timer connects and sends a query. -/
def sending : List Event :=
  [.run 0, .act (.connect 7 false),
    .submit (.execute 1 "SELECT id" "OnRows" [.int 3, .string "x"]) (fun _ => 0) 0 .disconnected, .leave,
    .perform 1 (oneRow "5")]

/-- The query's hook returns and its callback starts. -/
def answering : List Event := [.tick, .turn, .leave]

/-- The callback makes a query of its own, whose hook is refused another. -/
def asking : List Event :=
  [.submit (.executeSync 1 "SELECT 1" true) (fun _ => 0) 0 (oneRow "6"),
    .submit (.execute 1 "SELECT 1; DROP TABLE t" "" []) (fun _ => 0) 0 .disconnected]

end Visit
end MainThread
end OmpMySQL
