import OmpMySQL.Library.BumpHeap
import OmpMySQL.ModelVariables
import OmpMySQL.ResultCache
import OmpMySQL.Submissions

/-! The main thread while scripts run. `dispatchJob` waits inside each upcall for its
script, and that script may use every native, those included that make an upcall of
their own before they return. -/

namespace OmpMySQL
open Library

section Heap

def AMX.withHeap (top : AMX → Int) (amx : AMX) : AMX := { amx with hea := top amx }

theorem Pawn.loaded_map (main : Option AMX) (side : List (Option AMX)) (act : AMX → AMX) :
    (main.map act).toList ++ (side.map (Option.map act)).filterMap id = (main.toList ++ side.filterMap id).map act := by
  rw [List.map_append, Option.toList_map, List.filterMap_map, List.map_filterMap]
  rfl

def Pawn.withHeaps (pawn : Pawn) (top : AMX → Int) : Pawn where
  mainScript := pawn.mainScript.map (AMX.withHeap top)
  sideScripts := pawn.sideScripts.map (Option.map (AMX.withHeap top))
  distinct := by
    rw [loaded_map, List.map_map]
    exact pawn.distinct

def Component.onHeap (component : Component) (script : Nat) (act : Int → Int) : Component :=
  { component with
    pawn := component.pawn.map (·.withHeaps fun amx => if amx.script = script then act amx.hea else amx.hea) }

/-- The script that is loaded under this number, as it stands now. -/
def Component.amxOf (component : Component) (script : Nat) : Option AMX :=
  component.pawn.bind fun pawn => pawn.loaded.find? (·.script = script)

/-- Where a string pushed on the heap ends: a cell for each character and one for the terminator. -/
def heapEnd (pushed : Cell × String) : Int := pushed.1 + 4 * (pushed.2.length + 1)

end Heap

/-- Where `dispatchJob` goes on when the script it called returns. -/
inductive Resumption where
  | audited (job : QueryJob) (script : Nat)
  | reported
  | calledBack

/-- `dispatchJob` up to its next upcall, or to its end. -/
inductive Progress where
  | returned (component : Component)
  | calling (component : Component) (call : Invocation) (resumption : Resumption)

namespace Component

variable (strtof : String → Cell) (component : Component)

/-- What the callback of a job gets to read. -/
def shownTo (job : QueryJob) : Component :=
  match job.result with
  | none => component
  | some result => component.setActiveCache result 0

/-- `dispatchJob` behind the audit hook. -/
def afterAudit (job : QueryJob) (script : Nat) : Progress :=
  let component := if 0 < job.modelHandle then component.applyModelResult strtof job else component
  if component.boundPlayerGone job then .returned component
  else if job.succeeded = false then
    match component.fireQueryError job with
    | [] => .returned component
    | call :: _ => .calling component call .reported
  else if job.callback = "" then .returned component
  else match component.amxOf script with
    -- No script is unloaded while one runs.
    | none => .returned component
    | some amx =>
      if amx.findPublic job.callback then
        let component := component.shownTo job
        .calling component ((pushArgs amx.frame job.args).exec amx job.callback .callback component.activeCache) .calledBack
      else .returned component

def beginDispatch (job : QueryJob) : Progress :=
  match component.resolveScript job with
  | none => .returned component
  | some amx =>
    match component.auditCalls job with
    | [] => component.afterAudit strtof job amx.script
    | call :: _ => .calling component call (.audited job amx.script)

def resumeDispatch : Resumption → Progress
  | .audited job script => component.afterAudit strtof job script
  | .reported => .returned component
  | .calledBack => .returned component.clearActiveCache

end Component

namespace MainThread

/-- What called `dispatchJob`: the tick, or a synchronous native. -/
inductive Caller where
  | tick
  | sync (done : QueryJob) (useCache : Bool)
  | syncReject

/-- What waits for a running public. The server calls publics of its own accord. -/
inductive Waiting where
  | server
  | dispatch (serial : Nat) (resumption : Resumption) (caller : Caller)
  | hash
  | reject

/-- A running public, with the strings that were pushed for it. -/
structure Activation where
  script : Nat
  heap : List (Cell × String) := []
  waiting : Waiting

/-- Dispatches are numbered as they begin. -/
inductive Note where
  | begun (serial : Nat) (job : QueryJob)
  | called (serial : Nat) (call : Invocation)
  | ended (serial : Nat)

/-- Where `onTick` is. -/
inductive Phase where
  | idle
  | jobs
  | hashes
  deriving DecidableEq, Repr

/-- `sent` are the jobs the workers have, `completed` and `hashed` the sinks, `jobs` and
`hashes` what `onTick` has taken from them. The innermost activation comes first. -/
structure State where
  cache : ResultCache := {}
  registry : Connections := {}
  statements : Table Int StatementRef := .empty
  nextStatement : Int := 1
  nextModel : Int := 1
  sent : List QueryJob := []
  completed : List QueryJob := []
  hashed : List HashJob := []
  phase : Phase := .idle
  jobs : List QueryJob := []
  hashes : List HashJob := []
  stack : List Activation := []
  dispatches : Nat := 0
  history : List Note := []

structure Host where
  reader : ScriptReader
  escape : Nat → String → String
  strtof : String → Cell

def Host.outside (host : Host) (pending : Nat → Int) (now : Int) : Outside :=
  { reader := host.reader, escape := host.escape, strtof := host.strtof, pending, now }

namespace State

variable (host : Host) (state : State)

abbrev component : Component := state.cache.component

def setComponent (component : Component) : State := { state with cache := { state.cache with component } }

def server : Server := { component := state.component, registry := state.registry, statements := state.statements }

/-- The parameters are pushed and the script starts. -/
def upcall (call : Invocation) (waiting : Waiting) : State :=
  { state.setComponent (state.component.onHeap call.script (BumpHeap.reserve heapEnd call.heap)) with
    stack := { script := call.script, heap := call.heap, waiting } :: state.stack }

/-- What is left to do for the caller of a dispatch that has ended. -/
def settle : Caller → State
  | .tick | .syncReject => state
  | .sync done useCache => { state with cache := (state.cache.syncQuery done useCache).1 }

def proceed (serial : Nat) (caller : Caller) : Progress → State
  | .returned component =>
    { (state.setComponent component).settle caller with history := state.history ++ [.ended serial] }
  | .calling component call resumption =>
    { (state.setComponent component).upcall call (.dispatch serial resumption caller) with
      history := state.history ++ [.called serial call] }

section Proceed
variable (serial : Nat) (caller : Caller) (component : Component) (call : Invocation) (resumption : Resumption)

@[simp] theorem calling_stack : (state.proceed serial caller (.calling component call resumption)).stack =
    { script := call.script, heap := call.heap, waiting := .dispatch serial resumption caller } :: state.stack := rfl

@[simp] theorem calling_history : (state.proceed serial caller (.calling component call resumption)).history =
    state.history ++ [.called serial call] := rfl

@[simp] theorem calling_active :
    (state.proceed serial caller (.calling component call resumption)).component.activeCache = component.activeCache := rfl

@[simp] theorem returned_stack : (state.proceed serial caller (.returned component)).stack = state.stack := by
  cases caller <;> rfl

@[simp] theorem returned_history : (state.proceed serial caller (.returned component)).history =
    state.history ++ [.ended serial] := rfl

end Proceed

def begun (job : QueryJob) : State :=
  { state with dispatches := state.dispatches + 1, history := state.history ++ [.begun state.dispatches job] }

def dispatch (job : QueryJob) (caller : Caller) : State :=
  (state.begun job).proceed state.dispatches caller (state.component.beginDispatch host.strtof job)

/-- The strings of the innermost public are released. -/
def pop (activation : Activation) (stack : List Activation) : State :=
  { state.setComponent (state.component.onHeap activation.script (BumpHeap.release Prod.fst activation.heap)) with stack }

/-- The innermost public returns. -/
def leave (activation : Activation) (stack : List Activation) : State :=
  let left := state.pop activation stack
  match activation.waiting with
  | .server | .hash | .reject => left
  | .dispatch serial resumption caller =>
    left.proceed serial caller (left.component.resumeDispatch host.strtof resumption)

/-- The next turn of the loops of `onTick`. -/
def turn : State :=
  match state.phase with
  | .idle => state
  | .jobs =>
    match state.jobs with
    | job :: jobs => { state with jobs }.dispatch host job .tick
    | [] => { state with phase := .hashes, hashes := state.hashed, hashed := [] }
  | .hashes =>
    match state.hashes with
    | [] => { state with phase := .idle }
    | job :: hashes =>
      match state.component.dispatchHash job with
      | [] => { state with hashes }
      | call :: _ => { state with hashes }.upcall call .hash

end State

/-- What a script does that makes no upcall: its own assignments, and the natives that
keep to the component's tables. -/
inductive Action where
  | assign (addr : Nat) (value : Cell)
  | connect (raw : Nat) (multiStatements : Bool)
  | close (handle : Int)
  | setLimit (handle type value : Int)
  | prepare (handle : Int) (query : String)
  | stmtClose (stmt : Int)
  | modelCreate (table : String) (handle : Int)
  | modelDestroy (model : Int)
  | model (model : Int) (call : ModelCall)
  | retain
  | release (cacheId : Int)
  | activate (cacheId : Int)
  | deactivate
  | selectSet (resultIndex : Int)

/-- `submit` comes with what its worker makes of a synchronous query, and `perform` is a
worker with its oldest job. -/
inductive Event where
  | perform (handle : Int) (performance : Performance)
  | hash (job : HashJob)
  | players (core : Option (Int → Option Nat))
  | scripts (pawn : Option Pawn)
  | run (script : Nat)
  | tick
  | turn
  | reset
  | act (action : Action)
  | submit (native : SubmitNative) (pending : Nat → Int) (now : Int) (performance : Performance)
  | leave

namespace State

variable (host : Host) (state : State)

/-- The main thread is in no script and in no tick. -/
def free : Bool := state.stack.isEmpty && state.phase == .idle

/-- A worker that is stopped performs what it has first. -/
def settled (handle : Int) : Bool := state.sent.all (·.connectionHandle != handle)

def prepare (handle : Int) (query : String) : State :=
  let made : StatementRef := { id := state.nextStatement.toNat, conn := state.registry.getConnection handle, query }
  if made.valid then
    { state with
      statements := state.statements.emplace state.nextStatement made
      nextStatement := state.nextStatement + 1 }
  else state

def modelCreate (table : String) (handle : Int) : State :=
  if table = "" ∨ state.registry.getConnection handle = none then state
  else
    { state.setComponent (state.component.setModel state.nextModel { connectionHandle := handle, table }) with
      nextModel := state.nextModel + 1 }

def modelCall (model : Int) (call : ModelCall) : State :=
  match state.component.models model with
  | none => state
  | some m => state.setComponent (state.component.setModel model (call.apply m).1)

def act : Action → Option State
  | .assign addr value => some (state.setComponent (state.component.store addr value))
  | .connect raw multiStatements =>
    some { state with registry := (state.registry.addConnection (some raw) multiStatements).1 }
  | .close handle =>
    if state.settled handle then some { state with registry := (state.registry.removeConnection handle).1 } else none
  | .setLimit handle type value => some { state with registry := (state.registry.setLimit handle type value).1 }
  | .prepare handle query => some (state.prepare handle query)
  | .stmtClose stmt => some { state with statements := state.statements.erase stmt }
  | .modelCreate table handle => some (state.modelCreate table handle)
  | .modelDestroy model =>
    some (state.setComponent { state.component with models := Table.erase state.component.models model })
  | .model model call => some (state.modelCall model call)
  | .retain => some { state with cache := state.cache.saveActiveCache.1 }
  | .release cacheId => some { state with cache := (state.cache.deleteSavedCache cacheId).1 }
  | .activate cacheId => some { state with cache := (state.cache.activateSavedCache cacheId).1 }
  | .deactivate => some (state.setComponent state.component.clearActiveCache)
  | .selectSet resultIndex => some (state.setComponent (state.component.setActiveResultIndex resultIndex).1)

/-- `RunSyncQuery`. The worker gets to the job behind those it has already. -/
def runSync (handle : Int) (sql : String) (useCache : Bool) (pending : Nat → Int) (now : Int)
    (performance : Performance) : Option State :=
  let job : QueryJob := { connectionHandle := handle, sql, useCache }
  let sent := state.registry.runJobSync job pending now
  let after := { state with registry := sent.registry }
  if sent.reason = .unknownHandle then some after
  else if sent.reason = .none then
    let done := job.complete (performance.outcome job)
    if state.settled handle then some (after.dispatch host done (.sync done useCache)) else none
  else some (after.dispatch host (Component.rejectedJob handle sql sent.reason) .syncReject)

/-- What an asynchronous native submitted goes to its worker. -/
def accept (submission : Submission) : State :=
  { state.setComponent submission.server.component with
    registry := submission.server.registry
    sent := match submission.sent with
      | some (job, .none) => state.sent ++ [job]
      | _ => state.sent }

/-- A refusal is reported to the script that called. -/
def submitted (submission : Submission) : State :=
  match submission.calls with
  | [] => state.accept submission
  | call :: _ => (state.accept submission).upcall call .reject

def submit (amx : AMX) (pending : Nat → Int) (now : Int) (performance : Performance) (native : SubmitNative) :
    Option State :=
  match native with
  | .executeSync handle query useCache => state.runSync host handle query useCache pending now performance
  | .executeFileSync handle content useCache =>
    match Server.readSqlFile content with
    | none => some state
    | some sql => state.runSync host handle sql useCache pending now performance
  | native => some (state.submitted (state.server.call (host.outside pending now) amx native))

/-- The script that runs now. -/
def running : Option AMX := state.stack.head?.bind fun activation => state.component.amxOf activation.script

def perform (handle : Int) (performance : Performance) : Option State :=
  (state.sent.find? (·.connectionHandle = handle)).map fun job =>
    { state with
      sent := state.sent.eraseP (·.connectionHandle = handle)
      completed := state.completed ++ [job.complete (performance.outcome job)] }

/-- A public the server calls by itself, a timer or an event of the game. -/
def run (script : Nat) : Option State :=
  if (state.component.amxOf script).isSome then some { state with stack := { script, waiting := .server } :: state.stack }
  else none

def reset : State :=
  { state with
    cache := { state.cache.reset with
      component := { state.cache.reset.component with models := fun _ => none } }
    registry := state.registry.reset
    statements := .empty
    nextStatement := 1
    nextModel := 1 }

end State

def step (host : Host) (state : State) : Event → Option State
  | .perform handle performance => state.perform handle performance
  | .hash job => some { state with hashed := state.hashed ++ [job] }
  | .players core => some (state.setComponent { state.component with core })
  | .scripts pawn => if state.free then some (state.setComponent { state.component with pawn }) else none
  | .run script => if state.free then state.run script else none
  | .tick => if state.free then some { state with phase := .jobs, jobs := state.completed, completed := [] } else none
  | .turn => if state.stack.isEmpty ∧ state.phase ≠ .idle then some (state.turn host) else none
  | .reset => if state.free ∧ state.sent = [] then some state.reset else none
  | .act action => if state.running.isSome then state.act action else none
  | .submit native pending now performance =>
    state.running.bind fun amx => state.submit host amx pending now performance native
  | .leave =>
    match state.stack with
    | [] => none
    | activation :: stack => some (state.leave host activation stack)

end MainThread
end OmpMySQL
