import OmpMySQL.Proofs.ScriptHeaps

/-! Scripts that only listen. When every public returns at once, a tick of the main thread
is what `dispatchJob` says it is, one job after the other. -/

namespace OmpMySQL
open Library

section Heaps
variable {component : Component} {amx : AMX}

/-- A call takes back what it put on the heap of its script. -/
theorem Component.onHeap_restored {call : Invocation} (above : call.Above component.loaded) :
    (component.onHeap call.script (BumpHeap.reserve heapEnd call.heap)).onHeap call.script
      (BumpHeap.release Prod.fst call.heap) = component := by
  obtain ⟨amx, member, here, laid⟩ := above
  cases present : component.pawn with
  | none =>
    rw [loaded, present] at member
    cases member
  | some pawn =>
    have back : (pawn.withHeaps fun other =>
        if other.script = call.script then BumpHeap.reserve heapEnd call.heap other.hea else other.hea).withHeaps
          (fun other => if other.script = call.script then BumpHeap.release Prod.fst call.heap other.hea else other.hea) =
        pawn := by
      rw [Pawn.withHeaps_withHeaps]
      refine Pawn.withHeaps_eq ?_
      intro other known
      have known : other ∈ component.loaded := by rwa [loaded, present]
      by_cases same : other.script = call.script
      · cases component.loaded_unique known member (same.trans here)
        simpa [AMX.withHeap, same] using laid.release_reserve
      · simp [AMX.withHeap, same]
    simp only [onHeap, present, Option.map_some, back]
    rw [← present]

end Heaps

/-- A dispatch whose publics return at once: what it leaves behind, and the calls it makes. -/
inductive Quietly (strtof : String → Cell) : Progress → Component → List Invocation → Prop where
  | returned (component : Component) : Quietly strtof (.returned component) component []
  | calling {component call resumption after calls}
      (rest : Quietly strtof (component.resumeDispatch strtof resumption) after calls) :
      Quietly strtof (.calling component call resumption) after (call :: calls)

namespace Component
variable {component : Component} {job : QueryJob} {amx : AMX}

/-- `dispatchJob` behind its audit hook, in one go. -/
def behindAudit (component : Component) (amx : AMX) (job : QueryJob) : Dispatched :=
  if component.boundPlayerGone job then { component }
  else if job.succeeded = false then { component, calls := component.fireQueryError job }
  else if job.callback = "" then { component }
  else component.runCallback amx job

theorem dispatchJob_resolved (strtof : String → Cell) (resolved : component.resolveScript job = some amx) :
    (component.dispatchJob strtof job).component = ((component.writeBack strtof job).behindAudit amx job).component ∧
      (component.dispatchJob strtof job).calls =
        component.auditCalls job ++ ((component.writeBack strtof job).behindAudit amx job).calls := by
  rw [dispatchJob, resolved]
  dsimp only
  rw [← writeBack, behindAudit]
  split_ifs
  all_goals simp

theorem resolveScript_loaded (resolved : component.resolveScript job = some amx) : amx ∈ component.loaded := by
  rw [resolveScript] at resolved
  rcases Option.or_eq_some_iff.mp resolved with owner | ⟨_, main⟩
  · split at owner
    next => cases owner
    next => exact loaded_of_search owner
  · obtain ⟨pawn, present, gamemode⟩ := Option.bind_eq_some_iff.mp main
    rw [loaded, present]
    exact List.mem_append_left _ (Option.mem_toList.mpr gamemode)

theorem shownTo_cleared (component : Component) (job : QueryJob) :
    (component.shownTo job).clearActiveCache = { component with activeCache := none, activeResultIndex := 0 } ∧
      (component.shownTo job).activeCache = job.result.or component.activeCache := by
  rw [shownTo]
  cases job.result with
  | none => exact ⟨rfl, rfl⟩
  | some result => exact ⟨rfl, rfl⟩

theorem quietly_behind (strtof : String → Cell) (member : amx ∈ component.loaded) :
    Quietly strtof (component.afterAudit strtof job amx.script)
      ((component.writeBack strtof job).behindAudit amx job).component
      ((component.writeBack strtof job).behindAudit amx job).calls := by
  have found : (component.writeBack strtof job).amxOf amx.script = some amx := by
    apply amxOf_of_loaded
    rwa [loaded, (component.sameHost_writeBack strtof job).pawn]
  rw [afterAudit]
  dsimp only
  rw [← writeBack, behindAudit]
  generalize component.writeBack strtof job = written at found
  split_ifs with gone failed named
  · exact .returned _
  · rw [fireQueryError]
    cases written.findScriptWithPublic "OnQueryError" with
    | none => exact .returned _
    | some first => exact .calling (.returned _)
  · exact .returned _
  · rw [found, runCallback]
    dsimp only
    cases amx.findPublic job.callback with
    | false => exact .returned _
    | true =>
      obtain ⟨cleared, active⟩ := written.shownTo_cleared job
      simp only [if_true]
      rw [← active, ← cleared]
      exact .calling (.returned _)

/-- With scripts that only listen the stretches of a dispatch come to what `dispatchJob` does. -/
theorem quietly_dispatch (strtof : String → Cell) (component : Component) (job : QueryJob) :
    Quietly strtof (component.beginDispatch strtof job) (component.dispatchJob strtof job).component
      (component.dispatchJob strtof job).calls := by
  cases resolved : component.resolveScript job with
  | none =>
    rw [beginDispatch, dispatchJob, resolved]
    exact .returned component
  | some amx =>
    obtain ⟨left, made⟩ := dispatchJob_resolved strtof resolved
    rw [left, made, beginDispatch, resolved]
    have rest := @quietly_behind component job amx strtof (resolveScript_loaded resolved)
    have single : component.auditCalls job = [] ∨ ∃ call, component.auditCalls job = [call] := by
      unfold auditCalls fireQueryExecuteHook
      split
      next =>
        split
        next => exact Or.inl rfl
        next => exact Or.inr ⟨_, rfl⟩
      next => exact Or.inl rfl
    rcases single with silent | ⟨call, made⟩
    · rw [silent]
      exact rest
    · rw [made]
      exact .calling rest

/-- The jobs of a tick, one after the other. -/
def dispatchAll (strtof : String → Cell) (component : Component) : List QueryJob → Component × List Invocation
  | [] => (component, [])
  | job :: rest =>
    let first := component.dispatchJob strtof job
    let later := first.component.dispatchAll strtof rest
    (later.1, first.calls ++ later.2)

end Component

namespace MainThread

def Note.invocation : Note → Option Invocation
  | .called _ call => some call
  | .begun _ _ | .ended _ => none

/-- The calls of all dispatches so far. -/
def State.calls (state : State) : List Invocation := state.history.filterMap Note.invocation

/-- What a tick still has to do when its publics only return: the component it leaves, and the calls it makes. -/
inductive Remains (strtof : String → Cell) (final : Component) (calls : List Invocation) (state : State) : Prop where
  | jobs (idle : state.stack = []) (phase : state.phase = .jobs)
      (left : (state.component.dispatchAll strtof state.jobs).1 = final)
      (made : state.calls ++ (state.component.dispatchAll strtof state.jobs).2 = calls)
  | calling {activation serial resumption} (running : state.stack = [activation])
      (waits : activation.waiting = .dispatch serial resumption .tick) (phase : state.phase = .jobs) {component more}
      (rest : Quietly strtof ((state.pop activation []).component.resumeDispatch strtof resumption) component more)
      (left : (component.dispatchAll strtof state.jobs).1 = final)
      (made : state.calls ++ more ++ (component.dispatchAll strtof state.jobs).2 = calls)
  | hashes (idle : state.stack = []) (phase : state.phase ≠ .jobs) (left : state.component = final)
      (made : state.calls = calls)
  | hashing {activation} (running : state.stack = [activation]) (waits : activation.waiting = .hash)
      (phase : state.phase = .hashes) (left : (state.pop activation []).component = final) (made : state.calls = calls)

section Steps
variable {host : Host} {state : State} {final : Component} {calls : List Invocation}

theorem remains_proceed {serial : Nat} {progress : Progress} {component : Component} {more : List Invocation}
    (idle : state.stack = []) (phase : state.phase = .jobs) (stands : Progress.Stands state.component progress)
    (rest : Quietly host.strtof progress component more) (left : (component.dispatchAll host.strtof state.jobs).1 = final)
    (made : state.calls ++ more ++ (component.dispatchAll host.strtof state.jobs).2 = calls) :
    Remains host.strtof final calls (state.proceed serial .tick progress) := by
  cases rest with
  | returned =>
    have same : (state.proceed serial .tick (.returned component)).calls = state.calls ++ [] := by
      simp [State.calls, Note.invocation]
    exact .jobs idle phase left (same ▸ made)
  | @calling before call resumption _ more rest =>
    have same : (state.proceed serial .tick (.calling before call resumption)).calls = state.calls ++ [call] := by
      simp [State.calls, Note.invocation]
    have above : call.Above before.loaded := by
      rw [Component.loaded_congr stands.1]
      exact stands.2
    have restored : ((state.proceed serial .tick (.calling before call resumption)).pop
        { script := call.script, heap := call.heap, waiting := .dispatch serial resumption .tick } []).component = before :=
      Component.onHeap_restored above
    refine .calling (by rw [State.calling_stack, idle]) rfl phase (restored ▸ rest) left ?_
    rw [same, List.append_assoc state.calls, List.singleton_append]
    exact made

/-- Scripts make no native calls, while the workers go on. -/
def quiet : Event → Bool
  | .turn | .leave | .perform _ _ | .hash _ => true
  | _ => false

theorem Remains.of_same (remains : Remains host.strtof final calls state) {after : State} (stack : after.stack = state.stack)
    (phase : after.phase = state.phase) (jobs : after.jobs = state.jobs) (component : after.component = state.component)
    (history : after.history = state.history) : Remains host.strtof final calls after := by
  have same : after.calls = state.calls := by rw [State.calls, State.calls, history]
  have popped (activation : Activation) : (after.pop activation []).component = (state.pop activation []).component := by
    rw [State.pop, State.pop, component]
    rfl
  cases remains with
  | jobs idle stage left made =>
    exact .jobs (stack.trans idle) (phase.trans stage) (by rwa [component, jobs]) (by rwa [same, component, jobs])
  | calling running waits stage rest left made =>
    exact .calling (stack.trans running) waits (phase.trans stage) (by rwa [popped]) (by rwa [jobs]) (by rwa [same, jobs])
  | hashes idle stage left made =>
    exact .hashes (stack.trans idle) (phase.symm ▸ stage) (component.trans left) (same.trans made)
  | hashing running waits stage left made =>
    exact .hashing (stack.trans running) waits (phase.trans stage) (by rwa [popped]) (same.trans made)

theorem remains_move {event : Event} {after : State} (remains : Remains host.strtof final calls state)
    (allowed : quiet event = true) (moved : Moves host state event after) : Remains host.strtof final calls after := by
  cases moved with
  | perform | hash => exact remains.of_same rfl rfl rfl rfl rfl
  | players | scripts | run | tick | reset | act | unheard | synced | syncRejected | submitted => cases allowed
  | @nextJob job jobs idle phase queue =>
    cases remains with
    | jobs _ _ left made =>
      rw [queue, Component.dispatchAll] at left made
      have same : (State.begun { state with jobs } job).calls = state.calls := by
        simp [State.calls, State.begun, Note.invocation]
      refine @remains_proceed host (State.begun { state with jobs } job) _ _ _ _ _ _ idle phase
        (stands_begin host.strtof state.component job) (Component.quietly_dispatch host.strtof state.component job) left ?_
      rw [same, List.append_assoc]
      exact made
    | calling running | hashing running => cases idle.symm.trans running
    | hashes _ other => exact absurd phase other
  | lastJob idle phase queue =>
    cases remains with
    | jobs _ _ left made =>
      rw [queue, Component.dispatchAll] at left made
      exact .hashes idle (by simp) left ((List.append_nil _).symm.trans made)
    | calling running | hashing running => cases idle.symm.trans running
    | hashes _ other => exact absurd phase other
  | silentHash idle phase | lastHash idle phase =>
    cases remains with
    | jobs _ stage => cases phase.symm.trans stage
    | calling running | hashing running => cases idle.symm.trans running
    | hashes _ _ left made => exact .hashes idle (by simp [phase]) left made
  | nextHash idle phase queue made =>
    cases remains with
    | jobs _ stage => cases phase.symm.trans stage
    | calling running | hashing running => cases idle.symm.trans running
    | hashes _ _ left counted =>
      refine .hashing (congrArg _ idle) rfl phase ?_ counted
      exact (Component.onHeap_restored (dispatchHash_above made)).trans left
  | @leave activation stack running =>
    cases remains with
    | jobs idle | hashes idle => cases idle.symm.trans running
    | calling alone waits phase rest left made =>
      cases running.symm.trans alone
      rw [State.leave, waits]
      exact @remains_proceed host (state.pop _ []) _ _ _ _ _ _ rfl phase (stands_resume host.strtof _ _) rest left made
    | hashing alone waits phase left made =>
      cases running.symm.trans alone
      rw [State.leave, waits]
      exact .hashes rfl (by simp [State.pop, State.setComponent, phase]) left made

end Steps

/-- A tick in which scripts only listen leaves what its jobs leave one after the other, and makes their
calls in their order. -/
theorem quiet_tick {host : Host} {start ticked state : State} {events : List Event}
    (ticks : step host start .tick = some ticked)
    (run : Run (Guarded (fun _ event => quiet event = true) (Steps (step host))) ticked events state)
    (done : state.phase = .idle) :
    state.component = (start.component.dispatchAll host.strtof start.completed).1 ∧
      state.calls = start.calls ++ (start.component.dispatchAll host.strtof start.completed).2 := by
  simp only [step, Option.ite_none_right_eq_some, Option.some.injEq] at ticks
  obtain ⟨free, rfl⟩ := ticks
  have remains : Remains host.strtof (start.component.dispatchAll host.strtof start.completed).1
      (start.calls ++ (start.component.dispatchAll host.strtof start.completed).2) state := by
    refine run.invariant (.jobs (State.idle_of_free free).1 rfl rfl rfl) ?_
    exact fun _ _ _ held move => remains_move held move.1 (moves_of_step move.2)
  cases remains with
  | jobs _ phase | calling _ _ phase | hashing _ _ phase => cases phase.symm.trans done
  | hashes _ _ left made => exact ⟨left, made⟩

/-- The hook and the callback return at once, and a worker finishes nothing meanwhile. -/
private def listened : List Event := [.turn, .leave, .leave, .turn, .turn]

theorem quiet_tick_listened : ∃ start ticked state, exec (step plainHost) listening sending = some start ∧
    step plainHost start .tick = some ticked ∧
    exec (guarded (fun _ event => quiet event = true) (step plainHost)) ticked listened = some state ∧
    state.calls.length = 2 ∧ state.component = (start.component.dispatchAll plainHost.strtof start.completed).1 ∧
    state.calls = start.calls ++ (start.component.dispatchAll plainHost.strtof start.completed).2 := by
  have runs : ((exec (step plainHost) listening sending).any fun start =>
      (step plainHost start .tick).any fun ticked =>
        (exec (guarded (fun _ event => quiet event = true) (step plainHost)) ticked listened).any fun state =>
          state.phase == .idle && state.calls.length == 2) = true := by decide
  obtain ⟨start, sent, begins⟩ := (Option.any_eq_true ..).mp runs
  obtain ⟨ticked, ticks, ends⟩ := (Option.any_eq_true ..).mp begins
  obtain ⟨state, done, shape⟩ := (Option.any_eq_true ..).mp ends
  obtain ⟨idle, two⟩ := Bool.and_eq_true_iff.mp shape
  exact ⟨start, ticked, state, sent, ticks, done, eq_of_beq two,
    quiet_tick ticks (Run.of_guarded_exec done) (eq_of_beq idle)⟩

end MainThread
end OmpMySQL
