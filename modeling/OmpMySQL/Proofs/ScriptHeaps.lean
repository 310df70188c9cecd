import OmpMySQL.Proofs.NestedUpcalls

/-! An upcall pushes its strings on the heap of its script and takes them back when the
script returns. Upcalls nest, in one script as well as across several. -/

namespace OmpMySQL
open Library

section Frames
open BumpHeap
variable {base : Int} {frame : Frame}

/-- The strings of a frame stand one on another from where the heap was. -/
structure Frame.Laid (frame : Frame) (base : Int) : Prop where
  heap : BumpHeap.Laid Prod.fst heapEnd base frame.heap
  top : frame.hea = reserve heapEnd frame.heap base

theorem AMX.frame_laid (amx : AMX) : amx.frame.Laid amx.hea := ⟨.nil, rfl⟩

theorem Frame.Laid.push (laid : frame.Laid base) (value : Cell) : (frame.push value).Laid base := ⟨laid.heap, laid.top⟩

theorem Frame.Laid.pushString (laid : frame.Laid base) (text : String) : (frame.pushString text).Laid base := by
  have above : frame.hea < frame.hea + 4 * ((cString text).length + 1) := by omega
  exact ⟨.cons laid.heap laid.top above, rfl⟩

theorem Frame.Laid.pushArgs (laid : frame.Laid base) (args : List CallbackArg) : (pushArgs frame args).Laid base := by
  rw [OmpMySQL.pushArgs]
  induction args.reverse generalizing frame with
  | nil => exact laid
  | cons arg rest ih =>
    rw [List.foldl_cons]
    apply ih
    cases arg with
    | int value => exact laid.push _
    | float bits => exact laid.push bits
    | string text => exact laid.pushString text

/-- A call whose strings are above everything its script has on the heap. -/
def Invocation.Above (call : Invocation) (loaded : List AMX) : Prop :=
  ∃ amx ∈ loaded, call.script = amx.script ∧ BumpHeap.Laid Prod.fst heapEnd amx.hea call.heap

theorem Frame.Laid.above {amx : AMX} {loaded : List AMX} (laid : frame.Laid amx.hea) (member : amx ∈ loaded)
    (name : String) (upcall : Upcall) (active : Option QueryResult) : (frame.exec amx name upcall active).Above loaded :=
  ⟨amx, member, rfl, laid.heap⟩

theorem queryExecuteFrame_laid (amx : AMX) (handle : Int) (sql : String) (execMicros : Int) :
    (queryExecuteFrame amx handle sql execMicros).Laid amx.hea :=
  ((amx.frame_laid.pushString sql).push _).push _

theorem queryErrorFrame_laid (amx : AMX) (errorCode : Int) (error callback sql : String) (handle : Int) :
    (queryErrorFrame amx errorCode error callback sql handle).Laid amx.hea :=
  ((((((amx.frame_laid.pushString sql).pushString error).pushString callback).push _).push _).push _).push _ |>.push _

theorem resultFrame_laid (job : HashJob) (amx : AMX) : (job.resultFrame amx).Laid amx.hea := by
  rw [HashJob.resultFrame]
  cases job.op with
  | hash => exact amx.frame_laid.pushString _
  | verify => exact amx.frame_laid.push _

end Frames

section Heaps
variable {pawn : Pawn}

theorem Pawn.withHeaps_withHeaps (pawn : Pawn) (first second : AMX → Int) :
    (pawn.withHeaps first).withHeaps second = pawn.withHeaps fun amx => second (amx.withHeap first) := by
  have both : AMX.withHeap second ∘ AMX.withHeap first = AMX.withHeap fun amx => second (amx.withHeap first) := rfl
  simp only [Pawn.withHeaps, Option.map_map, List.map_map, both]
  congr 2
  funext side
  rw [Function.comp_apply, Option.map_map, both]

theorem Pawn.withHeaps_eq {top : AMX → Int} (same : ∀ amx ∈ pawn.loaded, top amx = amx.hea) : pawn.withHeaps top = pawn := by
  have kept : ∀ amx ∈ pawn.loaded, AMX.withHeap top amx = amx := by
    intro amx member
    rw [AMX.withHeap, same amx member]
  obtain ⟨main, side, distinct⟩ := pawn
  simp only [Pawn.withHeaps, Pawn.mk.injEq]
  constructor
  · cases main with
    | none => rfl
    | some amx => exact congrArg some (kept amx (List.mem_append_left _ List.mem_cons_self))
  · conv_rhs => rw [← List.map_id side]
    apply List.map_congr_left
    intro other present
    cases other with
    | none => rfl
    | some amx =>
      exact congrArg some (kept amx (List.mem_append_right _ (List.mem_filterMap.mpr ⟨_, present, rfl⟩)))

end Heaps

theorem Server.Leaves.above {server : Server} {amx : AMX} {component : Component} {calls : List Invocation}
    (leaves : server.Leaves amx component calls) {call : Invocation} (made : call ∈ calls) {loaded : List AMX}
    (member : amx ∈ loaded) : call.Above loaded := by
  cases leaves with
  | same | marked => cases made
  | rejected error callback sql handle =>
    rw [List.mem_singleton.mp made]
    exact (queryErrorFrame_laid ..).above member _ _ _

namespace MainThread
open BumpHeap

/-- The strings of the running publics of a script, the innermost first. -/
def State.frames (state : State) (script : Nat) : List (List (Cell × String)) :=
  (state.stack.filter (·.script = script)).map (·.heap)

/-- The scripts are those there were, each with the strings of its running publics on its heap. -/
def Heaps (before : Option Pawn) (state : State) : Prop :=
  ∃ tops : Nat → Int, state.component.pawn = before.map (·.withHeaps fun amx => tops amx.script) ∧
    ∀ amx ∈ before.elim [] Pawn.loaded,
      Nested Prod.fst heapEnd amx.hea (state.frames amx.script) (tops amx.script)

theorem withHeaps_twice (pawn : Pawn) (tops : Nat → Int) (script : Nat) (act : Int → Int) :
    (pawn.withHeaps fun amx => tops amx.script).withHeaps
        (fun amx => if amx.script = script then act amx.hea else amx.hea) =
      pawn.withHeaps fun amx => Function.update tops script (act (tops script)) amx.script := by
  rw [Pawn.withHeaps_withHeaps]
  congr 1
  funext amx
  by_cases here : amx.script = script
  · simp [AMX.withHeap, here]
  · simp [AMX.withHeap, here]

theorem frames_cons (state : State) (activation : Activation) (stack : List Activation) (script : Nat) :
    State.frames { state with stack := activation :: stack } script =
      if activation.script = script then activation.heap :: State.frames { state with stack } script
      else State.frames { state with stack } script := by
  simp only [State.frames, List.filter_cons, decide_eq_true_eq]
  split_ifs <;> rfl

/-- Scripts as they were loaded, but for their heaps. -/
theorem loaded_withHeaps {before : Option Pawn} {component : Component} {tops : Nat → Int}
    (scripts : component.pawn = before.map (·.withHeaps fun amx => tops amx.script)) :
    component.loaded = (before.elim [] Pawn.loaded).map (AMX.withHeap fun amx => tops amx.script) := by
  rw [Component.loaded, scripts]
  cases before with
  | none => rfl
  | some pawn => exact Pawn.loaded_map ..

section Steps
variable {host : Host} {before : Option Pawn} {state : State}

/-- Nothing but an upcall and its return moves a heap. -/
theorem Heaps.of_same (heaps : Heaps before state) {after : State} (pawn : after.component.pawn = state.component.pawn)
    (stack : after.stack = state.stack) : Heaps before after := by
  obtain ⟨tops, scripts, nested⟩ := heaps
  refine ⟨tops, pawn.trans scripts, ?_⟩
  simpa only [State.frames, stack] using nested

theorem Heaps.upcall (heaps : Heaps before state) {call : Invocation} (above : call.Above state.component.loaded)
    (waiting : Waiting) : Heaps before (state.upcall call waiting) := by
  obtain ⟨tops, scripts, nested⟩ := heaps
  obtain ⟨amx, member, here, laid⟩ := above
  rw [loaded_withHeaps scripts] at member
  obtain ⟨own, _, rfl⟩ := List.mem_map.mp member
  refine ⟨Function.update tops call.script (reserve heapEnd call.heap (tops call.script)), ?_, ?_⟩
  · simp only [State.upcall, State.setComponent, State.component, Component.onHeap]
    rw [show state.cache.component.pawn = _ from scripts, Option.map_map]
    congr 1
    funext pawn
    exact withHeaps_twice ..
  · intro first known
    have older := nested first known
    rw [State.upcall, frames_cons]
    by_cases same : call.script = first.script
    · rw [if_pos same, ← same, Function.update_self]
      rw [← same] at older
      have laid : Laid Prod.fst heapEnd (tops call.script) call.heap := by
        rw [here]
        exact laid
      exact .cons older laid
    · rw [if_neg same, Function.update_of_ne (Ne.symm same)]
      exact older

/-- A public that returns gives back the heap its strings were on. -/
theorem Heaps.pop (heaps : Heaps before state) {activation : Activation} {stack : List Activation}
    (running : state.stack = activation :: stack) :
    Heaps before (state.pop activation stack) := by
  obtain ⟨tops, scripts, nested⟩ := heaps
  refine ⟨Function.update tops activation.script (release Prod.fst activation.heap (tops activation.script)), ?_, ?_⟩
  · simp only [State.pop, State.setComponent, State.component, Component.onHeap]
    rw [show state.cache.component.pawn = _ from scripts, Option.map_map]
    congr 1
    funext pawn
    exact withHeaps_twice ..
  · intro first known
    have older := nested first known
    have frames := frames_cons state activation stack first.script
    rw [← running] at frames
    rw [frames] at older
    by_cases same : activation.script = first.script
    · rw [if_pos same] at older
      rw [same, Function.update_self]
      exact older.returned
    · rw [if_neg same] at older
      rw [Function.update_of_ne (Ne.symm same)]
      exact older

/-- What an upcall pushes is above what is on the heap. -/
def Progress.Stands (component : Component) : Progress → Prop
  | .returned after => after.pawn = component.pawn
  | .calling after call _ => after.pawn = component.pawn ∧ call.Above component.loaded

theorem Component.loaded_congr {component after : Component} (same : after.pawn = component.pawn) :
    after.loaded = component.loaded := by
  rw [Component.loaded, Component.loaded, same]

theorem stands_rest {component : Component} {job : QueryJob} {script : Nat} {progress : Progress}
    (rest : component.Rest job script progress) : Progress.Stands component progress := by
  cases rest with
  | returned => exact rfl
  | reported _ _ made =>
    refine ⟨rfl, ?_⟩
    unfold Component.fireQueryError at made
    split at made
    next => cases made
    next amx found =>
      rw [List.mem_singleton.mp made]
      exact (queryErrorFrame_laid ..).above (Component.loaded_of_search found) _ _ _
  | calledBack _ _ _ found _ =>
    have same : (component.shownTo job).pawn = component.pawn := by
      rw [Component.shownTo]
      split <;> rfl
    exact ⟨same, ((AMX.frame_laid _).pushArgs job.args).above (Component.amxOf_loaded found).1 _ _ _⟩

theorem Progress.Stands.of_same {component before : Component} {progress : Progress}
    (stands : Progress.Stands component progress) (same : component.pawn = before.pawn) :
    Progress.Stands before progress := by
  cases progress with
  | returned after => exact stands.trans same
  | calling after call resumption =>
    refine ⟨stands.1.trans same, ?_⟩
    rw [← Component.loaded_congr same]
    exact stands.2

theorem stands_afterAudit (strtof : String → Cell) (component : Component) (job : QueryJob) (script : Nat) :
    Progress.Stands component (component.afterAudit strtof job script) :=
  (stands_rest (component.afterAudit_rest strtof job script)).of_same (component.sameHost_writeBack strtof job).pawn

theorem stands_begin (strtof : String → Cell) (component : Component) (job : QueryJob) :
    Progress.Stands component (component.beginDispatch strtof job) := by
  have start := component.beginDispatch_start strtof job
  generalize component.beginDispatch strtof job = progress at start
  cases start with
  | unresolved => exact rfl
  | audited _ made =>
    refine ⟨rfl, ?_⟩
    unfold Component.auditCalls Component.fireQueryExecuteHook at made
    split at made
    next =>
      split at made
      next => cases made
      next amx found =>
        rw [List.mem_singleton.mp made]
        exact (queryExecuteFrame_laid ..).above (Component.loaded_of_search found) _ _ _
    next => cases made
  | unaudited _ _ rest => exact (stands_rest rest).of_same (component.sameHost_writeBack strtof job).pawn

theorem stands_resume (strtof : String → Cell) (component : Component) (resumption : Resumption) :
    Progress.Stands component (component.resumeDispatch strtof resumption) := by
  cases resumption with
  | audited job script => exact stands_afterAudit strtof component job script
  | reported | calledBack => exact rfl

theorem syncQuery_pawn (cache : ResultCache) (done : QueryJob) (useCache : Bool) :
    (cache.syncQuery done useCache).1.component.pawn = cache.component.pawn := by
  rw [ResultCache.syncQuery]
  split
  next =>
    cases useCache with
    | true => rfl
    | false => rfl
  next => rfl

theorem Heaps.proceed (heaps : Heaps before state) {progress : Progress}
    (stands : Progress.Stands state.component progress) (serial : Nat) (caller : Caller) :
    Heaps before (state.proceed serial caller progress) := by
  cases progress with
  | returned component =>
    cases caller with
    | tick | syncReject => exact heaps.of_same stands rfl
    | sync done useCache => exact heaps.of_same ((syncQuery_pawn _ done useCache).trans stands) rfl
  | calling component call resumption =>
    obtain ⟨same, above⟩ := stands
    have kept : Heaps before (state.setComponent component) := heaps.of_same same rfl
    have above : call.Above (state.setComponent component).component.loaded := by
      rw [Component.loaded_congr (show (state.setComponent component).component.pawn = _ from same)]
      exact above
    exact (kept.upcall above _).of_same rfl rfl

theorem Heaps.dispatch (heaps : Heaps before state) (job : QueryJob) (caller : Caller) :
    Heaps before (state.dispatch host job caller) := by
  have begun : Heaps before (state.begun job) := heaps.of_same rfl rfl
  exact begun.proceed (stands_begin host.strtof state.component job) _ _

theorem Heaps.leave (heaps : Heaps before state) {activation : Activation} {stack : List Activation}
    (running : state.stack = activation :: stack) : Heaps before (state.leave host activation stack) := by
  have left := heaps.pop running
  rw [State.leave]
  cases activation.waiting with
  | server | hash | reject => exact left
  | dispatch serial resumption caller => exact left.proceed (stands_resume host.strtof _ resumption) _ _

theorem Heaps.submitted (heaps : Heaps before state) {amx : AMX} (member : amx ∈ state.component.loaded)
    {submission : Submission} (leaves : state.server.Leaves amx submission.server.component submission.calls) :
    Heaps before (state.submitted submission) := by
  have pawn : (state.accept submission).component.pawn = state.component.pawn := leaves.pawn
  have accepted : Heaps before (state.accept submission) := heaps.of_same pawn rfl
  rw [State.submitted]
  split
  next => exact accepted
  next call _ made =>
    apply accepted.upcall
    rw [Component.loaded_congr pawn]
    exact leaves.above (made ▸ List.mem_cons_self) member

theorem dispatchHash_above {component : Component} {job : HashJob} {call : Invocation}
    (made : call ∈ component.dispatchHash job) : call.Above component.loaded := by
  unfold Component.dispatchHash at made
  split at made
  next => cases made
  next =>
    split at made
    next => cases made
    next amx found =>
      rw [List.mem_singleton.mp made]
      exact ((resultFrame_laid job amx).pushArgs job.args).above (Component.loaded_of_search found) _ _ _

/-- A public that the server calls has nothing of the component on its heap. -/
theorem Heaps.run (heaps : Heaps before state) (script : Nat) :
    Heaps before { state with stack := { script, waiting := .server } :: state.stack } := by
  obtain ⟨tops, scripts, nested⟩ := heaps
  refine ⟨tops, scripts, ?_⟩
  intro first known
  rw [frames_cons]
  split
  next => exact .cons (nested first known) .nil
  next => exact nested first known

def loadsScripts : Event → Bool
  | .scripts _ => true
  | _ => false

theorem heaps_step {event : Event} {after : State} (heaps : Heaps before state) (kept : loadsScripts event = false)
    (stepped : step host state event = some after) : Heaps before after := by
  cases moves_of_step stepped with
  | perform | hash | players | tick | lastJob | silentHash | lastHash | reset | unheard => exact heaps.of_same rfl rfl
  | scripts => cases kept
  | run => exact heaps.run _
  | @nextJob job jobs =>
    have taken : Heaps before { state with jobs } := heaps.of_same rfl rfl
    exact taken.dispatch job .tick
  | @nextHash job hashes call _ _ _ made =>
    have taken : Heaps before { state with hashes } := heaps.of_same rfl rfl
    exact taken.upcall (dispatchHash_above made) _
  | act acted =>
    obtain ⟨acts, _, _, _, _, same⟩ := State.act_frame acted
    rw [same]
    exact heaps.of_same acts.pawn rfl
  | synced registry job useCache inside own =>
    have sent : Heaps before { state with registry } := heaps.of_same rfl rfl
    exact sent.dispatch _ _
  | syncRejected registry handle sql reason inside =>
    have sent : Heaps before { state with registry } := heaps.of_same rfl rfl
    exact sent.dispatch _ _
  | submitted inside running leaves => exact heaps.submitted running leaves
  | leave running => exact heaps.leave running

end Steps

/-- The strings a script's running publics were given, the last one first. -/
def State.strings (state : State) (script : Nat) : List (Cell × String) := (state.frames script).flatten

/-- A script's heap while calls into it nest, against the script before any of them. -/
structure HeapSound (state : State) (first amx : AMX) : Prop where
  same : first.script = amx.script ∧ first.publics = amx.publics
  apart : (state.strings amx.script).Pairwise fun later earlier => heapEnd earlier ≤ later.1
  within : ∀ pushed ∈ state.strings amx.script, first.hea ≤ pushed.1 ∧ heapEnd pushed ≤ amx.hea
  restored : state.frames amx.script = [] → amx = first

theorem Heaps.sound {before : Option Pawn} {state : State} (heaps : Heaps before state) :
    ∀ amx ∈ state.component.loaded, ∃ first ∈ before.elim [] Pawn.loaded, HeapSound state first amx := by
  obtain ⟨tops, scripts, nested⟩ := heaps
  intro amx member
  rw [loaded_withHeaps scripts] at member
  obtain ⟨first, known, rfl⟩ := List.mem_map.mp member
  have own := nested first known
  obtain ⟨laid, top⟩ := own.laid
  refine ⟨first, known, ⟨rfl, rfl⟩, laid.apart, ?_, ?_⟩
  · intro pushed inside
    have placed := laid.within pushed inside
    rw [← top] at placed
    exact placed
  · intro empty
    change state.frames first.script = [] at empty
    rw [empty] at own
    rw [AMX.withHeap, own.top_of_empty]

theorem heaps_start {state : State} (idle : state.stack = []) : Heaps state.component.pawn state := by
  obtain ⟨tops, top⟩ : ∃ tops : Nat → Int, ∀ amx ∈ state.component.loaded, tops amx.script = amx.hea := by
    refine ⟨fun script => ((state.component.amxOf script).map (·.hea)).getD 0, ?_⟩
    intro amx member
    simp only [Component.amxOf_of_loaded member, Option.map_some, Option.getD_some]
  refine ⟨tops, ?_, ?_⟩
  · rw [Component.loaded] at top
    cases present : state.component.pawn with
    | none => rfl
    | some pawn =>
      rw [present] at top
      exact congrArg some (Pawn.withHeaps_eq top).symm
  · intro amx member
    rw [top amx member, State.frames, idle]
    exact .nil

theorem Heaps.returned {before : Option Pawn} {state : State} (heaps : Heaps before state) (idle : state.stack = []) :
    state.component.pawn = before := by
  obtain ⟨tops, scripts, nested⟩ := heaps
  rw [scripts]
  cases before with
  | none => rfl
  | some pawn =>
    refine congrArg some (Pawn.withHeaps_eq ?_)
    intro amx member
    have own := nested amx member
    rw [State.frames, idle] at own
    exact own.top_of_empty

end MainThread
end OmpMySQL
