import OmpMySQL.Proofs.ScriptHeaps

/-! Every query is reported once, from whatever depth it was made. A dispatch makes its
upcalls in a fixed order, and what scripts do inside them does not count as its own. -/

namespace OmpMySQL

/-- A gamemode is loaded, and each hook is some script's. -/
structure Component.Listens (component : Component) : Prop where
  gamemode : (component.pawn.bind (·.mainScript)).isSome
  executeHook : ∃ amx ∈ component.loaded, amx.findPublic "OnQueryExecute" = true
  errorHook : ∃ amx ∈ component.loaded, amx.findPublic "OnQueryError" = true

namespace Component
variable {component : Component}

instance : Decidable component.Listens :=
  decidable_of_iff
    ((component.pawn.bind (·.mainScript)).isSome ∧ (∃ amx ∈ component.loaded, amx.findPublic "OnQueryExecute" = true) ∧
      ∃ amx ∈ component.loaded, amx.findPublic "OnQueryError" = true)
    ⟨fun ⟨gamemode, executeHook, errorHook⟩ => ⟨gamemode, executeHook, errorHook⟩,
      fun listens => ⟨listens.gamemode, listens.executeHook, listens.errorHook⟩⟩

theorem search_isSome {name : String} (known : ∃ amx ∈ component.loaded, amx.findPublic name = true) :
    ∃ first, component.findScriptWithPublic name = some first := by
  obtain ⟨amx, member, defined⟩ := known
  rw [loaded] at member
  cases present : component.pawn with
  | none => simp [present] at member
  | some pawn =>
    rw [present] at member
    rw [findScriptWithPublic, present]
    exact Pawn.find_isSome member defined

theorem Listens.resolves (listens : component.Listens) (job : QueryJob) : component.resolveScript job ≠ none := by
  obtain ⟨main, gamemode⟩ := Option.isSome_iff_exists.mp listens.gamemode
  rw [resolveScript, gamemode]
  simp

theorem Listens.audits (listens : component.Listens) {job : QueryJob} (succeeded : job.succeeded = true)
    (answered : job.result.isSome) : component.auditCalls job ≠ [] := by
  obtain ⟨first, found⟩ := search_isSome listens.executeHook
  obtain ⟨result, kept⟩ := Option.isSome_iff_exists.mp answered
  simp [auditCalls, succeeded, kept, fireQueryExecuteHook, found]

theorem Listens.reports (listens : component.Listens) (job : QueryJob) : component.fireQueryError job ≠ [] := by
  obtain ⟨first, found⟩ := search_isSome listens.errorHook
  simp [fireQueryError, found]

theorem Listens.of_same (listens : component.Listens) {after : Component} (same : after.pawn = component.pawn) :
    after.Listens where
  gamemode := same ▸ listens.gamemode
  executeHook := by
    rw [loaded, same]
    exact listens.executeHook
  errorHook := by
    rw [loaded, same]
    exact listens.errorHook

theorem Listens.onHeap (listens : component.Listens) (script : Nat) (act : Int → Int) :
    (component.onHeap script act).Listens := by
  have kept {name : String} (known : ∃ amx ∈ component.loaded, amx.findPublic name = true) :
      ∃ amx ∈ (component.onHeap script act).loaded, amx.findPublic name = true := by
    obtain ⟨amx, member, defined⟩ := known
    rw [loaded] at member
    cases present : component.pawn with
    | none => simp [present] at member
    | some pawn =>
      rw [present] at member
      let top : AMX → Int := fun amx => if amx.script = script then act amx.hea else amx.hea
      have lifted : (component.onHeap script act).loaded = pawn.loaded.map (AMX.withHeap top) := by
        rw [loaded, Component.onHeap, present]
        exact Pawn.loaded_map ..
      exact ⟨AMX.withHeap top amx, lifted ▸ List.mem_map_of_mem member, defined⟩
  refine ⟨?_, kept listens.executeHook, kept listens.errorHook⟩
  have gamemode := listens.gamemode
  cases present : component.pawn with
  | none => simp [present] at gamemode
  | some pawn =>
    rw [present] at gamemode
    rw [Component.onHeap, present]
    simpa [Pawn.withHeaps] using gamemode

end Component

namespace MainThread
open Library

/-- Where a dispatch stands, with the upcalls it has made. -/
inductive Stage (job : QueryJob) : Resumption → List Upcall → Prop where
  | audited {script} (succeeded : job.succeeded = true) : Stage job (.audited job script) [.executeHook]
  | reported (failed : job.succeeded = false) : Stage job .reported [.errorHook]
  | calledBack (succeeded : job.succeeded = true) : Stage job .calledBack [.executeHook, .callback]

/-- The upcalls of a dispatch that has ended: one report, and the callback after it. Only the failure of a
job that is bound to a player may go unreported. -/
inductive Reported (job : QueryJob) : List Upcall → Prop where
  | executed (succeeded : job.succeeded = true) : Reported job [.executeHook]
  | calledBack (succeeded : job.succeeded = true) : Reported job [.executeHook, .callback]
  | failed (failed : job.succeeded = false) : Reported job [.errorHook]
  | abandoned (failed : job.succeeded = false) (bound : 0 ≤ job.boundPlayer) : Reported job []

/-- What a stretch of a dispatch leaves, when it had made these upcalls before. -/
def Progress.Follows (job : QueryJob) (made : List Upcall) : Progress → Prop
  | .returned _ => Reported job made
  | .calling _ call resumption => Stage job resumption (made ++ [call.upcall])

section Segments
variable {component : Component} {job : QueryJob} {script : Nat} {progress : Progress}

theorem bound_of_gone (gone : component.boundPlayerGone job = true) : 0 ≤ job.boundPlayer := by
  unfold Component.boundPlayerGone at gone
  split at gone
  next => exact of_decide_eq_true (Bool.and_eq_true_iff.mp gone).1
  next => cases gone

theorem error_upcall {call : Invocation} (made : call ∈ component.fireQueryError job) : call.upcall = .errorHook := by
  unfold Component.fireQueryError at made
  split at made
  next => cases made
  next =>
    rw [List.mem_singleton.mp made]
    rfl

theorem audit_upcall {call : Invocation} (made : call ∈ component.auditCalls job) :
    job.succeeded = true ∧ call.upcall = .executeHook := by
  unfold Component.auditCalls Component.fireQueryExecuteHook at made
  split at made
  next succeeded _ =>
    split at made
    next => cases made
    next =>
      rw [List.mem_singleton.mp made]
      exact ⟨succeeded, rfl⟩
  next => cases made

theorem executed_rest (succeeded : job.succeeded = true) (rest : component.Rest job script progress) :
    Progress.Follows job [.executeHook] progress := by
  cases rest with
  | returned => exact .executed succeeded
  | reported failed => cases failed.symm.trans succeeded
  | calledBack => exact .calledBack succeeded

theorem failed_rest (listens : component.Listens) (failed : job.succeeded = false)
    (rest : component.Rest job script progress) : Progress.Follows job [] progress := by
  cases rest with
  | returned silent =>
    rcases silent with succeeded | gone | silent
    · cases failed.symm.trans succeeded
    · exact .abandoned failed (bound_of_gone gone)
    · exact absurd silent (listens.reports job)
  | @reported call _ _ made =>
    have reports : Stage job .reported [.errorHook] := .reported failed
    rwa [← error_upcall made] at reports
  | calledBack succeeded => cases failed.symm.trans succeeded

/-- A job that has a result when it succeeded, as every job that a worker had. -/
def Answered (job : QueryJob) : Prop := job.succeeded = true → job.result.isSome

theorem answered_complete (job : QueryJob) (outcome : Outcome) : Answered (job.complete outcome) := by
  intro succeeded
  rw [QueryJob.complete_result]
  exact succeeded

theorem begin_follows (strtof : String → Cell) (listens : component.Listens) (answered : Answered job) :
    Progress.Follows job [] (component.beginDispatch strtof job) := by
  have start := component.beginDispatch_start strtof job
  generalize component.beginDispatch strtof job = progress at start
  cases start with
  | unresolved none => exact absurd none (listens.resolves job)
  | @audited amx call resolved made =>
    obtain ⟨succeeded, hook⟩ := audit_upcall made
    have audits : Stage job (.audited job amx.script) [.executeHook] := .audited succeeded
    rwa [← hook] at audits
  | unaudited resolved silent rest =>
    have failed : job.succeeded = false := by
      cases succeeded : job.succeeded with
      | false => rfl
      | true => exact absurd silent (listens.audits succeeded (answered succeeded))
    exact failed_rest (listens.of_same (component.sameHost_writeBack strtof job).pawn) failed rest

theorem resume_follows (strtof : String → Cell) (component : Component) {resumption : Resumption} {made : List Upcall}
    (stage : Stage job resumption made) : Progress.Follows job made (component.resumeDispatch strtof resumption) := by
  cases stage with
  | audited succeeded => exact executed_rest succeeded (component.afterAudit_rest strtof job _)
  | reported failed => exact .failed failed
  | calledBack succeeded => exact .calledBack succeeded

end Segments

def Note.serial : Note → Nat
  | .begun serial _ | .called serial _ | .ended serial => serial

def Note.beginning : Note → Option (Nat × QueryJob)
  | .begun serial job => some (serial, job)
  | .called _ _ | .ended _ => none

def Note.upcallOf (serial : Nat) : Note → Option Upcall
  | .called other call => if other = serial then some call.upcall else none
  | .begun _ _ | .ended _ => none

section Notes
variable {history : List Note} {serial other : Nat} {job : QueryJob} {call : Invocation}

/-- The upcalls of a dispatch, in order. -/
def upcallsOf (serial : Nat) (history : List Note) : List Upcall := history.filterMap (Note.upcallOf serial)

theorem upcallsOf_begun : upcallsOf serial (history ++ [.begun other job]) = upcallsOf serial history := by
  rw [upcallsOf, List.filterMap_append]
  exact List.append_nil _

theorem upcallsOf_ended : upcallsOf serial (history ++ [.ended other]) = upcallsOf serial history := by
  rw [upcallsOf, List.filterMap_append]
  exact List.append_nil _

theorem upcallsOf_called : upcallsOf serial (history ++ [.called serial call]) = upcallsOf serial history ++ [call.upcall] := by
  simp [upcallsOf, Note.upcallOf]

theorem upcallsOf_called_ne (elsewhere : other ≠ serial) :
    upcallsOf serial (history ++ [.called other call]) = upcallsOf serial history := by
  simp [upcallsOf, Note.upcallOf, elsewhere]

theorem upcallsOf_fresh (fresh : ∀ note ∈ history, note.serial ≠ serial) : upcallsOf serial history = [] := by
  refine List.filterMap_eq_nil_iff.mpr ?_
  intro note member
  have elsewhere := fresh note member
  cases note with
  | begun | ended => rfl
  | called other call => exact if_neg elsewhere

end Notes

def Waiting.dispatched : Waiting → Option Nat
  | .dispatch serial _ _ => some serial
  | .server | .hash | .reject => none

def State.waiting (state : State) : List Nat := state.stack.filterMap (·.waiting.dispatched)

/-- Every dispatch that has begun is in hand, waits for a script, or has ended with its report. -/
structure Ledger (inHand : List Nat) (state : State) : Prop where
  listens : state.component.Listens
  answered : ∀ job ∈ state.completed ++ state.jobs, Answered job
  numbered : ∀ note ∈ state.history, note.serial < state.dispatches
  once : ∀ serial job other, .begun serial job ∈ state.history → .begun serial other ∈ state.history → job = other
  single : (inHand ++ state.waiting).Nodup
  unended : ∀ serial ∈ inHand ++ state.waiting, .ended serial ∉ state.history
  staged : ∀ activation ∈ state.stack, ∀ serial resumption caller, activation.waiting = .dispatch serial resumption caller →
    ∃ job, .begun serial job ∈ state.history ∧ Stage job resumption (upcallsOf serial state.history)
  reported : ∀ serial job, .begun serial job ∈ state.history → serial ∈ inHand ++ state.waiting ∨
    .ended serial ∈ state.history ∧ Reported job (upcallsOf serial state.history)

section Steps
variable {inHand : List Nat} {host : Host} {state : State}

theorem mem_waiting {activation : Activation} (running : activation ∈ state.stack) {serial : Nat} {resumption : Resumption}
    {caller : Caller} (waits : activation.waiting = .dispatch serial resumption caller) : serial ∈ state.waiting := by
  refine List.mem_filterMap.mpr ⟨activation, running, ?_⟩
  rw [waits]
  rfl

theorem Ledger.of_same (ledger : Ledger inHand state) {after : State} (listens : after.component.Listens)
    (answered : ∀ job ∈ after.completed ++ after.jobs, Answered job) (stack : after.stack = state.stack)
    (history : after.history = state.history) (dispatches : after.dispatches = state.dispatches) : Ledger inHand after := by
  have waiting : after.waiting = state.waiting := by rw [State.waiting, State.waiting, stack]
  refine ⟨listens, answered, ?_, ?_, ?_, ?_, ?_, ?_⟩
  · rw [history, dispatches]
    exact ledger.numbered
  · rw [history]
    exact ledger.once
  · rw [waiting]
    exact ledger.single
  · rw [waiting, history]
    exact ledger.unended
  · rw [stack, history]
    exact ledger.staged
  · rw [waiting, history]
    exact ledger.reported

/-- A public that no dispatch waits for starts. -/
theorem Ledger.push (ledger : Ledger inHand state) {after : State} {activation : Activation}
    (foreign : activation.waiting.dispatched = none) (stack : after.stack = activation :: state.stack)
    (listens : after.component.Listens) (answered : ∀ job ∈ after.completed ++ after.jobs, Answered job)
    (history : after.history = state.history) (dispatches : after.dispatches = state.dispatches) : Ledger inHand after := by
  have waiting : after.waiting = state.waiting := by
    simp only [State.waiting, stack, List.filterMap_cons, foreign]
  refine ⟨listens, answered, ?_, ?_, ?_, ?_, ?_, ?_⟩
  · rw [history, dispatches]
    exact ledger.numbered
  · rw [history]
    exact ledger.once
  · rw [waiting]
    exact ledger.single
  · rw [waiting, history]
    exact ledger.unended
  · rw [stack, history]
    intro other running serial resumption caller waits
    rcases List.mem_cons.mp running with rfl | below
    · rw [waits] at foreign
      cases foreign
    · exact ledger.staged other below serial resumption caller waits
  · rw [waiting, history]
    exact ledger.reported

theorem Ledger.waiting_lt (ledger : Ledger inHand state) {serial : Nat} (waits : serial ∈ state.waiting) :
    serial < state.dispatches := by
  obtain ⟨activation, running, dispatched⟩ := List.mem_filterMap.mp waits
  unfold Waiting.dispatched at dispatched
  split at dispatched
  next other resumption caller waiting =>
    cases dispatched
    obtain ⟨job, begun, _⟩ := ledger.staged activation running _ _ _ waiting
    exact ledger.numbered _ begun
  next => cases dispatched
  next => cases dispatched
  next => cases dispatched

theorem Ledger.begun (ledger : Ledger [] state) (job : QueryJob) : Ledger [state.dispatches] (state.begun job) := by
  have recent {serial : Nat} {other : QueryJob} (noted : .begun serial other ∈ state.history ++ [.begun state.dispatches job]) :
      .begun serial other ∈ state.history ∨ serial = state.dispatches ∧ other = job := by
    rcases List.mem_append.mp noted with old | last
    · exact Or.inl old
    · cases List.mem_singleton.mp last
      exact Or.inr ⟨rfl, rfl⟩
  have kept {serial : Nat} (ended : .ended serial ∈ state.history ++ [.begun state.dispatches job]) :
      .ended serial ∈ state.history := by
    rcases List.mem_append.mp ended with old | last
    · exact old
    · cases List.mem_singleton.mp last
  refine ⟨ledger.listens, ledger.answered, ?_, ?_, ?_, ?_, ?_, ?_⟩
  · intro note noted
    rcases List.mem_append.mp noted with old | last
    · exact Nat.lt_succ_of_lt (ledger.numbered note old)
    · rw [List.mem_singleton.mp last]
      exact Nat.lt_succ_self _
  · intro serial first second one two
    rcases recent one with earlier | ⟨here, rfl⟩
    · rcases recent two with older | ⟨here, _⟩
      · exact ledger.once serial first second earlier older
      · exact absurd here (ledger.numbered _ earlier).ne
    · rcases recent two with older | ⟨_, same⟩
      · exact absurd here (ledger.numbered _ older).ne
      · exact same.symm
  · refine List.nodup_cons.mpr ⟨?_, ledger.single⟩
    exact fun waits => absurd (ledger.waiting_lt waits) (Nat.lt_irrefl _)
  · intro serial carried ended
    have old := kept ended
    rcases List.mem_cons.mp carried with rfl | waits
    · exact absurd (ledger.numbered _ old) (Nat.lt_irrefl _)
    · exact ledger.unended serial waits old
  · intro activation running serial resumption caller waits
    obtain ⟨own, begun, stage⟩ := ledger.staged activation running serial resumption caller waits
    refine ⟨own, List.mem_append_left _ begun, ?_⟩
    rwa [State.begun, upcallsOf_begun]
  · intro serial own noted
    rcases recent noted with old | ⟨rfl, rfl⟩
    · rcases ledger.reported serial own old with waits | ⟨ended, reported⟩
      · exact Or.inl (List.mem_cons_of_mem _ waits)
      · refine Or.inr ⟨List.mem_append_left _ ended, ?_⟩
        rwa [State.begun, upcallsOf_begun]
    · exact Or.inl List.mem_cons_self

/-- A public returns to the dispatch that waited for it. -/
theorem Ledger.resumed (ledger : Ledger [] state) {activation : Activation} {stack : List Activation}
    (running : state.stack = activation :: stack) {serial : Nat} {resumption : Resumption} {caller : Caller}
    (waits : activation.waiting = .dispatch serial resumption caller) : Ledger [serial] (state.pop activation stack) := by
  have waiting : state.waiting = [serial] ++ (state.pop activation stack).waiting := by
    have dispatched : activation.waiting.dispatched = some serial := by
      rw [waits]
      rfl
    simp only [State.waiting, running, List.filterMap_cons, dispatched]
    rfl
  refine ⟨ledger.listens.onHeap _ _, ledger.answered, ledger.numbered, ledger.once, ?_, ?_, ?_, ?_⟩
  · exact waiting ▸ ledger.single
  · exact waiting ▸ ledger.unended
  · exact fun other below => ledger.staged other (running ▸ List.mem_cons_of_mem _ below)
  · exact waiting ▸ ledger.reported

/-- A public returns to the server, to a hashing job or to a native that was refused. -/
theorem Ledger.returned (ledger : Ledger [] state) {activation : Activation} {stack : List Activation}
    (running : state.stack = activation :: stack) (foreign : activation.waiting.dispatched = none) :
    Ledger [] (state.pop activation stack) := by
  have waiting : state.waiting = (state.pop activation stack).waiting := by
    simp only [State.waiting, running, List.filterMap_cons, foreign]
    rfl
  refine ⟨ledger.listens.onHeap _ _, ledger.answered, ledger.numbered, ledger.once, ?_, ?_, ?_, ?_⟩
  · exact waiting ▸ ledger.single
  · exact waiting ▸ ledger.unended
  · exact fun other below => ledger.staged other (running ▸ List.mem_cons_of_mem _ below)
  · exact waiting ▸ ledger.reported

/-- The history grows by a note of the dispatch in hand. -/
structure Grown (state after : State) (note : Note) : Prop where
  history : after.history = state.history ++ [note]
  dispatches : after.dispatches = state.dispatches
  begins : note.beginning = none

section Growth
variable {after : State} {note : Note} (grown : Grown state after note)
include grown

theorem Grown.kept {other : Note} (noted : other ∈ state.history) : other ∈ after.history :=
  grown.history ▸ List.mem_append_left _ noted

theorem Grown.before {other : Note} (noted : other ∈ after.history) : other ∈ state.history ∨ other = note := by
  rw [grown.history] at noted
  exact (List.mem_append.mp noted).imp_right List.mem_singleton.mp

theorem Grown.begun {serial : Nat} {job : QueryJob} (noted : .begun serial job ∈ after.history) :
    .begun serial job ∈ state.history := by
  rcases grown.before noted with old | rfl
  · exact old
  · cases grown.begins

theorem Grown.numbered (ledger : Ledger inHand state) {job : QueryJob} (own : .begun note.serial job ∈ state.history) :
    ∀ other ∈ after.history, other.serial < after.dispatches := by
  intro other noted
  rw [grown.dispatches]
  rcases grown.before noted with old | rfl
  · exact ledger.numbered other old
  · exact ledger.numbered (.begun other.serial job) own

theorem Grown.once (ledger : Ledger inHand state) (serial : Nat) (job other : QueryJob)
    (first : .begun serial job ∈ after.history) (second : .begun serial other ∈ after.history) : job = other :=
  ledger.once serial job other (grown.begun first) (grown.begun second)

end Growth

section InHand
variable {serial : Nat} {job : QueryJob} {after : State}

/-- The dispatch in hand calls a script. -/
theorem Ledger.calling (ledger : Ledger [serial] state) (begun : .begun serial job ∈ state.history) {call : Invocation}
    {resumption : Resumption} {caller : Caller}
    (stage : Stage job resumption (upcallsOf serial state.history ++ [call.upcall])) (listens : after.component.Listens)
    (answered : ∀ job ∈ after.completed ++ after.jobs, Answered job)
    (stack : after.stack = { script := call.script, heap := call.heap, waiting := .dispatch serial resumption caller } :: state.stack)
    (grown : Grown state after (.called serial call)) : Ledger [] after := by
  have waiting : after.waiting = [serial] ++ state.waiting := by
    rw [State.waiting, stack]
    rfl
  have elsewhere {other : Nat} (apart : serial ≠ other) : upcallsOf other after.history = upcallsOf other state.history := by
    rw [grown.history]
    exact upcallsOf_called_ne apart
  refine ⟨listens, answered, grown.numbered ledger begun, grown.once ledger, ?_, ?_, ?_, ?_⟩
  · rw [waiting]
    exact ledger.single
  · intro other carried ended
    rw [waiting] at carried
    rcases grown.before ended with old | called
    · exact ledger.unended other carried old
    · cases called
  · rw [stack]
    intro activation running other own asked waits
    rcases List.mem_cons.mp running with rfl | below
    · cases waits
      refine ⟨job, grown.kept begun, ?_⟩
      rwa [grown.history, upcallsOf_called]
    · obtain ⟨own, first, stage⟩ := ledger.staged activation below other own asked waits
      refine ⟨own, grown.kept first, ?_⟩
      rwa [elsewhere]
      rintro rfl
      exact (List.nodup_cons.mp ledger.single).1 (mem_waiting below waits)
  · intro other own noted
    rw [waiting]
    rcases ledger.reported other own (grown.begun noted) with carried | ⟨ended, reported⟩
    · exact Or.inl carried
    · refine Or.inr ⟨grown.kept ended, ?_⟩
      rwa [elsewhere]
      rintro rfl
      exact ledger.unended serial List.mem_cons_self ended

/-- The dispatch in hand ends. -/
theorem Ledger.ends (ledger : Ledger [serial] state) (begun : .begun serial job ∈ state.history)
    (reported : Reported job (upcallsOf serial state.history)) (listens : after.component.Listens)
    (answered : ∀ job ∈ after.completed ++ after.jobs, Answered job) (stack : after.stack = state.stack)
    (grown : Grown state after (.ended serial)) : Ledger [] after := by
  have waiting : after.waiting = state.waiting := by rw [State.waiting, State.waiting, stack]
  have same (other : Nat) : upcallsOf other after.history = upcallsOf other state.history := by
    rw [grown.history]
    exact upcallsOf_ended
  have alone := List.nodup_cons.mp ledger.single
  refine ⟨listens, answered, grown.numbered ledger begun, grown.once ledger, ?_, ?_, ?_, ?_⟩
  · rw [waiting]
    exact alone.2
  · intro other carried ended
    rw [waiting] at carried
    rcases grown.before ended with old | last
    · exact ledger.unended other (List.mem_cons_of_mem _ carried) old
    · cases last
      exact alone.1 carried
  · rw [stack]
    intro activation running other own asked waits
    obtain ⟨own, first, stage⟩ := ledger.staged activation running other own asked waits
    refine ⟨own, grown.kept first, ?_⟩
    rwa [same]
  · intro other own noted
    have first := grown.begun noted
    rw [waiting, same]
    rcases ledger.reported other own first with carried | ⟨ended, settled⟩
    · rcases List.mem_cons.mp carried with rfl | waits
      · refine Or.inr ⟨grown.history ▸ List.mem_append_right _ List.mem_cons_self, ?_⟩
        rwa [ledger.once other own job first begun]
      · exact Or.inl waits
    · exact Or.inr ⟨grown.kept ended, settled⟩

end InHand

theorem Ledger.proceed {serial : Nat} (ledger : Ledger [serial] state) {job : QueryJob}
    (begun : .begun serial job ∈ state.history) {progress : Progress}
    (follows : Progress.Follows job (upcallsOf serial state.history) progress)
    (stands : Progress.Stands state.component progress) (caller : Caller) :
    Ledger [] (state.proceed serial caller progress) := by
  cases progress with
  | calling component call resumption =>
    have listens : component.Listens := ledger.listens.of_same stands.1
    exact ledger.calling begun follows (listens.onHeap _ _) ledger.answered rfl ⟨rfl, rfl, rfl⟩
  | returned component =>
    cases caller with
    | tick | syncReject => exact ledger.ends begun follows (ledger.listens.of_same stands) ledger.answered rfl ⟨rfl, rfl, rfl⟩
    | sync done useCache =>
      refine ledger.ends begun follows (ledger.listens.of_same ?_) ledger.answered rfl ⟨rfl, rfl, rfl⟩
      exact (syncQuery_pawn _ done useCache).trans stands

theorem Ledger.dispatch (ledger : Ledger [] state) {job : QueryJob} (answered : Answered job) (caller : Caller) :
    Ledger [] (state.dispatch host job caller) := by
  have begun : .begun state.dispatches job ∈ (state.begun job).history := List.mem_append_right _ List.mem_cons_self
  refine (ledger.begun job).proceed begun ?_ ?_ caller
  · have silent : upcallsOf state.dispatches (state.begun job).history = [] := by
      rw [State.begun, upcallsOf_begun]
      exact upcallsOf_fresh fun note noted => (ledger.numbered note noted).ne
    rw [silent]
    exact begin_follows host.strtof ledger.listens answered
  · exact stands_begin host.strtof state.component job

theorem Ledger.leave (ledger : Ledger [] state) {activation : Activation} {stack : List Activation}
    (running : state.stack = activation :: stack) : Ledger [] (state.leave host activation stack) := by
  rw [State.leave]
  split
  next waits => exact ledger.returned running (by rw [waits]; rfl)
  next waits => exact ledger.returned running (by rw [waits]; rfl)
  next waits => exact ledger.returned running (by rw [waits]; rfl)
  next serial resumption caller waits =>
    obtain ⟨job, begun, stage⟩ := ledger.staged activation (running ▸ List.mem_cons_self) _ _ _ waits
    refine (ledger.resumed running waits).proceed begun (resume_follows host.strtof _ stage) ?_ caller
    exact stands_resume host.strtof _ resumption

/-- Whatever is loaded listens. -/
def attentive : Event → Bool
  | .scripts pawn => decide (Component.Listens { pawn })
  | _ => true

theorem ledger_move {event : Event} {after : State} (ledger : Ledger [] state) (heard : attentive event = true)
    (moved : Moves host state event after) : Ledger [] after := by
  cases moved with
  | hash | players | unheard | lastJob | silentHash | lastHash =>
    exact ledger.of_same (ledger.listens.of_same rfl) ledger.answered rfl rfl rfl
  | @perform handle performance job =>
    refine ledger.of_same ledger.listens ?_ rfl rfl rfl
    intro other member
    rcases List.mem_append.mp member with done | queued
    · rcases List.mem_append.mp done with earlier | last
      · exact ledger.answered other (List.mem_append_left _ earlier)
      · rw [List.mem_singleton.mp last]
        exact answered_complete job _
    · exact ledger.answered other (List.mem_append_right _ queued)
  | scripts =>
    have listens := of_decide_eq_true heard
    exact ledger.of_same (listens.of_same rfl) ledger.answered rfl rfl rfl
  | run => exact ledger.push rfl rfl ledger.listens ledger.answered rfl rfl
  | tick =>
    refine ledger.of_same ledger.listens ?_ rfl rfl rfl
    intro job member
    exact ledger.answered job (List.mem_append_left _ member)
  | @nextJob job jobs _ _ queue =>
    have answered : Answered job := ledger.answered job (List.mem_append_right _ (queue ▸ List.mem_cons_self))
    have taken : Ledger [] { state with jobs } := by
      refine ledger.of_same ledger.listens ?_ rfl rfl rfl
      intro other member
      apply ledger.answered other
      rw [queue]
      exact (List.mem_append.mp member).elim (List.mem_append_left _)
        (fun later => List.mem_append_right _ (List.mem_cons_of_mem _ later))
    exact taken.dispatch answered .tick
  | nextHash => exact ledger.push rfl rfl (ledger.listens.onHeap _ _) ledger.answered rfl rfl
  | reset => exact ledger.of_same (ledger.listens.of_same rfl) ledger.answered rfl rfl rfl
  | act acted =>
    obtain ⟨acts, _, _, _, _, same⟩ := State.act_frame acted
    rw [same]
    exact ledger.of_same (ledger.listens.of_same acts.pawn) ledger.answered rfl rfl rfl
  | synced registry job useCache =>
    have sent : Ledger [] { state with registry } := ledger.of_same ledger.listens ledger.answered rfl rfl rfl
    exact sent.dispatch (answered_complete job _) _
  | syncRejected registry handle sql reason =>
    have sent : Ledger [] { state with registry } := ledger.of_same ledger.listens ledger.answered rfl rfl rfl
    refine sent.dispatch ?_ .syncReject
    intro succeeded
    cases succeeded
  | @submitted _ _ _ _ _ submission _ _ leaves =>
    have pawn : (state.accept submission).component.pawn = state.component.pawn := leaves.pawn
    have accepted : Ledger [] (state.accept submission) :=
      ledger.of_same (ledger.listens.of_same pawn) ledger.answered rfl rfl rfl
    rw [State.submitted]
    split
    next => exact accepted
    next => exact accepted.push rfl rfl (accepted.listens.onHeap _ _) accepted.answered rfl rfl
  | leave running => exact ledger.leave running

end Steps
/-- A dispatch waits for a script, with what it has called so far. -/
def Pending (state : State) (serial : Nat) (job : QueryJob) : Prop :=
  .ended serial ∉ state.history ∧ ∃ activation ∈ state.stack, ∃ resumption caller,
    activation.waiting = .dispatch serial resumption caller ∧ Stage job resumption (upcallsOf serial state.history)

theorem Ledger.pending {state : State} (ledger : Ledger [] state) {serial : Nat} {job : QueryJob}
    (begun : .begun serial job ∈ state.history) (waits : serial ∈ state.waiting) : Pending state serial job := by
  refine ⟨ledger.unended serial waits, ?_⟩
  obtain ⟨activation, running, dispatched⟩ := List.mem_filterMap.mp waits
  unfold Waiting.dispatched at dispatched
  split at dispatched
  next resumption caller waiting =>
    cases dispatched
    obtain ⟨own, first, stage⟩ := ledger.staged activation running serial resumption caller waiting
    rw [ledger.once serial job own begun first]
    exact ⟨activation, running, resumption, caller, waiting, stage⟩
  next => cases dispatched
  next => cases dispatched
  next => cases dispatched

/-- Every dispatch that has begun waits for a script or has ended, and by then it has made its one report
with its callback behind it, whatever ran inside. -/
theorem dispatches_reported {component : Component} (listens : component.Listens) {host : Host} {events : List Event}
    {state : State}
    (run : Run (Guarded (fun _ event => attentive event = true) (Steps (step host))) { cache := { component } } events state)
    {serial : Nat} {job : QueryJob} (begun : .begun serial job ∈ state.history) :
    Pending state serial job ∨ .ended serial ∈ state.history ∧ Reported job (upcallsOf serial state.history) := by
  have initial : Ledger [] { cache := { component } } := by
    refine ⟨listens, ?_, ?_, ?_, List.nodup_nil, ?_, ?_, ?_⟩
    all_goals simp [State.waiting]
  have ledger : Ledger [] state :=
    run.invariant initial (fun _ _ _ held move => ledger_move held move.1 (moves_of_step move.2))
  rcases ledger.reported serial job begun with waits | ended
  · exact Or.inl (ledger.pending begun waits)
  · exact Or.inr ended

section Asked

theorem Note.beginning_eq_some {note : Note} {serial : Nat} {job : QueryJob} (first : note.beginning = some (serial, job)) :
    note = .begun serial job := by
  unfold beginning at first
  split at first
  next =>
    cases first
    rfl
  next => cases first
  next => cases first

/-- The query that the callback makes is the second dispatch. -/
theorem dispatches_reported_asked : ∃ state job,
    exec (guarded (fun _ event => attentive event = true) (step plainHost)) listening (sending ++ answering ++ asking) =
      some state ∧ .begun 1 job ∈ state.history ∧
    (Pending state 1 job ∨ .ended 1 ∈ state.history ∧ Reported job (upcallsOf 1 state.history)) := by
  have asks : ((exec (guarded (fun _ event => attentive event = true) (step plainHost)) listening
      (sending ++ answering ++ asking)).any
        fun state => state.history.any fun note => note.beginning.any (·.1 == 1)) = true := by decide
  obtain ⟨state, done, noted⟩ := (Option.any_eq_true ..).mp asks
  obtain ⟨note, member, begins⟩ := List.any_eq_true.mp noted
  obtain ⟨⟨serial, job⟩, first, second⟩ := (Option.any_eq_true ..).mp begins
  cases eq_of_beq second
  have begun : .begun 1 job ∈ state.history := Note.beginning_eq_some first ▸ member
  have listens : listening.component.Listens := by decide
  exact ⟨state, job, done, begun, dispatches_reported listens (Run.of_guarded_exec done) begun⟩

end Asked
end MainThread
end OmpMySQL
