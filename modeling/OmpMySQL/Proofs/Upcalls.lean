import Mathlib.Data.List.Nodup
import OmpMySQL.Dispatch

/-! Which scripts a dispatch calls. -/

namespace OmpMySQL

variable {strtof : String → Cell} {component : Component} {job : QueryJob} {amx : AMX}

namespace Pawn

theorem findSide_eq (name : String) (scripts : List (Option AMX)) :
    findSide name scripts = (scripts.filterMap id).find? (·.findPublic name) := by
  induction scripts with
  | nil => rfl
  | cons script rest ih =>
    cases script with
    | none => simp [findSide, ih]
    | some amx => cases defined : amx.findPublic name <;> simp [findSide, ih, defined]

theorem findScriptWithPublic_eq (pawn : Pawn) (name : String) :
    pawn.findScriptWithPublic name = pawn.loaded.find? (·.findPublic name) := by
  unfold findScriptWithPublic loaded
  cases pawn.mainScript with
  | none => simp [findSide_eq]
  | some amx => cases defined : amx.findPublic name <;> simp [findSide_eq, defined]

theorem findPublic_of_find {pawn : Pawn} {name : String} (found : pawn.findScriptWithPublic name = some amx) :
    amx ∈ pawn.loaded ∧ amx.findPublic name = true := by
  rw [findScriptWithPublic_eq] at found
  have defined := List.find?_some found
  exact ⟨List.mem_of_find?_eq_some found, defined⟩

theorem find_isSome {pawn : Pawn} {name : String} (member : amx ∈ pawn.loaded)
    (defined : amx.findPublic name = true) : ∃ first, pawn.findScriptWithPublic name = some first := by
  rw [findScriptWithPublic_eq]
  cases found : pawn.loaded.find? (·.findPublic name) with
  | some first => exact ⟨first, rfl⟩
  | none => simp [List.find?_eq_none.mp found amx member] at defined

def Earliest (pawn : Pawn) (name : String) (amx : AMX) : Prop :=
  ∃ before after, pawn.loaded = before ++ amx :: after ∧ ∀ other ∈ before, other.findPublic name = false

theorem earliest_iff {pawn : Pawn} {name : String} {first : AMX} (defined : amx.findPublic name = true)
    (member : amx ∈ pawn.loaded) (found : pawn.findScriptWithPublic name = some first) :
    first.script = amx.script ↔ pawn.Earliest name amx := by
  rw [findScriptWithPublic_eq] at found
  constructor
  · intro same
    have alike : first = amx :=
      List.inj_on_of_nodup_map pawn.distinct (List.mem_of_find?_eq_some found) member same
    subst alike
    obtain ⟨_, before, after, split, passed⟩ := List.find?_eq_some_iff_append.mp found
    exact ⟨before, after, split, by simpa using passed⟩
  · rintro ⟨before, after, split, passed⟩
    have own : pawn.loaded.find? (·.findPublic name) = some amx :=
      List.find?_eq_some_iff_append.mpr ⟨defined, before, after, split, by simpa using passed⟩
    rw [own] at found
    cases found
    rfl

end Pawn

namespace Component

theorem storeString_memory (chars : List Char) (component : Component) (addr : Nat) :
    ∃ memory, component.storeString addr chars = { component with memory } := by
  induction chars generalizing component addr with
  | nil => exact ⟨_, rfl⟩
  | cons char rest ih =>
    obtain ⟨memory, same⟩ := ih (component.store addr char.toNat) (addr + 1)
    exact ⟨memory, same⟩

theorem applyField_memory (strtof : String → Cell) (component : Component) (set : ResultSet) (row : List ResultValue)
    (field : ModelField) : ∃ memory, component.applyField strtof set row field = { component with memory } := by
  rw [applyField]
  split
  next =>
    split
    next => exact ⟨_, rfl⟩
    next => exact ⟨_, rfl⟩
    next =>
      split
      next => exact storeString_memory ..
      next => exact ⟨component.memory, rfl⟩
  next => exact ⟨component.memory, rfl⟩

theorem applyFields_memory (strtof : String → Cell) (set : ResultSet) (row : List ResultValue)
    (fields : List ModelField) (component : Component) :
    ∃ memory, fields.foldl (fun c field => c.applyField strtof set row field) component = { component with memory } := by
  induction fields generalizing component with
  | nil => exact ⟨component.memory, rfl⟩
  | cons field rest ih =>
    obtain ⟨first, stored⟩ := applyField_memory strtof component set row field
    obtain ⟨memory, same⟩ := ih { component with memory := first }
    exact ⟨memory, by rw [List.foldl_cons, stored, same]⟩

/-- A write-back changes script memory and the status of its model. -/
theorem applyModelResult_forms (strtof : String → Cell) (component : Component) (job : QueryJob) :
    component.models job.modelHandle = none ∧ component.applyModelResult strtof job = component ∨
      ∃ m memory error, component.models job.modelHandle = some m ∧ component.applyModelResult strtof job =
        { component with memory }.setModel job.modelHandle (m.setError error) := by
  rw [applyModelResult]
  cases found : component.models job.modelHandle with
  | none => exact Or.inl ⟨rfl, rfl⟩
  | some m =>
    refine Or.inr ⟨m, ?_⟩
    dsimp only
    split
    next =>
      split
      next => exact ⟨_, _, rfl, rfl⟩
      next => exact ⟨component.memory, _, rfl, rfl⟩
    split
    next => exact ⟨component.memory, _, rfl, rfl⟩
    split
    next =>
      split
      next set _ _ _ row _ _ =>
        obtain ⟨memory, stored⟩ := applyFields_memory strtof set row m.fields component
        rw [stored]
        exact ⟨memory, _, rfl, rfl⟩
      next => exact ⟨component.memory, _, rfl, rfl⟩
    next => exact ⟨component.memory, _, rfl, rfl⟩

/-- Memory and models apart, nothing a dispatch consults has changed. -/
structure SameHost (before after : Component) : Prop where
  pawn : after.pawn = before.pawn
  core : after.core = before.core
  activeCache : after.activeCache = before.activeCache

/-- The component as the calls of a dispatch find it. -/
def writeBack (strtof : String → Cell) (component : Component) (job : QueryJob) : Component :=
  if 0 < job.modelHandle then component.applyModelResult strtof job else component

theorem sameHost_writeBack (strtof : String → Cell) (component : Component) (job : QueryJob) :
    SameHost component (component.writeBack strtof job) := by
  rw [writeBack]
  split
  next =>
    rcases component.applyModelResult_forms strtof job with ⟨_, same⟩ | ⟨m, memory, error, _, same⟩
    · rw [same]
      exact ⟨rfl, rfl, rfl⟩
    · rw [same]
      exact ⟨rfl, rfl, rfl⟩
  next => exact ⟨rfl, rfl, rfl⟩

def callsFrom (component : Component) (amx : AMX) (job : QueryJob) : List Invocation :=
  component.auditCalls job ++
    if component.boundPlayerGone job then []
    else if job.succeeded = false then component.fireQueryError job
    else if job.callback = "" then []
    else (component.runCallback amx job).calls

/-- The model write-back decides nothing about the calls. -/
theorem dispatchJob_calls (strtof : String → Cell) (component : Component) (job : QueryJob) :
    (component.dispatchJob strtof job).calls =
      match component.resolveScript job with
      | none => []
      | some amx => component.callsFrom amx job := by
  rw [dispatchJob]
  cases component.resolveScript job with
  | none => rfl
  | some amx =>
    obtain ⟨written, host, same⟩ : ∃ written, SameHost component written ∧
        (if 0 < job.modelHandle then component.applyModelResult strtof job else component) = written :=
      ⟨_, component.sameHost_writeBack strtof job, rfl⟩
    have gone : written.boundPlayerGone job = component.boundPlayerGone job := by
      unfold boundPlayerGone
      rw [host.core]
    have errors : written.fireQueryError job = component.fireQueryError job := by
      unfold fireQueryError findScriptWithPublic
      rw [host.pawn, host.activeCache]
    have ran : (written.runCallback amx job).calls = (component.runCallback amx job).calls := by
      unfold runCallback
      rw [host.activeCache]
      split <;> rfl
    dsimp only
    rw [same, gone, errors]
    rw [callsFrom]
    split
    next => simp
    split
    next => rfl
    split
    next => simp
    next => rw [ran]

theorem resolveScript_of_found {first : AMX} (named : job.callback ≠ "")
    (found : component.findScriptWithPublic job.callback = some first) :
    component.resolveScript job = some first := by
  simp [resolveScript, named, found]

theorem dispatchHash_calls {job : HashJob} {first : AMX} (named : job.callback ≠ "")
    (found : component.findScriptWithPublic job.callback = some first) :
    ∃ call, component.dispatchHash job = [call] ∧ call.name = job.callback ∧ call.script = first.script := by
  rw [dispatchHash]
  rw [if_neg named, found]
  exact ⟨_, rfl, rfl, rfl⟩

/-- The script a dispatch starts from defines the callback only if it is the first
script to do so. -/
theorem resolveScript_defines {owner : AMX} (named : job.callback ≠ "")
    (resolved : component.resolveScript job = some owner) :
    owner.findPublic job.callback = true ↔ component.findScriptWithPublic job.callback = some owner := by
  cases found : component.findScriptWithPublic job.callback with
  | some first =>
    rw [resolveScript_of_found named found] at resolved
    cases resolved
    obtain ⟨pawn, _, search⟩ := Option.bind_eq_some_iff.mp found
    simp [(Pawn.findPublic_of_find search).2]
  | none =>
    simp only [reduceCtorEq, iff_false, Bool.not_eq_true]
    simp only [resolveScript, named, if_false, found, Option.none_or, Option.bind_eq_some_iff] at resolved
    obtain ⟨pawn, present, main⟩ := resolved
    simp only [findScriptWithPublic, present, Option.bind_some, Pawn.findScriptWithPublic_eq] at found
    simpa using List.find?_eq_none.mp found owner (by simp [Pawn.loaded, main])

/-- What a dispatch can call, and when: a hook in the first script that has it, or the job's callback. -/
inductive Calls (component : Component) (job : QueryJob) : Invocation → Prop where
  | executeHook {first : AMX} {result : QueryResult} (succeeded : job.succeeded = true) (given : job.result = some result)
      (found : component.findScriptWithPublic "OnQueryExecute" = some first) :
      Calls component job
        (queryExecuteCall first job.connectionHandle job.sql result.execTimeMicros component.activeCache)
  | errorHook {first : AMX} (failed : job.succeeded = false) (present : component.boundPlayerGone job = false)
      (found : component.findScriptWithPublic "OnQueryError" = some first) :
      Calls component job
        (queryErrorCall first job.errorCode job.error job.callback job.sql job.connectionHandle component.activeCache)
  | callback {owner : AMX} (resolved : component.resolveScript job = some owner) (succeeded : job.succeeded = true)
      (present : component.boundPlayerGone job = false) (named : job.callback ≠ "")
      (defined : owner.findPublic job.callback = true) :
      Calls component job
        ((pushArgs owner.frame job.args).exec owner job.callback .callback (job.result.or component.activeCache))

theorem calls_of_mem {call : Invocation} (made : call ∈ (component.dispatchJob strtof job).calls) :
    component.Calls job call := by
  rw [dispatchJob_calls] at made
  cases resolved : component.resolveScript job with
  | none => simp [resolved] at made
  | some owner =>
    simp only [resolved, callsFrom, List.mem_append] at made
    rcases made with audit | rest
    · unfold auditCalls fireQueryExecuteHook at audit
      split at audit
      next succeeded given =>
        split at audit
        next => cases audit
        next first found =>
          rw [List.mem_singleton.mp audit]
          exact .executeHook succeeded given found
      next => cases audit
    · split at rest
      next => cases rest
      next present =>
        have present := eq_false_of_ne_true present
        split at rest
        next failed =>
          unfold fireQueryError at rest
          split at rest
          next => cases rest
          next first found =>
            rw [List.mem_singleton.mp rest]
            exact .errorHook failed present found
        next succeeded =>
          split at rest
          next => cases rest
          next named =>
            unfold runCallback at rest
            split at rest
            next defined =>
              rw [List.mem_singleton.mp rest]
              exact .callback resolved (eq_true_of_ne_false succeeded) present named defined
            next => cases rest

theorem call_in_first {call : Invocation} (made : call ∈ (component.dispatchJob strtof job).calls) :
    ∃ first, component.findScriptWithPublic call.name = some first ∧ call.script = first.script := by
  cases calls_of_mem made with
  | executeHook _ _ found => exact ⟨_, found, rfl⟩
  | errorHook _ _ found => exact ⟨_, found, rfl⟩
  | callback resolved _ _ named defined => exact ⟨_, (resolveScript_defines named resolved).mp defined, rfl⟩

def namesFrom (component : Component) (job : QueryJob) : List String :=
  (if job.succeeded = true ∧ job.result ≠ none ∧ component.findScriptWithPublic "OnQueryExecute" ≠ none then
    ["OnQueryExecute"] else []) ++
  if component.boundPlayerGone job then []
  else if job.succeeded = false then
    if component.findScriptWithPublic "OnQueryError" = none then [] else ["OnQueryError"]
  else if job.callback = "" ∨ component.findScriptWithPublic job.callback = none then []
  else [job.callback]

theorem dispatchJob_names (strtof : String → Cell) {owner : AMX} (resolved : component.resolveScript job = some owner) :
    (component.dispatchJob strtof job).calls.map (·.name) = component.namesFrom job := by
  rw [dispatchJob_calls, resolved]
  have audits : (component.auditCalls job).map (·.name) =
      if job.succeeded = true ∧ job.result ≠ none ∧ component.findScriptWithPublic "OnQueryExecute" ≠ none then
        ["OnQueryExecute"] else [] := by
    unfold auditCalls fireQueryExecuteHook
    cases job.succeeded <;> cases job.result <;> cases component.findScriptWithPublic "OnQueryExecute" <;> simp
    rfl
  have errors : (component.fireQueryError job).map (·.name) =
      if component.findScriptWithPublic "OnQueryError" = none then [] else ["OnQueryError"] := by
    rw [fireQueryError]
    cases component.findScriptWithPublic "OnQueryError" <;> simp
    rfl
  simp only [callsFrom, namesFrom, List.map_append, audits]
  congr 1
  split
  next => rfl
  split
  next => exact errors
  by_cases named : job.callback = ""
  · simp [named]
  · have defines := resolveScript_defines named resolved
    simp only [named, if_false, false_or, runCallback]
    cases defined : owner.findPublic job.callback with
    | true =>
      rw [defines.mp defined]
      rfl
    | false =>
      have absent : component.findScriptWithPublic job.callback = none := by
        cases found : component.findScriptWithPublic job.callback with
        | none => rfl
        | some first =>
          rw [resolveScript_of_found named found] at resolved
          cases resolved
          simp [defines.mpr found] at defined
      simp [absent]

end Component
end OmpMySQL
