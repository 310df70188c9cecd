import OmpMySQL.Proofs.Upcalls

/-! Which script a job's callback runs in. The job keeps the callback's name only,
so it runs in the first script that defines that name. -/

namespace OmpMySQL
namespace Component

variable {component : Component} {pawn : Pawn} {job : QueryJob} {amx first : AMX}

/-- Something of the callback's name will be called: the callback itself, or a
hook that happens to share its name. -/
def CallbackDue (component : Component) (job : QueryJob) : Prop :=
  job.callback ≠ "" ∧
    (job.succeeded = true ∧ component.boundPlayerGone job = false ∨
      job.callback = "OnQueryExecute" ∧ job.succeeded = true ∧ job.result ≠ none ∨
      job.callback = "OnQueryError" ∧ job.succeeded = false ∧ component.boundPlayerGone job = false)

def RunsIn (amx : AMX) (name : String) (calls : List Invocation) : Prop :=
  ∀ call ∈ calls, call.name = name → call.script = amx.script

theorem callbackDue_iff (strtof : String → Cell) (named : job.callback ≠ "")
    (found : component.findScriptWithPublic job.callback = some first) :
    job.callback ∈ (component.dispatchJob strtof job).calls.map (·.name) ↔ component.CallbackDue job := by
  rw [dispatchJob_names strtof (resolveScript_of_found named found)]
  have hook : ∀ name, job.callback = name → component.findScriptWithPublic name ≠ none := by
    intro name same
    simp [← same, found]
  unfold namesFrom CallbackDue
  rw [List.mem_append]
  constructor
  · rintro (audit | rest)
    · split at audit
      next due => exact ⟨named, Or.inr (Or.inl ⟨List.mem_singleton.mp audit, due.1, due.2.1⟩)⟩
      next => cases audit
    · split at rest
      next => cases rest
      next staying =>
        have present : component.boundPlayerGone job = false := by simpa using staying
        split at rest
        next failed =>
          split at rest
          next => cases rest
          next => exact ⟨named, Or.inr (Or.inr ⟨List.mem_singleton.mp rest, failed, present⟩)⟩
        next succeeded => exact ⟨named, Or.inl ⟨by simpa using succeeded, present⟩⟩
  · rintro ⟨_, ⟨succeeded, present⟩ | ⟨same, succeeded, result⟩ | ⟨same, failed, present⟩⟩
    · apply Or.inr
      simp [present, succeeded, named, found]
    · apply Or.inl
      rw [if_pos ⟨succeeded, result, hook _ same⟩]
      exact List.mem_singleton.mpr same
    · apply Or.inr
      simp [present, failed, hook _ same, same]

theorem call_named {strtof : String → Cell} {call : Invocation}
    (made : call ∈ (component.dispatchJob strtof job).calls) : call.name ≠ "" := by
  cases calls_of_mem made with
  | executeHook => simp [queryExecuteCall, Frame.exec]
  | errorHook => simp [queryErrorCall, Frame.exec]
  | callback _ _ _ named => exact named

private theorem search_loaded (loaded : component.pawn = some pawn) (name : String) :
    component.findScriptWithPublic name = pawn.findScriptWithPublic name := by
  simp [findScriptWithPublic, loaded]

theorem query_callback_in_issuer (strtof : String → Cell) (loaded : component.pawn = some pawn)
    (member : amx ∈ pawn.loaded) (defined : amx.findPublic job.callback = true) :
    RunsIn amx job.callback (component.dispatchJob strtof job).calls ↔
      (component.CallbackDue job → pawn.Earliest job.callback amx) := by
  obtain ⟨first, found⟩ := Pawn.find_isSome member defined
  rw [← Pawn.earliest_iff defined member found]
  by_cases named : job.callback = ""
  · have silent : ¬ component.CallbackDue job := fun due => due.1 named
    have unnamed : RunsIn amx job.callback (component.dispatchJob strtof job).calls :=
      fun call made same => absurd (same.trans named) (call_named made)
    simp [silent, unnamed]
  · have runner : RunsIn first job.callback (component.dispatchJob strtof job).calls := by
      intro call made same
      obtain ⟨owner, owns, script⟩ := call_in_first made
      rw [same, search_loaded loaded, found] at owns
      cases owns
      exact script
    rw [← callbackDue_iff strtof named ((search_loaded loaded _).trans found), List.mem_map]
    constructor
    · rintro runs ⟨call, made, same⟩
      exact (runner call made same).symm.trans (runs call made same)
    · intro alike call made same
      exact (runner call made same).trans (alike ⟨call, made, same⟩)

theorem hash_callback_in_issuer {job : HashJob} (loaded : component.pawn = some pawn) (member : amx ∈ pawn.loaded)
    (defined : amx.findPublic job.callback = true) :
    RunsIn amx job.callback (component.dispatchHash job) ↔
      (job.callback ≠ "" → pawn.Earliest job.callback amx) := by
  obtain ⟨first, found⟩ := Pawn.find_isSome member defined
  rw [← Pawn.earliest_iff defined member found]
  by_cases named : job.callback = ""
  · simp [RunsIn, dispatchHash, named]
  · obtain ⟨call, calls, name, script⟩ := dispatchHash_calls named ((search_loaded loaded _).trans found)
    simp [RunsIn, calls, name, script, named]

/-- A callback runs in the script that issued the job exactly when no script
searched before it defines a public of that name. -/
theorem callback_in_issuer (loaded : component.pawn = some pawn) (member : amx ∈ pawn.loaded) :
    (∀ (strtof : String → Cell) (job : QueryJob), amx.findPublic job.callback = true →
      (RunsIn amx job.callback (component.dispatchJob strtof job).calls ↔
        (component.CallbackDue job → pawn.Earliest job.callback amx))) ∧
    ∀ job : HashJob, amx.findPublic job.callback = true →
      (RunsIn amx job.callback (component.dispatchHash job) ↔
        (job.callback ≠ "" → pawn.Earliest job.callback amx)) :=
  ⟨fun strtof _ defined => query_callback_in_issuer strtof loaded member defined,
    fun _ defined => hash_callback_in_issuer loaded member defined⟩

section SharedName

private def gamemode : AMX := { script := 0, publics := ["OnLoaded"] }
private def admin : AMX := { script := 1, publics := ["OnLoaded"] }
private def vehicles : AMX := { script := 2, publics := ["OnVehiclesLoaded"] }

private def scripts : Pawn :=
  { mainScript := some gamemode, sideScripts := [some admin, some vehicles], distinct := by decide }

private def server : Component := { pawn := some scripts }

private def lookup : QueryJob :=
  QueryJob.complete { sql := "SELECT 1", callback := "OnLoaded" } ⟨true, 0, "", {}⟩

theorem callback_in_gamemode : ¬ ∀ (component : Component) (pawn : Pawn) (amx : AMX),
    component.pawn = some pawn → amx ∈ pawn.loaded → ∀ (strtof : String → Cell) (job : QueryJob),
      amx.findPublic job.callback = true →
        RunsIn amx job.callback (component.dispatchJob strtof job).calls := by
  intro always
  have runs := always server scripts admin rfl (by decide) (fun _ => 0) lookup (by decide)
  have ran := runs _ List.mem_cons_self rfl
  exact absurd ran (by decide)

private def spawned : QueryJob :=
  QueryJob.complete { sql := "SELECT 1", callback := "OnVehiclesLoaded" } ⟨true, 0, "", {}⟩

theorem callback_in_issuer_vehicles :
    RunsIn vehicles "OnVehiclesLoaded" (server.dispatchJob (fun _ => 0) spawned).calls := by
  have issuer := (@callback_in_issuer server scripts vehicles rfl (by decide)).1
  apply (issuer (fun _ => 0) spawned (by decide)).mpr
  intro due
  exact ⟨[gamemode, admin], [], rfl, by decide⟩

end SharedName
end Component
end OmpMySQL
