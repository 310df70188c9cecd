import OmpMySQL.Proofs.Upcalls

/-! How often an executed query is reported to the hooks. -/

namespace OmpMySQL
namespace Component

variable {component : Component} {pawn : Pawn} {amx : AMX}

def callsOf (name : String) (calls : List Invocation) : Nat := (calls.map (·.name)).count name

def ReportedOnce (succeeded : Bool) (calls : List Invocation) : Prop :=
  callsOf "OnQueryExecute" calls = (if succeeded then 1 else 0) ∧
    callsOf "OnQueryError" calls = (if succeeded then 0 else 1)

/-- There is a script to start from: a gamemode, or one that defines the callback. -/
def HasScript (pawn : Pawn) (callback : String) : Prop :=
  pawn.mainScript ≠ none ∨ callback ≠ "" ∧ ∃ amx ∈ pawn.loaded, amx.findPublic callback = true

theorem resolveScript_iff (loaded : component.pawn = some pawn) (job : QueryJob) :
    component.resolveScript job ≠ none ↔ HasScript pawn job.callback := by
  have search : component.findScriptWithPublic job.callback = pawn.findScriptWithPublic job.callback := by
    simp [findScriptWithPublic, loaded]
  have defined : pawn.findScriptWithPublic job.callback ≠ none ↔
      ∃ amx ∈ pawn.loaded, amx.findPublic job.callback = true := by
    simp [Pawn.findScriptWithPublic_eq, List.find?_eq_none]
  unfold resolveScript HasScript
  rw [search, loaded, Option.bind_some, ← defined]
  by_cases named : job.callback = ""
  · simp [named]
  · cases pawn.findScriptWithPublic job.callback <;> simp [named]

/-- Every query that ran is reported exactly once when there is a script to start
from, a failed query's bound player is still there, and a callback that will run
is not itself named like a hook. -/
theorem reported_once_iff (strtof : String → Cell) (loaded : component.pawn = some pawn) (member : amx ∈ pawn.loaded)
    (audits : amx.findPublic "OnQueryExecute" = true) (fails : amx.findPublic "OnQueryError" = true)
    (request : QueryJob) (outcome : Outcome) :
    ReportedOnce outcome.succeeded (component.dispatchJob strtof (request.complete outcome)).calls ↔
      HasScript pawn request.callback ∧
      (outcome.succeeded = false → component.boundPlayerGone request = false) ∧
      (outcome.succeeded = true → component.boundPlayerGone request = false →
        request.callback ≠ "OnQueryExecute" ∧ request.callback ≠ "OnQueryError") := by
  obtain ⟨auditor, audit⟩ := Pawn.find_isSome member audits
  obtain ⟨reporter, report⟩ := Pawn.find_isSome member fails
  have hooks : component.findScriptWithPublic "OnQueryExecute" = some auditor ∧
      component.findScriptWithPublic "OnQueryError" = some reporter := by
    simp [findScriptWithPublic, loaded, audit, report]
  have resolves := resolveScript_iff loaded (request.complete outcome)
  rw [QueryJob.complete_callback] at resolves
  cases resolved : component.resolveScript (request.complete outcome) with
  | none =>
    have stuck : ¬ HasScript pawn request.callback := by
      rw [← resolves]
      simp [resolved]
    have silent : (component.dispatchJob strtof (request.complete outcome)).calls = [] := by
      rw [dispatchJob_calls, resolved]
    simp only [stuck, false_and, iff_false, silent, ReportedOnce, callsOf]
    cases outcome.succeeded <;> simp
  | some owner =>
    have starts : HasScript pawn request.callback := by
      rw [← resolves]
      simp [resolved]
    have staying : component.boundPlayerGone (request.complete outcome) = component.boundPlayerGone request := rfl
    have result : (request.complete outcome).result ≠ none ↔ outcome.succeeded = true := by
      rw [← Option.isSome_iff_ne_none, QueryJob.complete_result, QueryJob.complete_succeeded]
    simp only [starts, true_and, ReportedOnce, callsOf, dispatchJob_names strtof resolved, namesFrom, hooks, staying,
      result, QueryJob.complete_succeeded, QueryJob.complete_callback]
    cases outcome.succeeded with
    | false => cases component.boundPlayerGone request <;> simp
    | true =>
      cases component.boundPlayerGone request with
      | true => simp
      | false =>
        by_cases executes : request.callback = "OnQueryExecute"
        · simp [executes, hooks]
        by_cases reports : request.callback = "OnQueryError"
        · simp [reports, hooks]
        · simp only [executes, reports, not_false_eq_true, and_self, forall_const, ne_eq]
          by_cases uncalled : request.callback = "" ∨ component.findScriptWithPublic request.callback = none
          · simp [uncalled]
          · simp [uncalled, executes, reports]

section NoGamemode

private def audit : AMX := { script := 1, publics := ["OnQueryExecute", "OnQueryError"] }

private def filterscripts : Pawn := { sideScripts := [some audit], distinct := by decide }

private def auditing : Component := { pawn := some filterscripts }

private def update : QueryJob := { connectionHandle := 1, sql := "UPDATE players SET score = 1" }

private def applied : Outcome := ⟨true, 0, "", {}⟩

theorem unreported_without_gamemode : ¬ ∀ (strtof : String → Cell) (component : Component) (pawn : Pawn) (amx : AMX),
    component.pawn = some pawn → amx ∈ pawn.loaded → amx.findPublic "OnQueryExecute" = true →
      amx.findPublic "OnQueryError" = true → ∀ (request : QueryJob) (outcome : Outcome),
        ReportedOnce outcome.succeeded (component.dispatchJob strtof (request.complete outcome)).calls := by
  intro always
  have reported := always (fun _ => 0) auditing filterscripts audit rfl (by decide) (by decide) (by decide) update applied
  exact absurd reported.1 (by decide)

private def withGamemode : Pawn :=
  { mainScript := some { script := 0, publics := [] }, sideScripts := [some audit], distinct := by decide }

theorem reported_once_with_gamemode :
    ReportedOnce true (({ pawn := some withGamemode } : Component).dispatchJob (fun _ => 0)
      (update.complete applied)).calls := by
  refine (@reported_once_iff { pawn := some withGamemode } withGamemode audit (fun _ => 0) rfl (by decide) (by decide)
    (by decide) update applied).mpr ⟨Or.inl (by decide), ?_, ?_⟩
  · exact nofun
  · exact fun _ _ => ⟨by decide, by decide⟩

end NoGamemode
end Component
end OmpMySQL
