import Mathlib.Data.List.TakeWhile
import OmpMySQL.Proofs.Upcalls

/-! The parameters the two hooks receive. The callee's first parameter is the one
pushed last, and pushing a string counts as pushing its address. -/

namespace OmpMySQL

/-- `OnQueryExecute(handle, query[], exec_time)`. -/
def Invocation.ReceivesQuery (call : Invocation) (handle : Int) (sql : String) (execMicros : Int) : Prop :=
  call.params[0]? = some (toCell handle) ∧ call.text 1 = some sql ∧ call.params[2]? = some (toCell execMicros)

/-- `OnQueryError(errorid, error[], callback[], query[], handle)`. -/
def Invocation.ReceivesError (call : Invocation) (errorCode : Int) (error callback sql : String) (handle : Int) :
    Prop :=
  call.params[0]? = some (toCell errorCode) ∧ call.text 1 = some error ∧ call.text 2 = some callback ∧
    call.text 3 = some sql ∧ call.params[4]? = some (toCell handle)

def QueryJob.execMicros (job : QueryJob) : Int := (job.result.map (·.execTimeMicros)).getD 0

def Conventional (job : QueryJob) (call : Invocation) : Prop :=
  match call.upcall with
  | .executeHook => call.ReceivesQuery job.connectionHandle job.sql job.execMicros
  | .errorHook => call.ReceivesError job.errorCode job.error job.callback job.sql job.connectionHandle
  | .callback => True

def NulFree (text : String) : Prop := Char.ofNat 0 ∉ text.toList

instance (text : String) : Decidable (NulFree text) := inferInstanceAs (Decidable (¬ _))

theorem cString_eq_iff (text : String) : cString text = text ↔ NulFree text := by
  have whole : cString text = text ↔ text.toList.takeWhile (· ≠ Char.ofNat 0) = text.toList := by
    constructor
    · intro same
      simpa [cString] using congrArg String.toList same
    · intro same
      rw [cString, same, String.ofList_toList]
  rw [whole, List.takeWhile_eq_self_iff]
  constructor
  · intro all present
    simpa using all _ present
  · intro free char present
    have other : char ≠ Char.ofNat 0 := fun same => free (same ▸ present)
    simpa using other

theorem queryExecuteCall_iff (amx : AMX) (handle : Int) (sql : String) (execMicros : Int)
    (active : Option QueryResult) :
    (queryExecuteCall amx handle sql execMicros active).ReceivesQuery handle sql execMicros ↔
      toCell execMicros = amx.hea ∧ NulFree sql := by
  rw [← cString_eq_iff]
  have params : (queryExecuteCall amx handle sql execMicros active).params =
      [toCell handle, toCell execMicros, amx.hea] := rfl
  have text : (queryExecuteCall amx handle sql execMicros active).text 1 =
      [(amx.hea, cString sql)].lookup (toCell execMicros) := rfl
  rw [Invocation.ReceivesQuery, params, text]
  constructor
  · rintro ⟨_, found, address⟩
    have same : amx.hea = toCell execMicros := by simpa using address
    simp only [same, List.lookup_cons_self, Option.some.injEq] at found
    exact ⟨same.symm, found⟩
  · rintro ⟨same, whole⟩
    simp [same, whole]

theorem queryErrorCall_iff (amx : AMX) (errorCode : Int) (error callback sql : String) (handle : Int)
    (active : Option QueryResult) :
    (queryErrorCall amx errorCode error callback sql handle active).ReceivesError errorCode error callback sql handle ↔
      NulFree error ∧ NulFree callback ∧ NulFree sql := by
  rw [← cString_eq_iff, ← cString_eq_iff, ← cString_eq_iff]
  obtain ⟨amxError, atError⟩ : ∃ address : Int, address = amx.hea + 4 * ((cString sql).length + 1) := ⟨_, rfl⟩
  obtain ⟨amxCallback, atCallback⟩ : ∃ address : Int, address = amxError + 4 * ((cString error).length + 1) := ⟨_, rfl⟩
  have call : queryErrorCall amx errorCode error callback sql handle active =
      { script := amx.script, name := "OnQueryError", upcall := .errorHook
        params := [toCell errorCode, amxError, amxCallback, amx.hea, toCell handle, amxCallback, amxError, amx.hea]
        heap := [(amxCallback, cString callback), (amxError, cString error), (amx.hea, cString sql)], active } := by
    subst atCallback atError
    rfl
  -- The three strings lie one behind the other, so no address hides another.
  have second : (amxError == amxCallback) = false := beq_false_of_ne (by omega)
  have third : (amx.hea == amxCallback) = false := beq_false_of_ne (by omega)
  have fourth : (amx.hea == amxError) = false := beq_false_of_ne (by omega)
  rw [call]
  simp [Invocation.ReceivesError, Invocation.text, List.lookup_cons, second, third, fourth]

namespace Component
variable {component : Component} {job : QueryJob}

def AuditDue (component : Component) (job : QueryJob) (amx : AMX) : Prop :=
  component.resolveScript job ≠ none ∧ job.succeeded = true ∧ job.result ≠ none ∧
    component.findScriptWithPublic "OnQueryExecute" = some amx

def ErrorDue (component : Component) (job : QueryJob) : Prop :=
  component.resolveScript job ≠ none ∧ job.succeeded = false ∧ component.boundPlayerGone job = false ∧
    component.findScriptWithPublic "OnQueryError" ≠ none

theorem forall_auditCalls_iff {holds : Invocation → Prop} (resolved : component.resolveScript job ≠ none) :
    (∀ call ∈ component.auditCalls job, holds call) ↔ ∀ amx, component.AuditDue job amx →
      holds (queryExecuteCall amx job.connectionHandle job.sql job.execMicros component.activeCache) := by
  unfold auditCalls AuditDue fireQueryExecuteHook QueryJob.execMicros
  cases job.succeeded with
  | false => simp
  | true =>
    cases job.result with
    | none => simp
    | some result => cases component.findScriptWithPublic "OnQueryExecute" <;> simp [resolved]

theorem runCallback_upcall {amx : AMX} {call : Invocation} (made : call ∈ (component.runCallback amx job).calls) :
    call.upcall = .callback ∧ call.script = amx.script ∧ call.name = job.callback := by
  unfold runCallback at made
  split at made
  next =>
    rw [List.mem_singleton.mp made]
    exact ⟨rfl, rfl, rfl⟩
  next => cases made

theorem forall_calls_iff (strtof : String → Cell) {holds : Invocation → Prop}
    (callbacks : ∀ call, call.upcall = .callback → holds call) :
    (∀ call ∈ (component.dispatchJob strtof job).calls, holds call) ↔
      (∀ amx, component.AuditDue job amx →
        holds (queryExecuteCall amx job.connectionHandle job.sql job.execMicros component.activeCache)) ∧
      (component.ErrorDue job → ∀ call ∈ component.fireQueryError job, holds call) := by
  rw [dispatchJob_calls]
  cases resolved : component.resolveScript job with
  | none => simp [AuditDue, ErrorDue, resolved]
  | some owner =>
    have ran : ∀ call ∈ (component.runCallback owner job).calls, holds call :=
      fun call made => callbacks call (runCallback_upcall made).1
    simp only [callsFrom, List.forall_mem_append]
    rw [forall_auditCalls_iff (by simp [resolved])]
    apply and_congr_right'
    cases gone : component.boundPlayerGone job with
    | true => simp [ErrorDue, gone]
    | false =>
      cases succeeded : job.succeeded with
      | false =>
        cases found : component.findScriptWithPublic "OnQueryError" <;>
          simp [ErrorDue, gone, succeeded, resolved, found, fireQueryError]
      | true =>
        simp only [ErrorDue, succeeded, Bool.true_eq_false, Bool.false_eq_true, false_and, and_false, if_false,
          false_implies, iff_true]
        split
        next => simp
        next => exact ran

instance (component : Component) (job : QueryJob) : Decidable (component.ErrorDue job) :=
  inferInstanceAs (Decidable (_ ∧ _))

theorem rejectedJob_calls (strtof : String → Cell) (handle : Int) (sql : String) (reason : GuardReject) :
    (component.dispatchJob strtof (rejectedJob handle sql reason)).calls =
      if component.ErrorDue (rejectedJob handle sql reason) then
        component.fireQueryError (rejectedJob handle sql reason)
      else [] := by
  rw [dispatchJob_calls]
  cases resolved : component.resolveScript (rejectedJob handle sql reason) with
  | none => simp [ErrorDue, resolved]
  | some owner =>
    have quiet : component.auditCalls (rejectedJob handle sql reason) = [] := rfl
    have staying : component.boundPlayerGone (rejectedJob handle sql reason) = false := by
      rw [boundPlayerGone]
      split <;> rfl
    have failed : (rejectedJob handle sql reason).succeeded = false := rfl
    cases found : component.findScriptWithPublic "OnQueryError" <;>
      simp [callsFrom, quiet, staying, failed, ErrorDue, resolved, found, fireQueryError]

end Component

theorem fireQueryError_iff {component : Component} {job : QueryJob} {holds : Invocation → Prop}
    (receives : ∀ amx active, holds (queryErrorCall amx job.errorCode job.error job.callback job.sql
        job.connectionHandle active) = (queryErrorCall amx job.errorCode job.error job.callback job.sql
        job.connectionHandle active).ReceivesError job.errorCode job.error job.callback job.sql job.connectionHandle)
    (due : component.ErrorDue job) :
    (∀ call ∈ component.fireQueryError job, holds call) ↔
      NulFree job.error ∧ NulFree job.callback ∧ NulFree job.sql := by
  obtain ⟨amx, found⟩ := Option.ne_none_iff_exists'.mp due.2.2.2
  simp only [Component.fireQueryError, found, List.forall_mem_singleton, receives]
  exact queryErrorCall_iff ..

theorem nulFree_guardRejectText (reason : GuardReject) : NulFree (guardRejectText reason) := by
  cases reason <;> decide +kernel

theorem dispatch_convention (strtof : String → Cell) (component : Component) (job : QueryJob) :
    (∀ call ∈ (component.dispatchJob strtof job).calls, Conventional job call) ↔
      (∀ amx, component.AuditDue job amx → toCell job.execMicros = amx.hea ∧ NulFree job.sql) ∧
      (component.ErrorDue job → NulFree job.error ∧ NulFree job.callback ∧ NulFree job.sql) := by
  have callbacks : ∀ call : Invocation, call.upcall = .callback → Conventional job call := by
    intro call site
    simp [Conventional, site]
  rw [Component.forall_calls_iff strtof callbacks]
  apply and_congr
  · exact forall_congr' fun amx => imp_congr_right fun _ => queryExecuteCall_iff ..
  · exact imp_congr_right fun due => fireQueryError_iff (fun _ _ => rfl) due

theorem guard_reject_convention (component : Component) (amx : AMX) (handle : Int) (sql callback : String)
    (reason : GuardReject) :
    (∀ call ∈ component.reportGuardReject amx handle sql callback reason,
        call.ReceivesError 0 (guardRejectText reason) callback sql handle) ↔
      (reason ≠ .unknownHandle → amx.findPublic "OnQueryError" = true → NulFree callback ∧ NulFree sql) := by
  rw [Component.reportGuardReject]
  by_cases silent : reason = .unknownHandle ∨ amx.findPublic "OnQueryError" = false
  · rw [if_pos silent]
    rcases silent with rfl | undefined
    · simp
    · simp [undefined]
  · rw [if_neg silent]
    simp only [not_or, Bool.not_eq_false] at silent
    simp [silent.1, silent.2, queryErrorCall_iff, nulFree_guardRejectText]

theorem sync_reject_convention (strtof : String → Cell) (component : Component) (handle : Int) (sql : String)
    (reason : GuardReject) :
    (∀ call ∈ (component.reportSyncReject strtof handle sql reason).calls,
        call.ReceivesError 0 (guardRejectText reason) "" sql handle) ↔
      (reason ≠ .unknownHandle → component.ErrorDue (Component.rejectedJob handle sql reason) → NulFree sql) := by
  rw [Component.reportSyncReject]
  by_cases silent : reason = .unknownHandle
  · simp [silent]
  · rw [if_neg silent, Component.rejectedJob_calls]
    by_cases due : component.ErrorDue (Component.rejectedJob handle sql reason)
    · rw [if_pos due]
      apply (fireQueryError_iff (fun _ _ => rfl) due).trans
      have text : NulFree (Component.rejectedJob handle sql reason).error := nulFree_guardRejectText reason
      have name : NulFree (Component.rejectedJob handle sql reason).callback := (by decide : NulFree "")
      constructor
      · exact fun whole _ _ => whole.2.2
      · exact fun whole => ⟨text, name, whole silent due⟩
    · simp [due]

/-- Dispatches call the hooks by their forwards exactly when the execution time
happens to be the address of the query text and no text is cut off; rejections,
whenever no text is cut off. -/
theorem hook_convention (strtof : String → Cell) (component : Component) (job : QueryJob) (amx : AMX) (handle : Int)
    (sql callback : String) (reason : GuardReject) :
    ((∀ call ∈ (component.dispatchJob strtof job).calls, Conventional job call) ↔
      (∀ amx, component.AuditDue job amx → toCell job.execMicros = amx.hea ∧ NulFree job.sql) ∧
      (component.ErrorDue job → NulFree job.error ∧ NulFree job.callback ∧ NulFree job.sql)) ∧
    ((∀ call ∈ component.reportGuardReject amx handle sql callback reason,
        call.ReceivesError 0 (guardRejectText reason) callback sql handle) ↔
      (reason ≠ .unknownHandle → amx.findPublic "OnQueryError" = true → NulFree callback ∧ NulFree sql)) ∧
    ((∀ call ∈ (component.reportSyncReject strtof handle sql reason).calls,
        call.ReceivesError 0 (guardRejectText reason) "" sql handle) ↔
      (reason ≠ .unknownHandle → component.ErrorDue (Component.rejectedJob handle sql reason) → NulFree sql)) := by
  have dispatched := dispatch_convention strtof component job
  have rejected := guard_reject_convention component amx handle sql callback reason
  have refused := sync_reject_convention strtof component handle sql reason
  exact ⟨dispatched, rejected, refused⟩

section SwappedParameters

private def gamemode : AMX := { script := 0, publics := ["OnQueryExecute"], hea := 4096 }

private def loaded : Component := { pawn := some { mainScript := some gamemode, distinct := by decide } }

private def audited : QueryJob :=
  { connectionHandle := 1, sql := "SELECT 1", succeeded := true, result := some { execTimeMicros := 250 } }

theorem hook_swapped : ¬ ∀ (strtof : String → Cell) (component : Component) (job : QueryJob),
    ∀ call ∈ (component.dispatchJob strtof job).calls, Conventional job call := by
  intro always
  have receives : (queryExecuteCall gamemode 1 "SELECT 1" 250 none).ReceivesQuery 1 "SELECT 1" 250 :=
    always (fun _ => 0) loaded audited _ List.mem_cons_self
  have text : (queryExecuteCall gamemode 1 "SELECT 1" 250 none).text 1 = none := by decide
  rw [receives.2.1] at text
  cases text

end SwappedParameters
end OmpMySQL
