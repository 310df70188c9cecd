import OmpMySQL.Proofs.HookConvention
import OmpMySQL.Proofs.QueryReports
import OmpMySQL.Submissions

/-! Which scripts hear of a query that the guards refuse. Each kind of native
reports in a way of its own, and the model operations in none. -/

namespace OmpMySQL
open Library

/-- The submission was refused by the guards of an existing connection. -/
structure Submission.Refused (submission : Submission) (job : QueryJob) (reason : GuardReject) : Prop where
  sent : submission.sent = some (job, reason)
  refused : reason ≠ .none
  existing : reason ≠ .unknownHandle

/-- A refused submission took the branch of the refused. -/
theorem Submission.Refused.rejected {answer reason : GuardReject} {accepted other : Submission} {queued job : QueryJob}
    (refused : (if answer = .none then accepted else other).Refused job reason)
    (sent : accepted.sent = some (queued, answer)) : answer ≠ .none ∧ other.Refused job reason := by
  by_cases none : answer = .none
  · rw [if_pos none] at refused
    have same : reason = answer := congrArg Prod.snd (Option.some.inj (refused.sent.symm.trans sent))
    exact absurd (same.trans none) refused.refused
  · rw [if_neg none] at refused
    exact ⟨none, refused⟩

/-- `OnQueryError` ran once, with this handle. -/
def HeardOnce (handle : Int) (calls : List Invocation) : Prop :=
  ∃ call, calls.filter (·.name = "OnQueryError") = [call] ∧ call.params[4]? = some (toCell handle)

/-- The report of a native's kind finds a script: the calling one, or the one that
owns an empty callback. -/
def SubmitNative.Reaches (pawn : Pawn) (amx : AMX) : SubmitNative → Prop
  | .execute .. | .executeFor .. | .executeFile .. | .stmtExecute .. => amx.findPublic "OnQueryError" = true
  | .executeSync .. | .executeFileSync .. => pawn.mainScript ≠ none
  | .modelFind .. | .modelInsert .. | .modelUpdate .. | .modelDelete .. | .modelSave .. => False

theorem heardOnce_errorCall (amx : AMX) (errorCode : Int) (error callback sql : String) (handle : Int)
    (active : Option QueryResult) : HeardOnce handle [queryErrorCall amx errorCode error callback sql handle active] :=
  ⟨_, List.filter_eq_self.mpr (by simp [queryErrorCall, Frame.exec]), rfl⟩

theorem unheard_of_silent (handle : Int) {calls : List Invocation} (silent : calls = []) : ¬ HeardOnce handle calls := by
  rintro ⟨call, alone, _⟩
  rw [silent] at alone
  cases alone

section Paths
variable {outside : Outside} {server : Server} {amx : AMX} {pawn : Pawn} {job : QueryJob} {reason : GuardReject}

theorem enqueueReporting_heard {queued : QueryJob} {reported : String}
    (refused : (server.enqueueReporting outside amx queued reported).Refused job reason) :
    HeardOnce job.connectionHandle (server.enqueueReporting outside amx queued reported).calls ↔
      amx.findPublic "OnQueryError" = true := by
  unfold Server.enqueueReporting at refused ⊢
  generalize server.registry.enqueueJob queued outside.pending outside.now = answer at refused ⊢
  obtain ⟨rejected, sent, _, existing⟩ := refused.rejected rfl
  obtain ⟨rfl, rfl⟩ := Prod.mk.inj (Option.some.inj sent)
  rw [if_neg rejected, Component.reportGuardReject]
  cases defined : amx.findPublic "OnQueryError" with
  | true => simp [existing, heardOnce_errorCall]
  | false => simp [unheard_of_silent]

/-- The synthetic job names no callback, so only a gamemode gets it started. -/
theorem errorDue_iff (loaded : server.component.pawn = some pawn)
    (defined : ∃ script ∈ pawn.loaded, script.findPublic "OnQueryError" = true) (handle : Int) (sql : String)
    (reason : GuardReject) :
    server.component.ErrorDue (Component.rejectedJob handle sql reason) ↔ pawn.mainScript ≠ none := by
  obtain ⟨script, member, defines⟩ := defined
  obtain ⟨reporter, found⟩ := Pawn.find_isSome member defines
  have search : server.component.findScriptWithPublic "OnQueryError" = some reporter := by
    simp [Component.findScriptWithPublic, loaded, found]
  have staying : server.component.boundPlayerGone (Component.rejectedJob handle sql reason) = false := by
    rw [Component.boundPlayerGone]
    split <;> rfl
  have starts := Component.resolveScript_iff loaded (Component.rejectedJob handle sql reason)
  have unnamed : (Component.rejectedJob handle sql reason).callback = "" := rfl
  have failed : (Component.rejectedJob handle sql reason).succeeded = false := rfl
  rw [unnamed, Component.HasScript] at starts
  simp [Component.ErrorDue, starts, search, staying, failed]

theorem runSyncQuery_heard (loaded : server.component.pawn = some pawn)
    (defined : ∃ script ∈ pawn.loaded, script.findPublic "OnQueryError" = true) {handle : Int} {sql : String}
    {useCache : Bool} (refused : (server.runSyncQuery outside handle sql useCache).Refused job reason) :
    HeardOnce job.connectionHandle (server.runSyncQuery outside handle sql useCache).calls ↔
      pawn.mainScript ≠ none := by
  simp only [Server.runSyncQuery] at refused ⊢
  generalize server.registry.runJobSync { connectionHandle := handle, sql, useCache } outside.pending outside.now =
    answer at refused ⊢
  obtain ⟨rejected, sent, _, existing⟩ := refused.rejected rfl
  obtain ⟨rfl, rfl⟩ := Prod.mk.inj (Option.some.inj sent)
  have starts := errorDue_iff loaded defined handle sql answer.reason
  rw [if_neg rejected, Component.reportSyncReject, if_neg existing, Component.rejectedJob_calls]
  by_cases gamemode : pawn.mainScript ≠ none
  · have due := starts.mpr gamemode
    obtain ⟨script, found⟩ := Option.ne_none_iff_exists'.mp due.2.2.2
    rw [if_pos due, Component.fireQueryError, found]
    exact iff_of_true (heardOnce_errorCall ..) gamemode
  · rw [if_neg (fun due => gamemode (starts.mp due))]
    exact iff_of_false (unheard_of_silent handle rfl) gamemode

theorem mysqlModel_unheard (model op : Int) (callback : String) (args : List CallbackArg) :
    (server.mysqlModel outside model op callback args).calls = [] := by
  simp only [Server.mysqlModel]
  split <;> rfl

theorem mysqlModelSave_unheard (model : Int) (callback : String) (args : List CallbackArg) :
    (server.mysqlModelSave outside model callback args).calls = [] := by
  rw [Server.mysqlModelSave]
  split
  next => rfl
  next => exact mysqlModel_unheard ..

/-- A refusal is heard of exactly when its native's own report reaches a script. -/
theorem reject_heard_iff (native : SubmitNative) (loaded : server.component.pawn = some pawn)
    (defined : ∃ script ∈ pawn.loaded, script.findPublic "OnQueryError" = true)
    (refused : (server.call outside amx native).Refused job reason) :
    HeardOnce job.connectionHandle (server.call outside amx native).calls ↔ native.Reaches pawn amx := by
  cases native with
  | execute handle query callback args | executeFor handle query callback args => exact enqueueReporting_heard refused
  | executeFile handle content callback args =>
    simp only [Server.call, Server.mysqlExecuteFile] at refused ⊢
    split at refused
    next => cases refused.sent
    next => exact enqueueReporting_heard refused
  | executeSync handle query useCache => exact runSyncQuery_heard loaded defined refused
  | executeFileSync handle content useCache =>
    simp only [Server.call, Server.mysqlExecuteFileSync] at refused ⊢
    split at refused
    next => cases refused.sent
    next => exact runSyncQuery_heard loaded defined refused
  | stmtExecute stmt callback args =>
    simp only [Server.call, Server.mysqlStmtExecute] at refused ⊢
    split at refused
    next => cases refused.sent
    next found =>
      split at refused
      next => cases refused.sent
      next able =>
        rw [if_neg able]
        exact enqueueReporting_heard refused
  | modelFind model callback args | modelInsert model callback args | modelUpdate model callback args
  | modelDelete model callback args =>
    exact iff_of_false (unheard_of_silent _ (mysqlModel_unheard ..)) id
  | modelSave model callback args =>
    exact iff_of_false (unheard_of_silent _ (mysqlModelSave_unheard ..)) id

end Paths

section SilentModel

private def reporting : AMX := { script := 0, publics := ["OnQueryError"] }

private def gamemodeOnly : Pawn := { mainScript := some reporting, distinct := by decide }

private def tracked : Model := { connectionHandle := 1, table := "players", key := "id", fields := [{ column := "id" }] }

/-- One connection that lets one query wait, and a model on it. -/
private def limited : Server where
  component := { pawn := some gamemodeOnly, models := fun _ => some tracked }
  registry := ((({} : Connections).addConnection (some 3) false).1.setLimit 1 1 1).1

/-- The connection's worker is busy. -/
private def busy : Outside := ⟨⟨fun _ _ => "", fun _ => ""⟩, fun _ text => text, fun _ => 0, fun _ => 1, 0⟩

private def findPlayer : QueryJob where
  connectionHandle := 1
  sql := "SELECT `id` FROM `players` WHERE `id` = NULL LIMIT 1"
  modelHandle := 1
  modelOp := 1

private theorem find_refused : (limited.call busy reporting (.modelFind 1 "" [])).sent =
    some (findPlayer, .tooManyPending) := by decide

theorem model_reject_unheard : ¬ ∀ (outside : Outside) (server : Server) (amx : AMX) (pawn : Pawn) (job : QueryJob)
    (reason : GuardReject) (native : SubmitNative), server.component.pawn = some pawn →
      (∃ script ∈ pawn.loaded, script.findPublic "OnQueryError" = true) →
        (server.call outside amx native).Refused job reason →
          HeardOnce job.connectionHandle (server.call outside amx native).calls := by
  intro always
  have heard := always busy limited reporting gamemodeOnly _ .tooManyPending (.modelFind 1 "" []) rfl
    ⟨reporting, by decide, by decide⟩ ⟨find_refused, nofun, nofun⟩
  exact unheard_of_silent _ (mysqlModel_unheard ..) heard

private theorem execute_refused : (limited.call busy reporting (.execute 1 "SELECT 1" "" [])).sent =
    some ({ connectionHandle := 1, sql := "SELECT 1" }, .tooManyPending) := by decide

theorem execute_reject_heard : HeardOnce 1 (limited.call busy reporting (.execute 1 "SELECT 1" "" [])).calls ↔
    (SubmitNative.execute 1 "SELECT 1" "" []).Reaches gamemodeOnly reporting :=
  reject_heard_iff (.execute 1 "SELECT 1" "" []) rfl ⟨reporting, by decide, by decide⟩ ⟨execute_refused, nofun, nofun⟩

end SilentModel
end OmpMySQL
