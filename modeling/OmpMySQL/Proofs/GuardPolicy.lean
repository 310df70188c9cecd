import OmpMySQL.Guards
import OmpMySQL.Library.Table
import OmpMySQL.Library.Window

/-! What a guard check decides, and all it changes. -/

namespace OmpMySQL
open Library

namespace QueryGuards

/-- The noted times that still count at `now`. -/
def recent (g : QueryGuards) (log : List Int) (now : Int) : List Int := Window.since (now - 1000000 * g.rateWindow) log

/-- The limits' answer to a job, with `counted` times in the window. -/
def decision (g : QueryGuards) (multiOk : Bool) (job : QueryJob) (pending : Int) (counted : Nat) : GuardReject :=
  if job.statement = none ∧ g.maxQueryLength ≠ 0 ∧ g.maxQueryLength < job.sql.length then .tooLong
  else if job.statement = none ∧ ¬ multiOk ∧ isMultiStatement job.sql then .multiStatement
  else if g.maxPendingQueries ≠ 0 ∧ g.maxPendingQueries ≤ pending then .tooManyPending
  else if g.maxQueriesPerWindow ≠ 0 ∧ g.maxQueriesPerWindow ≤ counted then .rateLimited
  else .none

/-- What becomes of a log entry once the decision is made. -/
def logged (g : QueryGuards) (entry : Option (List Int)) (now : Int) (reason : GuardReject) : Option (List Int) :=
  let recent := g.recent (entry.getD []) now
  if g.maxQueriesPerWindow = 0 then entry
  else match reason with
    | .none => some (recent ++ [now])
    | .rateLimited => some recent
    | _ => entry

theorem logged_off {g : QueryGuards} (off : g.maxQueriesPerWindow = 0) (entry : Option (List Int)) (now : Int)
    (reason : GuardReject) : g.logged entry now reason = entry := if_pos off

theorem logged_early (g : QueryGuards) (entry : Option (List Int)) (now : Int) {reason : GuardReject}
    (refused : reason ≠ .none) (early : reason ≠ .rateLimited) : g.logged entry now reason = entry := by
  unfold logged
  split
  next => rfl
  next => cases reason <;> first | rfl | contradiction

/-- A log only ever loses its old end and gains the newest time. -/
theorem logged_forms (g : QueryGuards) (entry : Option (List Int)) (now : Int) (reason : GuardReject) :
    (g.logged entry now reason).getD [] = entry.getD [] ∨
      (g.logged entry now reason).getD [] = g.recent (entry.getD []) now ∨
      reason = .none ∧ (g.logged entry now reason).getD [] = g.recent (entry.getD []) now ++ [now] := by
  by_cases off : g.maxQueriesPerWindow = 0
  · exact Or.inl (by rw [logged_off off])
  by_cases accepted : reason = .none
  · exact Or.inr (Or.inr ⟨accepted, by simp [logged, off, accepted]⟩)
  by_cases spent : reason = .rateLimited
  · exact Or.inr (Or.inl (by simp [logged, off, spent]))
  · exact Or.inl (by rw [logged_early g entry now accepted spent])

/-- Every limit that is set is kept by a job with no reason against it. -/
structure Permits (g : QueryGuards) (multiOk : Bool) (job : QueryJob) (pending : Int) (counted : Nat) : Prop where
  short : job.statement = none → g.maxQueryLength = 0 ∨ job.sql.length ≤ g.maxQueryLength
  single : job.statement = none → multiOk = true ∨ isMultiStatement job.sql = false
  room : g.maxPendingQueries = 0 ∨ pending < g.maxPendingQueries
  rate : g.maxQueriesPerWindow = 0 ∨ counted < g.maxQueriesPerWindow

variable {g : QueryGuards} {multiOk : Bool} {job : QueryJob} {pending : Int} {counted : Nat}

theorem permits_of_decision (accepted : g.decision multiOk job pending counted = .none) :
    g.Permits multiOk job pending counted := by
  unfold decision at accepted
  split_ifs at accepted with long stacked full busy
  exact ⟨by grind, by grind, by grind, by grind⟩

theorem full_of_decision (refused : g.decision multiOk job pending counted = .tooManyPending) :
    g.maxPendingQueries ≤ pending := by
  unfold decision at refused
  split_ifs at refused with long stacked full
  exact full.2

end QueryGuards

namespace GuardTable

def limits (table : GuardTable) (handle : Int) : QueryGuards := (table.guards handle).getD {}

def log (table : GuardTable) (handle : Int) : List Int := (table.rateLog handle).getD []

variable (table : GuardTable) (job : QueryJob) (pending now : Int)

private theorem update_eq {α : Type} (entries : Int → Option α) (handle : Int) (entry : Option α) :
    (fun other => if other = handle then entry else entries other) = Function.update entries handle entry := by
  funext other
  rw [Function.update_apply]

private theorem rateLimit_eq (handle : Int) (g : QueryGuards) (busy : g.maxQueriesPerWindow ≠ 0) :
    table.rateLimit handle g now =
      let reason := if g.maxQueriesPerWindow ≤ (g.recent (table.log handle) now).length then GuardReject.rateLimited else .none
      ({ table with rateLog := Function.update table.rateLog handle (g.logged (table.rateLog handle) now reason) }, reason) := by
  by_cases spent : g.maxQueriesPerWindow ≤ (g.recent (table.log handle) now).length
  · simp only [rateLimit, QueryGuards.logged, update_eq, if_neg busy]
    rw [if_pos spent]
    exact if_pos spent
  · simp only [rateLimit, QueryGuards.logged, update_eq, if_neg busy]
    rw [if_neg spent]
    exact if_neg spent

/-- The answer to a job, from the limits of its handle. -/
def answer (table : GuardTable) (job : QueryJob) (pending now : Int) : GuardReject :=
  let handle := job.connectionHandle
  let g := table.limits handle
  g.decision (table.allowsMultiStatement handle) job pending (g.recent (table.log handle) now).length

/-- The table after an answer: the limits looked up, and the log. -/
def noted (table : GuardTable) (handle now : Int) (reason : GuardReject) : GuardTable where
  guards := Table.put table.guards handle (table.limits handle)
  multiStatementAllowed := table.multiStatementAllowed
  rateLog := Function.update table.rateLog handle ((table.limits handle).logged (table.rateLog handle) now reason)

theorem checkGuards_eq : table.checkGuards job pending now =
    (table.noted job.connectionHandle now (table.answer job pending now), table.answer job pending now) := by
  let handle := job.connectionHandle
  let g := table.limits handle
  let reason := table.answer job pending now
  show table.checkGuards job pending now =
    ({ guards := Table.put table.guards handle g
       multiStatementAllowed := table.multiStatementAllowed
       rateLog := Function.update table.rateLog handle (g.logged (table.rateLog handle) now reason) }, reason)
  have unlogged (same : g.logged (table.rateLog handle) now reason = table.rateLog handle) :
      Function.update table.rateLog handle (g.logged (table.rateLog handle) now reason) = table.rateLog := by
    rw [same, Function.update_eq_self]
  by_cases long : job.statement = none ∧ g.maxQueryLength ≠ 0 ∧ g.maxQueryLength < job.sql.length
  · have refused : reason = .tooLong := if_pos long
    rw [unlogged (g.logged_early _ now (by simp [refused]) (by simp [refused])), refused]
    simp only [checkGuards, update_eq]
    exact if_pos long
  by_cases stacked : job.statement = none ∧ ¬ table.allowsMultiStatement handle ∧ isMultiStatement job.sql
  · have refused : reason = .multiStatement := (if_neg long).trans (if_pos stacked)
    rw [unlogged (g.logged_early _ now (by simp [refused]) (by simp [refused])), refused]
    simp only [checkGuards, update_eq]
    exact (if_neg long).trans (if_pos stacked)
  by_cases full : g.maxPendingQueries ≠ 0 ∧ g.maxPendingQueries ≤ pending
  · have refused : reason = .tooManyPending := (if_neg long).trans ((if_neg stacked).trans (if_pos full))
    rw [unlogged (g.logged_early _ now (by simp [refused]) (by simp [refused])), refused]
    simp only [checkGuards, update_eq]
    exact (if_neg long).trans ((if_neg stacked).trans (if_pos full))
  -- Only the rate limit is left, and only it writes the log.
  have rest : reason = if g.maxQueriesPerWindow ≠ 0 ∧ g.maxQueriesPerWindow ≤ (g.recent (table.log handle) now).length then
      .rateLimited else .none := (if_neg long).trans ((if_neg stacked).trans (if_neg full))
  by_cases off : g.maxQueriesPerWindow = 0
  · rw [unlogged (QueryGuards.logged_off off _ now reason), rest, if_neg (fun spent => spent.1 off)]
    simp only [checkGuards, update_eq]
    exact (if_neg long).trans ((if_neg stacked).trans ((if_neg full).trans (if_neg (not_not.mpr off))))
  · have limited := rateLimit_eq { table with guards := Table.put table.guards handle g } now handle g off
    simp only [off, ne_eq, not_false_eq_true, true_and] at rest
    rw [rest]
    refine Eq.trans ?_ limited
    simp only [checkGuards, update_eq]
    exact (if_neg long).trans ((if_neg stacked).trans ((if_neg full).trans (if_pos off)))

theorem limits_put (guards : Table Int QueryGuards) (unlimited : table.guards = guards) (handle other : Int) (g : QueryGuards) :
    ({ table with guards := Table.put guards handle g } : GuardTable).limits other =
      if other = handle then g else table.limits other := by
  subst unlimited
  by_cases same : other = handle
  · simp [limits, same]
  · simp [limits, same, Table.put_other]

theorem limits_noted (handle other : Int) (reason : GuardReject) :
    (table.noted handle now reason).limits other = table.limits other := by
  by_cases same : other = handle
  · simp [limits, noted, same]
  · simp [limits, noted, Table.put_other _ _ _ _ same]

theorem log_noted (handle other : Int) (reason : GuardReject) :
    (table.noted handle now reason).log other =
      if other = handle then ((table.limits handle).logged (table.rateLog handle) now reason).getD []
      else table.log other := by
  by_cases same : other = handle
  · simp [log, noted, same]
  · simp [log, noted, same]

theorem full_of_checkGuards (refused : (table.checkGuards job pending now).2 = .tooManyPending) :
    (table.limits job.connectionHandle).maxPendingQueries ≤ pending := by
  rw [checkGuards_eq] at refused
  exact QueryGuards.full_of_decision refused

end GuardTable
end OmpMySQL
