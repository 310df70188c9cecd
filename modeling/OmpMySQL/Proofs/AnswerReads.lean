import OmpMySQL.Proofs.CallbackRows
import OmpMySQL.Proofs.ServedReads

/-! From the server to the script: what a callback reads is what the server answered to the
callback's own query, however long the result waited and whatever ran in between. -/

namespace OmpMySQL.MainThread
open Library

/-- Until the public that runs now returns or a script turns to other rows, every native that reads a result
reads what the server answered to this query. -/
def ReadsAnswer (host : Host) (after : State) (job : QueryJob) (performance : Performance) : Prop :=
  ∀ response, performance.Responds job.sql response → response.Countable → ∀ more state,
    Run (Guarded (fun state event => undisturbed state event = true) (Steps (step host))) after more state →
    ∀ atof native, native.call atof state.component =
      some (response.read state.component.activeResultIndex atof native)

/-- The step that calls a query's callback calls it with the job's own arguments, for the job that was begun under this
number, and from then on the script reads the answer to that very query. -/
theorem callback_reads_answer {host : Host} {events : List Event} {before after : State} {event : Event} {serial : Nat}
    {call : Invocation} (run : Run (Steps (step host)) {} events before) (stepped : step host before event = some after)
    (calls : CallsBack before after serial call) :
    ∃ job performance, Performed host events job performance ∧
      .begun serial (job.complete (performance.outcome job)) ∈ after.history ∧
      (∃ amx active, call = (pushArgs amx.frame job.args).exec amx job.callback .callback active) ∧
      ReadsAnswer host after job performance := by
  obtain ⟨job, performance, performed, entered⟩ := callback_entered run stepped calls
  refine ⟨job, performance, performed, entered.begun, entered.pushed, ?_⟩
  intro response responds countable more state onward atof native
  obtain ⟨activation, single, own⟩ := entered.single
  have answered : (performance.outcome job).succeeded = true := entered.succeeded
  have showing := showing_run (showing_entered single own (entered.rows _ entered.result)) onward
  exact call_response (responds.shown answered) countable showing.active atof native

section Leaving

def Note.callback : Note → Option (Nat × Invocation)
  | .called serial call => if call.upcall = .callback then some (serial, call) else none
  | .begun _ _ | .ended _ => none

theorem Note.callback_eq_some {note : Note} {serial : Nat} {call : Invocation} (found : note.callback = some (serial, call)) :
    note = .called serial call ∧ call.upcall = .callback := by
  cases note with
  | called =>
    simp only [callback, Option.ite_none_right_eq_some, Option.some.injEq, Prod.mk.injEq] at found
    obtain ⟨callback, rfl, rfl⟩ := found
    exact ⟨rfl, callback⟩
  | begun | ended => cases found

/-- A query is performed, and its audit hook runs. -/
private def hooked : List Event := .scripts (some listener) :: sending ++ [.tick, .turn]

theorem callback_reads_answer_leaving : ∃ (before after : State) (serial : Nat) (call : Invocation),
    exec (step plainHost) {} hooked = some before ∧ step plainHost before .leave = some after ∧
    ∃ job performance, Performed plainHost hooked job performance ∧
      .begun serial (job.complete (performance.outcome job)) ∈ after.history ∧
      (∃ amx active, call = (pushArgs amx.frame job.args).exec amx job.callback .callback active) ∧
      ReadsAnswer plainHost after job performance := by
  have enters : ((exec (step plainHost) {} hooked).any fun before => (step plainHost before .leave).any fun after =>
      (after.history.getLast?.bind Note.callback).isSome && after.history.length != before.history.length) = true := by
    decide
  obtain ⟨before, done, leaves⟩ := (Option.any_eq_true ..).mp enters
  obtain ⟨after, stepped, called⟩ := (Option.any_eq_true ..).mp leaves
  rw [Bool.and_eq_true, bne_iff_ne] at called
  obtain ⟨⟨serial, call⟩, noted⟩ := Option.isSome_iff_exists.mp called.1
  obtain ⟨note, last, callback⟩ := Option.bind_eq_some_iff.mp noted
  obtain ⟨rfl, upcall⟩ := Note.callback_eq_some callback
  have calls : CallsBack before after serial call := ⟨last, upcall, fun same => called.2 (congrArg List.length same)⟩
  exact ⟨before, after, serial, call, done, stepped, callback_reads_answer (Run.of_exec done) stepped calls⟩

end Leaving
end OmpMySQL.MainThread
