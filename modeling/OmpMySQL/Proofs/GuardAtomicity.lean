import OmpMySQL.Proofs.GuardGate

/-! A refused query leaves at most a shorter log of times that no longer count, so
a run without it goes the same way. -/

namespace OmpMySQL.Gate
open Library

def State.relog (state : State) (rateLog : Int → Option (List Int)) : State :=
  { state with registry := { state.registry with policy := { state.registry.policy with rateLog } } }

/-- Every log has the same times within the last second. -/
def SameRecent (clock : Int) (log other : Int → Option (List Int)) : Prop :=
  ∀ handle, Window.since (clock - 1000000000) ((log handle).getD []) =
    Window.since (clock - 1000000000) ((other handle).getD [])

/-- Two states that nothing observable tells apart. -/
structure Alike (state twin : State) : Prop where
  rest : twin = state.relog twin.registry.policy.rateLog
  recent : SameRecent state.clock state.registry.policy.rateLog twin.registry.policy.rateLog

namespace SameRecent
variable {clock : Int} {log other : Int → Option (List Int)}

theorem later (same : SameRecent clock log other) {now : Int} (order : clock ≤ now) : SameRecent now log other := by
  intro handle
  have cutoff : clock - 1000000000 ≤ now - 1000000000 := by omega
  rw [← Window.since_since cutoff, same handle, Window.since_since cutoff]

theorem update (same : SameRecent clock log other) (handle : Int) {entry twin : Option (List Int)}
    (written : Window.since (clock - 1000000000) (entry.getD []) = Window.since (clock - 1000000000) (twin.getD [])) :
    SameRecent clock (Function.update log handle entry) (Function.update other handle twin) := by
  intro target
  by_cases at_handle : target = handle
  · subst at_handle
    simpa using written
  · simpa only [Function.update_of_ne at_handle] using same target

end SameRecent

theorem second {g : QueryGuards} (window : g.rateWindow = 1000) (log : List Int) (now : Int) :
    g.recent log now = Window.since (now - 1000000000) log := by
  rw [QueryGuards.recent, window]
  rfl

theorem logged_alike {g : QueryGuards} (window : g.rateWindow = 1000) {now : Int} {entry twin : Option (List Int)}
    (same : Window.since (now - 1000000000) (entry.getD []) = Window.since (now - 1000000000) (twin.getD []))
    (reason : GuardReject) :
    Window.since (now - 1000000000) ((g.logged entry now reason).getD []) =
      Window.since (now - 1000000000) ((g.logged twin now reason).getD []) := by
  by_cases off : g.maxQueriesPerWindow = 0
  · rw [QueryGuards.logged_off off, QueryGuards.logged_off off, same]
  · cases reason with
    | none | rateLimited => simp only [QueryGuards.logged, off, if_false, second window, same]
    | unknownHandle | tooLong | tooManyPending | multiStatement =>
      simpa only [QueryGuards.logged, off, if_false] using same

section Step
variable {state after : State} {log : Int → Option (List Int)}

theorem answer_relog (orderly : Orderly state.registry.policy state.clock)
    (recent : SameRecent state.clock state.registry.policy.rateLog log) (job : QueryJob) (pending : Int) :
    (state.relog log).registry.policy.answer job pending state.clock =
      state.registry.policy.answer job pending state.clock := by
  have window := orderly.window job.connectionHandle
  have counted : (state.registry.policy.limits job.connectionHandle).recent ((log job.connectionHandle).getD []) state.clock =
      (state.registry.policy.limits job.connectionHandle).recent
        (state.registry.policy.log job.connectionHandle) state.clock := by
    rw [second window, second window]
    exact (recent job.connectionHandle).symm
  exact congrArg (QueryGuards.decision _ _ job pending) (congrArg List.length counted)

theorem noting_relog (orderly : Orderly state.registry.policy state.clock)
    (recent : SameRecent state.clock state.registry.policy.rateLog log) (handle : Int) (reason : GuardReject) :
    Alike (state.noting handle reason) ((state.relog log).noting handle reason) where
  rest := rfl
  recent := recent.update handle (logged_alike (orderly.window handle) (recent handle) reason)

theorem sent_relog (orderly : Orderly state.registry.policy state.clock)
    (recent : SameRecent state.clock state.registry.policy.rateLog log) {sync : Bool} {job : QueryJob}
    {reason : GuardReject} (sent : Sent state sync job reason after) :
    ∃ next, Sent (state.relog log) sync job reason next ∧ Alike after next := by
  cases sent with
  | unknown absent => exact ⟨_, .unknown absent, rfl, recent⟩
  | refused found answered barred =>
    refine ⟨_, .refused found ?_ barred, noting_relog orderly recent _ _⟩
    exact (answer_relog orderly recent job _).trans answered
  | accepted found answered ran =>
    have noted := noting_relog orderly recent job.connectionHandle .none
    refine ⟨_, .accepted found ?_ ran, ?_, noted.recent⟩
    · exact (answer_relog orderly recent job _).trans answered
    · rfl

/-- Setting a limit neither reads nor writes a log. -/
theorem setLimit_relog (state : State) (log : Int → Option (List Int)) (handle type value : Int)
    (recent : SameRecent state.clock state.registry.policy.rateLog log) :
    Alike { state with registry := (state.registry.setLimit handle type value).1 }
      { state.relog log with registry := ((state.relog log).registry.setLimit handle type value).1 } := by
  simp only [Connections.setLimit, Connections.guardsFor, State.relog]
  cases state.registry.policy.guards handle with
  | none => exact ⟨rfl, recent⟩
  | some g =>
    dsimp only
    split_ifs <;> exact ⟨rfl, recent⟩

theorem alike_step {twin : State} (sound : Sound state) (alike : Alike state twin) {event : Event}
    (moved : Moved state event after) : ∃ next, Moved twin event next ∧ Alike after next := by
  obtain ⟨rest, recent⟩ := alike
  generalize twin.registry.policy.rateLog = log at rest recent
  subst rest
  cases moved with
  | tick order => exact ⟨_, .tick order, rfl, recent.later order⟩
  | connect created => exact ⟨_, .connect created, rfl, recent⟩
  | submit free query sent =>
    obtain ⟨next, sent, alike⟩ := sent_relog sound.orderly recent sent
    exact ⟨next, .submit free query sent, alike⟩
  | @setLimit handle type value free => exact ⟨_, .setLimit free, setLimit_relog state log handle type value recent⟩
  | @removeConnection handle free stopped => exact ⟨_, .removeConnection free stopped, rfl, recent.update handle rfl⟩
  | clearConnections free stopped => exact ⟨_, .clearConnections free stopped, rfl, fun _ => rfl⟩
  | reset free stopped => exact ⟨_, .reset free stopped, rfl, fun _ => rfl⟩
  | engine own ran => exact ⟨_, .engine own ran, rfl, recent⟩

/-- A refusal is as good as no submission. -/
theorem refused_alike (sound : Sound state) {sync : Bool} {job : QueryJob} {reason : GuardReject}
    (sent : Sent state sync job reason after) (barred : reason ≠ .none) : Alike after state := by
  cases sent with
  | unknown => exact ⟨rfl, fun _ => rfl⟩
  | refused found answered _ =>
    have live := sound.consistent.workers ▸ Table.mem_keys_of_eq found
    rw [← sound.consistent.guards, Table.mem_keys, Option.isSome_iff_exists] at live
    obtain ⟨g, configured⟩ := live
    have limits : state.registry.policy.limits job.connectionHandle = g := by
      simp only [GuardTable.limits, configured, Option.getD_some]
    refine ⟨?_, ?_⟩
    · -- The limits were there before they were looked up.
      simp only [State.noting, GuardTable.noted, State.relog, limits, Table.put_eq_self configured]
    · intro handle
      have noted := state.registry.policy.log_noted state.clock job.connectionHandle handle reason
      apply (congrArg (Window.since _) noted).trans
      split
      next same =>
        subst same
        rcases (state.registry.policy.limits job.connectionHandle).logged_forms
          (state.registry.policy.rateLog job.connectionHandle) state.clock reason with kept | pruned | ⟨none, _⟩
        · rw [kept]
        · rw [pruned, second (sound.orderly.window job.connectionHandle)]
          exact Window.since_since (le_refl _) _
        · exact absurd none barred
      next => rfl
  | accepted => exact absurd rfl barred

end Step

/-- The gate over a run: what it lets through, and what its refusals leave behind. -/
structure Holds (events : List Event) (state : State) : Prop where
  complete : ∀ event, Event.engine event ∈ events → ∀ ticket ∈ worked event,
    ticket.isQuery = true → Accepted events ticket
  atomic : ∀ earlier sync job answer later, events = earlier ++ Event.submit sync job answer :: later →
    answer ≠ .none → ∃ other, Run (Steps step) {} (earlier ++ later) other ∧ Alike state other

/-- Every query that a worker takes up had passed the limits of its connection, and
a run goes on in the same way without the queries it refuses. -/
theorem gate_holds {events : List Event} {state : State} (run : Run (Steps step) {} events state) : Holds events state where
  complete _ happened _ present query := worked_accepted run happened present query
  atomic earlier sync job answer later whole barred := by
    subst whole
    obtain ⟨before, past, rest⟩ := run.split
    obtain ⟨after, refused, onward⟩ := rest.uncons
    have sound := sound_run past
    have sent : Sent before sync job answer after := by
      cases step_moved refused with
      | submit free query sent => exact sent
    have related : Sound after ∧ Alike after before := ⟨sound_sent sound sent, refused_alike sound sent barred⟩
    have forward (before : State) (event : Event) (next twin : State) (held : Sound before ∧ Alike before twin)
        (stepped : Steps step before event next) :
        ∃ other, Steps step twin event other ∧ Sound next ∧ Alike next other := by
      have moved := step_moved stepped
      obtain ⟨other, follows, alike⟩ := alike_step held.1 held.2 moved
      exact ⟨other, follows.step, sound_step held.1 moved, alike⟩
    obtain ⟨other, same, _, alike⟩ := onward.simulated forward related
    exact ⟨other, past.trans same, alike⟩

section Refused

private def selecting : QueryJob := { connectionHandle := 1, sql := "SELECT 1" }

private def first : Engine.Ticket Nat := { serial := 0, conn := 5, job := selecting }

/-- One query a second is allowed. The second comes too early, the third does not. -/
private def limited : List Event :=
  [.connect 5 false, .setLimit 1 2 1, .submit false selecting .none, .engine .count, .engine (.pop first),
    .submit false selecting .rateLimited, .engine (.send first), .tick 2000000000,
    .submit true { selecting with sql := "SELECT 1; SELECT 2" } .multiStatement, .submit false selecting .none,
    .engine .count]

theorem gate_holds_limited : ∃ state, exec step {} limited = some state ∧ Holds limited state := by
  have executes : (exec step {} limited).isSome := by decide
  obtain ⟨state, done⟩ := Option.isSome_iff_exists.mp executes
  exact ⟨state, done, gate_holds (Run.of_exec done)⟩

end Refused
end OmpMySQL.Gate
