import OmpMySQL.Proofs.Delivery
import OmpMySQL.Proofs.Staging

/-! What an execution sends against what was bound when it was accepted. The job
borrows the statement, so a re-bind reaches every execution still to be run. -/

namespace OmpMySQL.StatementRuns
open Library Engine

variable {κ : Type} [DecidableEq κ] {target : Target κ} {state next : State κ} {event : Event κ}

/-- A placeholder gets a new value only when every accepted execution has run. -/
def RebindsSettled (target : Target κ) (state : State κ) : Event κ → Prop
  | .bind paramIndex value =>
    0 < paramIndex → paramIndex ≤ target.serverParams → state.bound (paramIndex - 1).toNat ≠ value →
      state.performed.length = state.accepted.length
  | _ => True

instance (state : State κ) (event : Event κ) : Decidable (RebindsSettled target state event) :=
  match event with
  | .bind _ _ => inferInstanceAs (Decidable (_ → _ → _ → _))
  | .execute _ _ _ | .perform _ _ | .other _ => inferInstanceAs (Decidable True)

inductive Moved (target : Target κ) (state : State κ) : Event κ → State κ → Prop where
  | bind {paramIndex value} : state.engine.main = .free →
      Moved target state (.bind paramIndex value)
        { state with
          statement := state.statement.bind (paramIndex - 1) value
          bound := bindTo state.bound (paramIndex - 1) value }
  | execute {connectionHandle callback args engine} :
      Engine.step state.engine (.enqueue ⟨state.engine.issued, target.conn,
        executeJob target.id state.statement connectionHandle callback args⟩) = some engine →
      Moved target state (.execute connectionHandle callback args)
        { state with engine, accepted := state.accepted ++ [state.bound] }
  | perform {ticket reply done asking engine} : target.owns ticket = true → ticket.conn = target.conn →
      Engine.step state.engine (.send ticket) = some asking → done.ticket = ticket →
      Engine.step asking (.finish done) = some engine →
      Moved target state (.perform ticket reply)
        { state with
          engine
          statement := (state.statement.execute target.serverParams reply).statement
          performed := state.performed ++ [(state.statement.execute target.serverParams reply).sent] }
  | other {event engine} : (subjects event).all (!target.owns ·) = true →
      Engine.step state.engine event = some engine → Moved target state (.other event) { state with engine }

theorem step_moved (stepped : step target state event = some next) : Moved target state event next := by
  cases event with
  | bind paramIndex value =>
    simp only [step, Option.ite_none_right_eq_some, Option.some.injEq] at stepped
    obtain ⟨free, rfl⟩ := stepped
    exact .bind free
  | execute connectionHandle callback args =>
    simp only [step, Option.ite_none_right_eq_some, Option.map_eq_some_iff] at stepped
    obtain ⟨_, engine, moved, rfl⟩ := stepped
    exact .execute moved
  | perform ticket reply =>
    simp only [step, Option.ite_none_right_eq_some, Option.map_eq_some_iff, Option.bind_eq_some_iff] at stepped
    obtain ⟨⟨owned, on⟩, engine, ⟨asking, sends, finishes⟩, rfl⟩ := stepped
    exact .perform owned on sends rfl finishes
  | other event =>
    simp only [step, Option.ite_none_right_eq_some, Option.map_eq_some_iff] at stepped
    obtain ⟨foreign, engine, moved, rfl⟩ := stepped
    exact .other foreign moved

/-- The accepted and the performed executions are the statement's jobs that its
connection's worker was given and has run. -/
structure Traced (target : Target κ) (state : State κ) (events : List (Engine.Event κ)) : Prop where
  run : Run (Steps Engine.step) {} events state.engine
  accepted : ((enqueuedOn target.conn events).filter target.owns).length = state.accepted.length
  performed : ((executedOn target.conn events).filter target.owns).length = state.performed.length

theorem Traced.performed_le {events : List (Engine.Event κ)} (traced : Traced target state events) :
    state.performed.length ≤ state.accepted.length := by
  rw [← traced.accepted, ← traced.performed]
  exact ((executed_in_order traced.run target.conn).filter _).length_le

private theorem owned_count (conn : κ) (tickets : List (Ticket κ)) (ticket : Ticket κ) (on : ticket.conn = conn)
    (owned : target.owns ticket = true) :
    (((tickets ++ ofConn conn [ticket]).filter target.owns).length = (tickets.filter target.owns).length + 1) := by
  simp [ofConn, on, owned]

private theorem foreign_count (conn : κ) {event : Engine.Event κ} (foreign : (subjects event).all (!target.owns ·) = true) :
    (ofConn conn event.enqueued).filter target.owns = [] ∧ (ofConn conn event.executed).filter target.owns = [] := by
  cases event with
  | enqueue ticket | runSync ticket | drop ticket =>
    have apart : target.owns ticket = false := by simpa [subjects] using foreign
    simp [Event.enqueued, Event.executed, ofConn, apart, List.filter_filter]
  | finish done =>
    have apart : target.owns done.ticket = false := by simpa [subjects] using foreign
    simp [Event.enqueued, Event.executed, ofConn, apart]
  | _ => simp [Event.enqueued, Event.executed, ofConn]

theorem traced_step {events : List (Engine.Event κ)} (traced : Traced target state events)
    (moved : Moved target state event next) : ∃ events, Traced target next events := by
  cases moved with
  | bind free => exact ⟨events, traced.run, traced.accepted, traced.performed⟩
  | execute enqueues =>
    refine ⟨_, traced.run.snoc enqueues, ?_, ?_⟩
    · simp only [enqueuedOn, List.flatMap_append, List.flatMap_singleton, Event.enqueued, List.length_append,
        List.length_singleton]
      rw [owned_count, ← traced.accepted]
      · rfl
      · rfl
      · simp [Target.owns, executeJob]
    · simpa [executedOn, Event.executed, ofConn] using traced.performed
  | @perform ticket reply done asking engine owned on sends same finishes =>
    refine ⟨_, (traced.run.snoc sends).snoc finishes, ?_, ?_⟩
    · simpa [enqueuedOn, Event.enqueued, ofConn] using traced.accepted
    · have executed : executedOn target.conn ((events ++ [.send ticket]) ++ [.finish done]) =
          executedOn target.conn events ++ ofConn target.conn [ticket] := by
        simp [executedOn, Event.executed, ofConn, same]
      rw [executed, owned_count _ _ _ on owned, traced.performed]
      simp
  | other foreign moves =>
    obtain ⟨enqueues, executes⟩ := foreign_count target.conn foreign
    refine ⟨_, traced.run.snoc moves, ?_, ?_⟩
    · simpa [enqueuedOn, enqueues] using traced.accepted
    · simpa [executedOn, executes] using traced.performed

theorem staged_step (staged : Staged target.serverParams state.bound state.statement)
    (moved : Moved target state event next) : Staged target.serverParams next.bound next.statement := by
  cases moved with
  | bind free => exact staged.bind _ _
  | @perform ticket reply => exact staged.execute reply
  | execute | other => exact staged

/-- The executions still to be run were accepted with what is bound now. -/
def Current (target : Target κ) (state : State κ) : Prop :=
  ∀ k snapshot, state.performed.length ≤ k → state.accepted[k]? = some snapshot →
    ∀ i, i < target.serverParams → snapshot i = state.bound i

omit [DecidableEq κ] in
theorem Current.rebind (current : Current target state) {paramIndex : Int} {value : StmtParam}
    (settled : RebindsSettled target state (.bind paramIndex value)) {statement : PreparedStatement} :
    Current target
      { state with statement := statement, bound := bindTo state.bound (paramIndex - 1) value } := by
  intro k snapshot pending accepted i within
  have unchanged := current k snapshot pending accepted i within
  have inside := (List.getElem?_eq_some_iff.mp accepted).1
  simp only [bindTo]
  split
  next => exact unchanged
  next =>
    show snapshot i = if i = (paramIndex - 1).toNat then value else state.bound i
    by_cases here : i = (paramIndex - 1).toNat
    · by_cases same : state.bound (paramIndex - 1).toNat = value
      · rw [if_pos here, unchanged, here, same]
      · have done := settled (by omega) (by omega) same
        simp only at inside pending
        omega
    · rw [if_neg here]
      exact unchanged

theorem current_step (current : Current target state) (settled : RebindsSettled target state event)
    (moved : Moved target state event next) : Current target next := by
  cases moved with
  | bind free => exact current.rebind settled
  | execute enqueues =>
    intro k snapshot pending accepted i within
    simp only [List.getElem?_append] at accepted
    split at accepted
    next => exact current k snapshot pending accepted i within
    next => rw [List.mem_singleton.mp (List.mem_of_getElem? accepted)]
  | perform owned on sends same finishes =>
    intro k snapshot pending accepted i within
    simp only [List.length_append, List.length_singleton] at pending
    apply current k snapshot _ accepted i within
    omega
  | other foreign moves => exact current

/-- What is performed was accepted with the values it sends, because nothing has
been bound in between. -/
theorem sends_step (sends : SendsSnapshots target state) (current : Current target state)
    (staged : Staged target.serverParams state.bound state.statement) (moved : Moved target state event next)
    (accepts : next.performed.length ≤ next.accepted.length) : SendsSnapshots target next := by
  cases moved with
  | execute enqueues =>
    intro k values performed
    obtain ⟨snapshot, accepted, sent⟩ := sends k values performed
    refine ⟨snapshot, ?_, sent⟩
    rw [List.getElem?_append_left (List.getElem?_eq_some_iff.mp accepted).1]
    exact accepted
  | @perform ticket reply =>
    simp only [List.length_append, List.length_singleton] at accepts
    intro k values performed
    simp only [List.getElem?_append] at performed
    split at performed
    next => exact sends k values performed
    next beyond =>
      have last : k = state.performed.length := by
        have inside := (List.getElem?_eq_some_iff.mp performed).1
        simp only [List.length_singleton] at inside
        omega
      subst last
      simp only [Nat.sub_self, List.getElem?_cons_zero, Option.some.injEq] at performed
      have accepted := List.getElem?_eq_getElem (l := state.accepted) (i := state.performed.length) (by omega)
      refine ⟨_, accepted, ?_⟩
      intro i placeholder
      rw [current _ _ (Nat.le_refl _) accepted i placeholder]
      rw [staged.sends performed, List.getElem?_map, List.getElem?_range placeholder, Option.map_some]
  | bind | other => exact sends

structure Faithful (target : Target κ) (state : State κ) : Prop where
  traced : ∃ events, Traced target state events
  staged : Staged target.serverParams state.bound state.statement
  current : Current target state
  sends : SendsSnapshots target state

theorem faithful_initial (target : Target κ) (statement : PreparedStatement)
    (staged : Staged target.serverParams (fun _ => .null) statement) : Faithful target { statement } where
  traced := ⟨[], .refl, rfl, rfl⟩
  staged := staged
  current := nofun
  sends := nofun

theorem faithful_step (faithful : Faithful target state) (settled : RebindsSettled target state event)
    (moved : Moved target state event next) : Faithful target next := by
  obtain ⟨events, traced⟩ := faithful.traced
  obtain ⟨after, later⟩ := traced_step traced moved
  have sends := sends_step faithful.sends faithful.current faithful.staged moved later.performed_le
  exact ⟨⟨after, later⟩, staged_step faithful.staged moved, current_step faithful.current settled moved, sends⟩

/-- Where no placeholder is re-bound under an execution still to be run, every
execution sends what was bound when it was accepted. -/
theorem sends_snapshots (target : Target κ) {hasConnection : Bool} {query : String} {events : List (Event κ)}
    {state : State κ}
    (run : Run (Guarded (RebindsSettled target) (Steps (step target)))
      { statement := PreparedStatement.make hasConnection query } events state) :
    SendsSnapshots target state := by
  have initial := faithful_initial target _ (staged_make hasConnection query)
  exact (run.invariant initial (fun _ _ _ kept move => faithful_step kept move.1 (step_moved move.2))).sends

section Overtaken

private def update : Target Nat := ⟨1, 0, 1⟩
private def prepared : PreparedStatement := .make true "UPDATE players SET score = ?"
private def execution (serial : Nat) : Ticket Nat := ⟨serial, 1, executeJob 0 prepared 1 "" []⟩

/-- Bind 1, execute, bind 2; only then does the worker get to the execution. -/
private def overtakingRun : List (Event Nat) :=
  [.other (.create 1), .bind 1 (.int 1), .execute 1 "" [], .other .count, .bind 1 (.int 2),
    .other (.pop (execution 0)), .perform (execution 0) {}]

theorem rebind_overtakes : ¬ ∀ (target : Target Nat) (hasConnection : Bool) (query : String)
    (events : List (Event Nat)) (state : State Nat),
    Run (Steps (step target)) { statement := PreparedStatement.make hasConnection query } events state →
      SendsSnapshots target state := by
  intro always
  have executes : (exec (step update) { statement := prepared } overtakingRun).isSome := by decide
  obtain ⟨state, done⟩ := Option.isSome_iff_exists.mp executes
  have performed : (exec (step update) { statement := prepared } overtakingRun).map (·.performed) =
    some [some [.int 2]] := by decide
  have accepted : (exec (step update) { statement := prepared } overtakingRun).map (·.accepted.map (· 0)) =
    some [.int 1] := by decide
  simp only [done, Option.map_some, Option.some.injEq] at performed accepted
  obtain ⟨snapshot, found, sent⟩ := always update true _ overtakingRun state (Run.of_exec done) 0 [.int 2]
    (by rw [performed]; rfl)
  have first : (state.accepted.map (· 0))[0]? = some (StmtParam.int 1) := by rw [accepted]; rfl
  have second : some (StmtParam.int 2) = some (snapshot 0) := sent 0 (by decide)
  rw [List.getElem?_map, found, Option.map_some, ← second] at first
  cases first

private def settledRun : List (Event Nat) :=
  [.other (.create 1), .bind 1 (.int 1), .execute 1 "" [], .other .count, .other (.pop (execution 0)),
    .perform (execution 0) {}, .bind 1 (.int 2), .execute 1 "" []]

theorem sends_snapshots_settled : ∃ state,
    exec (guarded (RebindsSettled update) (step update)) { statement := prepared } settledRun = some state ∧
      SendsSnapshots update state := by
  have executes :
    (exec (guarded (RebindsSettled update) (step update)) { statement := prepared } settledRun).isSome := by decide
  obtain ⟨state, done⟩ := Option.isSome_iff_exists.mp executes
  exact ⟨state, done, sends_snapshots update (Run.of_guarded_exec done)⟩

end Overtaken
end OmpMySQL.StatementRuns
