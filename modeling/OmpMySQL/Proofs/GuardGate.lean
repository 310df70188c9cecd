import OmpMySQL.Gate
import OmpMySQL.Proofs.ConnectionRegistry
import OmpMySQL.Proofs.EngineFlow

/-! Every query a worker takes was within its connection's limits when it was
submitted, and a refused query might as well never have been submitted. -/

namespace OmpMySQL.Gate
open Library

/-- The logged times of a handle that the rate limit still counts. -/
def State.counted (state : State) (handle : Int) : List Int :=
  (state.registry.policy.log handle).filter fun time =>
    state.clock - 1000000 * (state.registry.policy.limits handle).rateWindow ≤ time

/-- The job keeps every limit configured for its handle. -/
def State.Admits (state : State) (job : QueryJob) (conn : Nat) : Prop :=
  (state.registry.policy.limits job.connectionHandle).Permits
    (state.registry.policy.allowsMultiStatement job.connectionHandle) job (state.pending conn)
    (state.counted job.connectionHandle).length

/-- The event submits the job that this ticket carries, and every limit lets it pass. -/
def Enters (state : State) (event : Event) (ticket : Engine.Ticket Nat) : Prop :=
  ∃ sync job, event = .submit sync job .none ∧ state.registry.workers job.connectionHandle = some ticket.conn ∧
    ticket = state.ticket sync job ticket.conn ∧ state.Admits job ticket.conn

def Accepted (events : List Event) (ticket : Engine.Ticket Nat) : Prop :=
  ∃ earlier event later state, events = earlier ++ event :: later ∧ Run (Steps step) {} earlier state ∧
    Enters state event ticket

/-- The jobs that a worker takes up, sends, or is done with. -/
def worked : Engine.Event Nat → List (Engine.Ticket Nat)
  | .pop ticket | .send ticket => [ticket]
  | .finish done | .deliver done => [done.ticket]
  | _ => []

/-- The rate window is always the second it starts with, and the logs are in the
order of the clock. -/
structure Orderly (table : GuardTable) (clock : Int) : Prop where
  window : ∀ handle, (table.limits handle).rateWindow = 1000
  sorted : ∀ handle, (table.log handle).Pairwise (· ≤ ·)
  past : ∀ handle, ∀ time ∈ table.log handle, time ≤ clock

theorem orderly_empty (clock : Int) : Orderly {} clock where
  window _ := rfl
  sorted _ := List.Pairwise.nil
  past _ _ present := absurd present List.not_mem_nil

section Orderly
variable {table : GuardTable} {clock : Int}

/-- A handle's entries may go, and new limits may come with the usual window. -/
theorem Orderly.within {other : GuardTable} (orderly : Orderly table clock)
    (window : ∀ handle, (other.limits handle).rateWindow = 1000)
    (logs : ∀ handle, other.log handle = table.log handle ∨ other.log handle = []) : Orderly other clock where
  window := window
  sorted handle := by
    rcases logs handle with same | empty
    · rw [same]
      exact orderly.sorted handle
    · rw [empty]
      exact List.Pairwise.nil
  past handle time present := by
    rcases logs handle with same | empty
    · rw [same] at present
      exact orderly.past handle time present
    · rw [empty] at present
      cases present

theorem Orderly.noted (orderly : Orderly table clock) (handle : Int) (reason : GuardReject) :
    Orderly (table.noted handle clock reason) clock where
  window other := by
    rw [GuardTable.limits_noted]
    exact orderly.window other
  sorted other := by
    rw [GuardTable.log_noted]
    split
    next =>
      rcases (table.limits handle).logged_forms (table.rateLog handle) clock reason with same | pruned | ⟨_, longer⟩
      · rw [same]
        exact orderly.sorted handle
      · rw [pruned]
        exact Window.sorted_since (orderly.sorted handle) _
      · rw [longer]
        apply Window.sorted_append (Window.sorted_since (orderly.sorted handle) _)
        intro time present
        exact orderly.past handle time (Window.since_subset _ _ present)
    next => exact orderly.sorted other
  past other time present := by
    rw [GuardTable.log_noted] at present
    split at present
    next =>
      rcases (table.limits handle).logged_forms (table.rateLog handle) clock reason with same | pruned | ⟨_, longer⟩
      · rw [same] at present
        exact orderly.past handle time present
      · rw [pruned] at present
        exact orderly.past handle time (Window.since_subset _ _ present)
      · rw [longer] at present
        rcases List.mem_append.mp present with older | newest
        · exact orderly.past handle time (Window.since_subset _ _ older)
        · exact le_of_eq (List.mem_singleton.mp newest)
    next => exact orderly.past other time present

theorem Orderly.later (orderly : Orderly table clock) {now : Int} (order : clock ≤ now) : Orderly table now where
  window := orderly.window
  sorted := orderly.sorted
  past handle time present := le_trans (orderly.past handle time present) order

end Orderly

structure Sound (state : State) : Prop where
  consistent : state.registry.Consistent
  orderly : Orderly state.registry.policy state.clock

/-- The state with an answer noted down. -/
def State.noting (state : State) (handle : Int) (reason : GuardReject) : State :=
  { state with registry := { state.registry with policy := state.registry.policy.noted handle state.clock reason } }

/-- What a submission with its answer can do. -/
inductive Sent (state : State) (sync : Bool) (job : QueryJob) : GuardReject → State → Prop where
  | unknown : state.registry.workers job.connectionHandle = none → Sent state sync job .unknownHandle state
  | refused {conn reason} : state.registry.workers job.connectionHandle = some conn →
      state.registry.policy.answer job (state.pending conn) state.clock = reason → reason ≠ .none →
      Sent state sync job reason (state.noting job.connectionHandle reason)
  | accepted {conn engine} : state.registry.workers job.connectionHandle = some conn →
      state.registry.policy.answer job (state.pending conn) state.clock = .none →
      Engine.step state.engine (state.request sync job conn) = some engine →
      Sent state sync job .none { state.noting job.connectionHandle .none with engine }

section Step
variable {state after : State} {sync : Bool} {job : QueryJob} {reason : GuardReject}

theorem submitted_eq (state : State) (sync : Bool) (job : QueryJob) :
    state.submitted sync job = state.registry.submit job state.pending state.clock := by
  cases sync <;> rfl

theorem submit_sent : ((state.submitted sync job).reason = reason ∧ state.submit sync job = some after) ↔
    Sent state sync job reason after := by
  constructor
  · intro ⟨answered, sent⟩
    simp only [State.submit, submitted_eq, Connections.submit] at answered sent
    cases found : state.registry.workers job.connectionHandle with
    | none =>
      simp only [found, Option.some.injEq] at answered sent
      subst answered sent
      exact .unknown found
    | some conn =>
      simp only [found, GuardTable.checkGuards_eq] at answered sent
      by_cases free : state.registry.policy.answer job (state.pending conn) state.clock = .none
      · simp only [free, if_true] at answered sent
        obtain ⟨engine, ran, rfl⟩ := Option.map_eq_some_iff.mp sent
        subst answered
        exact .accepted found free ran
      · simp only [free, if_false, Option.some.injEq] at answered sent
        subst answered sent
        exact .refused found rfl free
  · intro sent
    simp only [State.submit, submitted_eq, Connections.submit]
    cases sent with
    | unknown absent => simp only [absent, and_self]
    | refused found answered barred =>
      simp only [found, GuardTable.checkGuards_eq, answered, barred, if_false, true_and]
      rfl
    | accepted found answered ran =>
      simp only [found, GuardTable.checkGuards_eq, answered, if_true, true_and, ran, Option.map_some]
      rfl

/-- What each event finds and leaves. Every invariant of the gate is a case analysis
of this relation. -/
inductive Moved (state : State) : Event → State → Prop where
  | tick {now} : state.clock ≤ now → Moved state (.tick now) { state with clock := now }
  | connect {raw multiStatements engine} : Engine.step state.engine (.create raw) = some engine →
      Moved state (.connect raw multiStatements)
        { state with engine, registry := (state.registry.addConnection (some raw) multiStatements).1 }
  | submit {sync job answer next} : state.engine.main = .free → job.statementToClose = none →
      Sent state sync job answer next → Moved state (.submit sync job answer) next
  | setLimit {handle type value} : state.engine.main = .free →
      Moved state (.setLimit handle type value)
        { state with registry := (state.registry.setLimit handle type value).1 }
  | removeConnection {handle} : state.engine.main = .free → state.stopped handle = true →
      Moved state (.removeConnection handle) { state with registry := (state.registry.removeConnection handle).1 }
  | clearConnections : state.engine.main = .free → state.allStopped = true →
      Moved state .clearConnections { state with registry := state.registry.clearConnections }
  | reset : state.engine.main = .free → state.allStopped = true →
      Moved state .reset { state with registry := state.registry.reset }
  | engine {event engine} : isOwn event = true → Engine.step state.engine event = some engine →
      Moved state (.engine event) { state with engine }

theorem step_moved {event : Event} (stepped : step state event = some after) : Moved state event after := by
  cases event with
  | tick now =>
    simp only [step, Option.ite_none_right_eq_some, Option.some.injEq] at stepped
    obtain ⟨order, rfl⟩ := stepped
    exact .tick order
  | connect raw multiStatements =>
    obtain ⟨engine, created, rfl⟩ := Option.map_eq_some_iff.mp stepped
    exact .connect created
  | submit sync job answer =>
    simp only [step, Option.ite_none_right_eq_some] at stepped
    obtain ⟨⟨free, query, answered⟩, sent⟩ := stepped
    exact .submit free query (submit_sent.mp ⟨answered, sent⟩)
  | setLimit handle type value =>
    simp only [step, Option.ite_none_right_eq_some, Option.some.injEq] at stepped
    obtain ⟨free, rfl⟩ := stepped
    exact .setLimit free
  | removeConnection handle =>
    simp only [step, Option.ite_none_right_eq_some, Option.some.injEq] at stepped
    obtain ⟨⟨free, stopped⟩, rfl⟩ := stepped
    exact .removeConnection free stopped
  | clearConnections =>
    simp only [step, Option.ite_none_right_eq_some, Option.some.injEq] at stepped
    obtain ⟨⟨free, stopped⟩, rfl⟩ := stepped
    exact .clearConnections free stopped
  | reset =>
    simp only [step, Option.ite_none_right_eq_some, Option.some.injEq] at stepped
    obtain ⟨⟨free, stopped⟩, rfl⟩ := stepped
    exact .reset free stopped
  | engine event =>
    simp only [step, Option.ite_none_right_eq_some] at stepped
    obtain ⟨own, mapped⟩ := stepped
    obtain ⟨engine, ran, rfl⟩ := Option.map_eq_some_iff.mp mapped
    exact .engine own ran

theorem Moved.step {event : Event} (moved : Moved state event after) : step state event = some after := by
  cases moved with
  | tick order => exact if_pos order
  | connect created => exact Option.map_eq_some_iff.mpr ⟨_, created, rfl⟩
  | submit free query sent =>
    obtain ⟨answered, done⟩ := submit_sent.mpr sent
    exact (if_pos ⟨free, query, answered⟩).trans done
  | setLimit free => exact if_pos free
  | removeConnection free stopped | clearConnections free stopped | reset free stopped =>
    exact if_pos ⟨free, stopped⟩
  | engine own ran => exact (if_pos own).trans (Option.map_eq_some_iff.mpr ⟨_, ran, rfl⟩)

theorem Sound.noting (sound : Sound state) {handle : Int} {conn : Nat}
    (live : state.registry.workers handle = some conn) (reason : GuardReject) : Sound (state.noting handle reason) where
  consistent := sound.consistent.noted (sound.consistent.workers ▸ Table.mem_keys_of_eq live) state.clock reason
  orderly := sound.orderly.noted handle reason

theorem sound_sent (sound : Sound state) (sent : Sent state sync job reason after) : Sound after := by
  cases sent with
  | unknown => exact sound
  | refused live => exact sound.noting live _
  | accepted live => exact ⟨(sound.noting live _).consistent, (sound.noting live _).orderly⟩

theorem Orderly.setLimit {registry : Connections} {clock : Int} (orderly : Orderly registry.policy clock)
    (handle type value : Int) : Orderly (registry.setLimit handle type value).1.policy clock := by
  rcases registry.setLimit_forms handle type value with same | ⟨g, limits, found, changed, window⟩
  · rw [same]
    exact orderly
  · rw [changed]
    refine orderly.within ?_ (fun _ => Or.inl rfl)
    intro other
    rw [Connections.setGuards, GuardTable.limits_put _ _ rfl]
    split
    next =>
      have usual := orderly.window handle
      simp only [GuardTable.limits, found, Option.getD_some] at usual
      rcases window with kept | reset
      · exact kept.trans usual
      · exact reset
    next => exact orderly.window other

/-- A closed handle has the default limits and no log. -/
theorem Orderly.erase {table : GuardTable} {clock : Int} (orderly : Orderly table clock) (handle : Int)
    (multiStatementAllowed : Int → Option Bool) :
    Orderly
      { multiStatementAllowed
        guards := Table.erase table.guards handle
        rateLog := Table.erase table.rateLog handle } clock := by
  apply orderly.within
  · intro other
    by_cases same : other = handle
    · subst same
      simp [GuardTable.limits]
    · have usual := orderly.window other
      simpa only [GuardTable.limits, Table.erase_other _ _ _ same] using usual
  · intro other
    by_cases same : other = handle
    · subst same
      exact Or.inr (by simp [GuardTable.log])
    · exact Or.inl (by simp only [GuardTable.log, Table.erase_other _ _ _ same])

theorem Orderly.put {table : GuardTable} {clock : Int} (orderly : Orderly table clock) (handle : Int)
    (multiStatementAllowed : Int → Option Bool) :
    Orderly { table with multiStatementAllowed, guards := Table.put table.guards handle {} } clock := by
  refine orderly.within ?_ (fun _ => Or.inl rfl)
  intro other
  have limits := GuardTable.limits_put { table with multiStatementAllowed } table.guards rfl handle other {}
  rw [limits]
  split
  next => rfl
  next => exact orderly.window other

theorem sound_step (sound : Sound state) {event : Event} (moved : Moved state event after) : Sound after := by
  cases moved with
  | tick order => exact ⟨sound.consistent, sound.orderly.later order⟩
  | connect created => exact ⟨sound.consistent.addConnection _ _, sound.orderly.put _ _⟩
  | submit free query sent => exact sound_sent sound sent
  | setLimit free => exact ⟨sound.consistent.setLimit _ _ _, sound.orderly.setLimit _ _ _⟩
  | removeConnection free stopped => exact ⟨sound.consistent.removeConnection _, sound.orderly.erase _ _⟩
  | clearConnections free stopped =>
    exact ⟨Connections.consistent_empty _ sound.consistent.positive, orderly_empty _⟩
  | reset free stopped => exact ⟨Connections.consistent_empty _ (Int.le_refl 1), orderly_empty _⟩
  | engine own ran => exact ⟨sound.consistent, sound.orderly⟩

theorem Sound.admits (sound : Sound state) {conn : Nat}
    (accepted : state.registry.policy.answer job (state.pending conn) state.clock = .none) : state.Admits job conn := by
  have permitted := QueryGuards.permits_of_decision accepted
  rw [QueryGuards.recent, Window.since_eq_filter (sound.orderly.sorted job.connectionHandle)] at permitted
  exact permitted

theorem request_enqueued (state : State) (sync : Bool) (job : QueryJob) (conn : Nat) :
    (state.request sync job conn).enqueued = [state.ticket sync job conn] := by
  cases sync <;> rfl

theorem isOwn_enqueued {event : Engine.Event Nat} (own : isOwn event = true) :
    ∀ ticket ∈ event.enqueued, ticket.isQuery = false := by
  cases event <;> simp_all [isOwn, Engine.Event.enqueued]

/-- A query comes to a worker through the gate and in no other way. -/
theorem outstanding_step (sound : Sound state) {event : Event} (moved : Moved state event after) {conn : Nat}
    {updated : Engine.ConnectionWorker Nat} (found : after.engine.workers conn = some updated)
    {ticket : Engine.Ticket Nat} (present : ticket ∈ updated.outstanding) (query : ticket.isQuery = true) :
    Enters state event ticket ∨ ∃ worker, state.engine.workers conn = some worker ∧ ticket ∈ worker.outstanding := by
  cases moved with
  | tick | setLimit | removeConnection | clearConnections | reset => exact Or.inr ⟨updated, found, present⟩
  | connect created =>
    rcases Engine.outstanding_step (Engine.step_moved created) found present with queued | old
    · cases queued
    · exact Or.inr old
  | @submit sync job answer next free closes sent =>
    cases sent with
    | unknown | refused => exact Or.inr ⟨updated, found, present⟩
    | accepted live admitted ran =>
      rcases Engine.outstanding_step (Engine.step_moved ran) found present with queued | old
      · rw [request_enqueued, List.mem_singleton] at queued
        subst queued
        exact Or.inl ⟨sync, job, rfl, live, rfl, sound.admits admitted⟩
      · exact Or.inr old
  | engine own ran =>
    rcases Engine.outstanding_step (Engine.step_moved ran) found present with queued | old
    · rw [isOwn_enqueued own ticket queued] at query
      cases query
    · exact Or.inr old

/-- What a worker works on is what it was given. -/
theorem worked_outstanding {engine next : Engine.State Nat} {event : Engine.Event Nat}
    (moved : Engine.Moved engine event next) {ticket : Engine.Ticket Nat} (present : ticket ∈ worked event) :
    ∃ worker, engine.workers ticket.conn = some worker ∧ ticket ∈ worker.outstanding := by
  cases moved with
  | pop found thread input =>
    rw [List.mem_singleton.mp present]
    exact ⟨_, found, by simp [Engine.ConnectionWorker.outstanding, input]⟩
  | send found thread | deliverAsync found thread | deliverSync found thread =>
    rw [List.mem_singleton.mp present]
    exact ⟨_, found, by simp [Engine.ConnectionWorker.outstanding, thread, Engine.Thread.taken]⟩
  | finish found _ thread =>
    rw [List.mem_singleton.mp present]
    refine ⟨_, found, ?_⟩
    rcases thread with thread | ⟨thread, _⟩ <;> simp [Engine.ConnectionWorker.outstanding, thread, Engine.Thread.taken]
  | _ => cases present

end Step

theorem Accepted.snoc {events : List Event} {ticket : Engine.Ticket Nat} (accepted : Accepted events ticket)
    (event : Event) : Accepted (events ++ [event]) ticket := by
  obtain ⟨earlier, submission, later, state, rfl, run, enters⟩ := accepted
  exact ⟨earlier, submission, later ++ [event], state, by simp, run, enters⟩

theorem sound_run {events : List Event} {state : State} (run : Run (Steps step) {} events state) : Sound state :=
  run.invariant ⟨Connections.consistent_empty 1 (Int.le_refl 1), orderly_empty _⟩
    (fun _ _ _ sound stepped => sound_step sound (step_moved stepped))

theorem outstanding_accepted {events : List Event} {state : State} (run : Run (Steps step) {} events state) {conn : Nat}
    {worker : Engine.ConnectionWorker Nat} (found : state.engine.workers conn = some worker)
    {ticket : Engine.Ticket Nat} (present : ticket ∈ worker.outstanding) (query : ticket.isQuery = true) :
    Accepted events ticket := by
  induction run generalizing worker with
  | refl => cases found
  | @snoc events before event after earlier stepped ih =>
    rcases outstanding_step (sound_run earlier) (step_moved stepped) found present query with enters | ⟨worker, old, held⟩
    · exact ⟨events, event, [], before, rfl, earlier, enters⟩
    · exact (ih old held).snoc event

theorem worked_accepted {events : List Event} {state : State} (run : Run (Steps step) {} events state)
    {event : Engine.Event Nat} (happened : Event.engine event ∈ events) {ticket : Engine.Ticket Nat}
    (present : ticket ∈ worked event) (query : ticket.isQuery = true) : Accepted events ticket := by
  induction run with
  | refl => cases happened
  | @snoc events before last after earlier stepped ih =>
    rcases List.mem_append.mp happened with past | now
    · exact (ih past).snoc last
    · cases List.mem_singleton.mp now
      cases step_moved stepped with
      | engine own ran =>
        obtain ⟨worker, found, held⟩ := worked_outstanding (Engine.step_moved ran) present
        exact (outstanding_accepted earlier found held query).snoc _

end OmpMySQL.Gate
