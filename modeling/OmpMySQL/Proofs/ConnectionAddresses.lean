import OmpMySQL.Statements
import OmpMySQL.Proofs.GuardGate

/-! Where the connections are. A worker that is there belongs to a listed
connection, and no address is listed twice. -/

namespace OmpMySQL.Gate
open Library

structure Addressed (state : State) : Prop where
  sound : Sound state
  twins : state.registry.workers = state.registry.connections
  apart : Table.Apart id state.registry.connections
  listed : ∀ raw, (state.engine.workers raw).isSome → ∃ handle, state.registry.connections handle = some raw

/-- A new connection is placed where no live one is. -/
def Unshared (state : State) (event : Event) : Prop :=
  ∀ raw multiStatements, event = .connect raw multiStatements →
    ∀ handle, state.registry.connections handle ≠ some raw

variable {state after : State} {event : Event}

theorem addressed_empty : Addressed {} where
  sound := ⟨Connections.consistent_empty 1 (Int.le_refl 1), orderly_empty _⟩
  twins := rfl
  apart _ _ _ _ here := by cases here
  listed _ present := by cases present

/-- A step of the gate is one event of the engine at most. -/
theorem engine_step (moved : Moved state event after) :
    state.engineEvents event = [] ∧ after.engine = state.engine ∨
      ∃ done, state.engineEvents event = [done] ∧ Engine.step state.engine done = some after.engine := by
  cases moved with
  | tick | setLimit | removeConnection | clearConnections | reset => exact Or.inl ⟨rfl, rfl⟩
  | connect created => exact Or.inr ⟨_, rfl, created⟩
  | @submit sync job answer next free closes sent =>
    cases sent with
    | unknown => exact Or.inl ⟨rfl, rfl⟩
    | refused live decided barred =>
      refine Or.inl ⟨?_, rfl⟩
      cases answer with
      | none => exact absurd rfl barred
      | _ => rfl
    | accepted live admitted ran =>
      refine Or.inr ⟨state.request sync job _, ?_, ran⟩
      simp only [State.engineEvents, live, Option.toList_some, List.map_cons, List.map_nil]
  | @engine done engine own ran => exact Or.inr ⟨done, rfl, ran⟩

theorem engine_run (moved : Moved state event after) :
    Run (Steps Engine.step) state.engine (state.engineEvents event) after.engine := by
  rcases engine_step moved with ⟨events, same⟩ | ⟨done, events, ran⟩
  · rw [events, same]
    exact .refl
  · rw [events]
    exact Run.refl.snoc ran

/-- No two jobs are enqueued in one step. -/
theorem enqueued_single (moved : Moved state event after)
    (related : Engine.Ticket Nat → Engine.Ticket Nat → Prop) :
    ((state.engineEvents event).flatMap Engine.Event.enqueued).Pairwise related := by
  rcases engine_step moved with ⟨events, _⟩ | ⟨done, events, _⟩
  · rw [events]
    exact List.Pairwise.nil
  · rw [events, List.flatMap_singleton]
    cases done <;> simp [Engine.Event.enqueued]

/-- A worker comes with its connection. -/
theorem worker_step (moved : Moved state event after) {raw : Nat} (present : (after.engine.workers raw).isSome) :
    (state.engine.workers raw).isSome ∨ ∃ multiStatements, event = .connect raw multiStatements := by
  cases moved with
  | tick | setLimit | removeConnection | clearConnections | reset => exact Or.inl present
  | @connect other multiStatements engine created =>
    rcases Engine.worker_step (Engine.step_moved created) present with old | same
    · exact Or.inl old
    · cases same
      exact Or.inr ⟨multiStatements, rfl⟩
  | @submit sync job answer next free closes sent =>
    cases sent with
    | unknown | refused => exact Or.inl present
    | accepted live admitted ran =>
      rcases Engine.worker_step (Engine.step_moved ran) present with old | same
      · exact Or.inl old
      · cases sync <;> cases same
  | engine own ran =>
    rcases Engine.worker_step (Engine.step_moved ran) present with old | rfl
    · exact Or.inl old
    · cases own

/-- A connection is listed by its own event. -/
theorem connections_step (moved : Moved state event after) {handle : Int} {raw : Nat}
    (found : after.registry.connections handle = some raw) :
    state.registry.connections handle = some raw ∨ ∃ multiStatements, event = .connect raw multiStatements := by
  cases moved with
  | tick | engine => exact Or.inl found
  | @connect other multiStatements engine created =>
    rcases Table.emplace_eq_some found with old | rfl
    · exact Or.inl old
    · exact Or.inr ⟨multiStatements, rfl⟩
  | submit free closes sent =>
    cases sent with
    | unknown | refused | accepted => exact Or.inl found
  | @setLimit of type value =>
    rw [(state.registry.setLimit_tables of type value).2] at found
    exact Or.inl found
  | removeConnection => exact Or.inl (Table.erase_eq_some.mp found).2
  | clearConnections | reset => cases found

/-- A connection whose worker has been joined has none any more. -/
theorem Addressed.joined (addressed : Addressed state) {handle : Int} (stopped : state.stopped handle = true) {raw : Nat}
    (found : state.registry.connections handle = some raw) : state.engine.workers raw = none := by
  rw [State.stopped, addressed.twins, found, Option.all_some, Option.isNone_iff_eq_none] at stopped
  exact stopped

theorem Addressed.allJoined (addressed : Addressed state) (stopped : state.allStopped = true) (raw : Nat) :
    state.engine.workers raw = none := by
  cases present : state.engine.workers raw with
  | none => rfl
  | some worker =>
    obtain ⟨handle, found⟩ := addressed.listed raw (by simp [present])
    have each := List.all_eq_true.mp stopped handle (addressed.sound.consistent.mem_handles found)
    rw [← present]
    exact addressed.joined each found

theorem twins_step (addressed : Addressed state) (moved : Moved state event after) :
    after.registry.workers = after.registry.connections := by
  have twins := addressed.twins
  cases moved with
  | tick | engine => exact twins
  | connect => simp only [Connections.addConnection, twins]
  | submit free closes sent =>
    cases sent with
    | unknown | refused | accepted => exact twins
  | @setLimit handle type value =>
    obtain ⟨workers, connections⟩ := state.registry.setLimit_tables handle type value
    exact workers.trans (twins.trans connections.symm)
  | removeConnection => simp only [Connections.removeConnection, twins]
  | clearConnections | reset => rfl

/-- A connection goes when its worker is gone. -/
theorem listed_step (addressed : Addressed state) (moved : Moved state event after) {raw : Nat}
    (present : (after.engine.workers raw).isSome) : ∃ handle, after.registry.connections handle = some raw := by
  rcases worker_step moved present with old | ⟨multiStatements, rfl⟩
  · obtain ⟨handle, found⟩ := addressed.listed raw old
    cases moved with
    | tick | engine => exact ⟨handle, found⟩
    | connect => exact ⟨handle, Table.emplace_kept found _ _⟩
    | submit free closes sent =>
      cases sent with
      | unknown | refused | accepted => exact ⟨handle, found⟩
    | @setLimit of type value =>
      rw [(state.registry.setLimit_tables of type value).2]
      exact ⟨handle, found⟩
    | removeConnection free stopped =>
      refine ⟨handle, Table.erase_eq_some.mpr ⟨?_, found⟩⟩
      intro same
      have gone := addressed.joined stopped (same ▸ found)
      simp [gone] at present
    | clearConnections free stopped | reset free stopped => simp [addressed.allJoined stopped raw] at present
  · cases moved with
    | connect => exact ⟨_, (addressed.sound.consistent.startsAfresh raw multiStatements).connection⟩

theorem apart_step (addressed : Addressed state) (unshared : Unshared state event) (moved : Moved state event after) :
    Table.Apart id after.registry.connections := by
  cases event with
  | connect raw multiStatements =>
    cases moved with
    | connect =>
      have absent := Table.not_mem_keys.mp addressed.sound.consistent.fresh
      simp only [Connections.addConnection, Table.emplace_absent absent]
      apply addressed.apart.put
      intro other found listed same
      exact unshared raw multiStatements rfl other (listed.trans (congrArg some same))
  | _ =>
    apply addressed.apart.within
    intro handle raw found
    rcases connections_step moved found with old | ⟨_, same⟩
    · exact old
    · cases same

theorem addressed_step (addressed : Addressed state) (unshared : Unshared state event)
    (moved : Moved state event after) : Addressed after where
  sound := sound_step addressed.sound moved
  twins := twins_step addressed moved
  apart := apart_step addressed unshared moved
  listed _ present := listed_step addressed moved present

end OmpMySQL.Gate
