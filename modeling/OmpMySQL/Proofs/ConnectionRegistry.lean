import OmpMySQL.Connections
import OmpMySQL.Library.Registry
import OmpMySQL.Proofs.GuardPolicy
import Mathlib.Data.Set.Basic

/-! The connection tables agree at all times, and a new connection inherits nothing
from an earlier one under its number. -/

namespace OmpMySQL.Connections
open Library

structure Consistent (registry : Connections) : Prop where
  workers : registry.workers.keys = registry.connections.keys
  multiStatements : Table.keys registry.policy.multiStatementAllowed = registry.connections.keys
  guards : Table.keys registry.policy.guards = registry.connections.keys
  rateLog : Table.keys registry.policy.rateLog ⊆ registry.connections.keys
  issued : ∀ handle ∈ registry.connections.keys, 1 ≤ handle ∧ handle < registry.nextHandle
  positive : 1 ≤ registry.nextHandle

/-- `added` is what `addConnection` makes of `registry` and returns. -/
structure StartsAfresh (registry : Connections) (conn : Nat) (multiStatements : Bool) (added : Connections × Int) :
    Prop where
  unused : added.2 ∉ registry.connections.keys
  connection : added.1.connections added.2 = some conn
  worker : added.1.workers added.2 = some conn
  guards : added.1.policy.guards added.2 = some {}
  rateLog : added.1.policy.rateLog added.2 = none
  multiStatements : added.1.policy.multiStatementAllowed added.2 = some multiStatements

variable {registry next : Connections}

theorem consistent_empty (nextHandle : Int) (positive : 1 ≤ nextHandle) :
    Consistent { nextHandle } where
  workers := rfl
  multiStatements := rfl
  guards := rfl
  rateLog _ present := absurd present (by simp [Table.mem_keys])
  issued _ present := absurd present (by simp)
  positive := positive

theorem Consistent.fresh (consistent : Consistent registry) : registry.nextHandle ∉ registry.connections.keys := by
  intro present
  have issued := consistent.issued _ present
  omega

theorem Consistent.mem_handles (consistent : Consistent registry) {handle : Int} {raw : Nat}
    (found : registry.connections handle = some raw) : handle ∈ registry.handles :=
  mem_given.mpr (consistent.issued handle (Table.mem_keys_of_eq found))

theorem connection_of_handleOf {raw : Nat} (resolved : registry.connectionHandleOf (some raw) ≠ 0) :
    registry.connections (registry.connectionHandleOf (some raw)) = some raw := by
  cases found : registry.handles.find? (fun handle => registry.connections handle = some raw) with
  | none => simp [connectionHandleOf, found] at resolved
  | some handle =>
    have here := List.find?_some found
    rw [decide_eq_true_eq] at here
    simpa only [connectionHandleOf, found, Option.getD_some] using here

theorem Consistent.handleOf (consistent : Consistent registry) {handle : Int} {raw : Nat}
    (found : registry.connections handle = some raw) : registry.connectionHandleOf (some raw) ≠ 0 := by
  have member := consistent.mem_handles found
  cases search : registry.handles.find? (fun handle => registry.connections handle = some raw) with
  | none =>
    have absent := List.find?_eq_none.mp search handle member
    simp [found] at absent
  | some first =>
    have issued := mem_given.mp (List.mem_of_find?_eq_some search)
    simp only [connectionHandleOf, search, Option.getD_some]
    omega

theorem Consistent.addConnection (consistent : Consistent registry) (conn : Nat) (multiStatements : Bool) :
    Consistent (registry.addConnection (some conn) multiStatements).1 where
  workers := by
    simp only [Connections.addConnection, Table.keys_emplace, consistent.workers]
  multiStatements := by
    simp only [Connections.addConnection, Table.keys_put, Table.keys_emplace, consistent.multiStatements]
  guards := by
    simp only [Connections.addConnection, Table.keys_put, Table.keys_emplace, consistent.guards]
  rateLog := by
    simp only [Connections.addConnection, Table.keys_emplace]
    exact consistent.rateLog.trans (Set.subset_insert _ _)
  issued handle present := by
    have positive := consistent.positive
    simp only [Connections.addConnection, Table.keys_emplace] at present ⊢
    rcases Set.mem_insert_iff.mp present with rfl | old
    · omega
    · have issued := consistent.issued handle old
      omega
  positive := by
    have positive := consistent.positive
    simp only [Connections.addConnection]
    omega

theorem Consistent.removeConnection (consistent : Consistent registry) (handle : Int) :
    Consistent (registry.removeConnection handle).1 where
  workers := by
    simp only [Connections.removeConnection, Table.keys_erase, consistent.workers]
  multiStatements := by
    simp only [Connections.removeConnection, Table.keys_erase, consistent.multiStatements]
  guards := by
    simp only [Connections.removeConnection, Table.keys_erase, consistent.guards]
  rateLog := by
    simp only [Connections.removeConnection, Table.keys_erase]
    exact fun other present => ⟨consistent.rateLog present.1, present.2⟩
  issued other present := by
    simp only [Connections.removeConnection, Table.keys_erase] at present
    exact consistent.issued other present.1
  positive := consistent.positive

theorem Consistent.setGuards (consistent : Consistent registry) {handle : Int} (g : QueryGuards)
    (live : handle ∈ registry.connections.keys) : Consistent (registry.setGuards handle g) where
  workers := consistent.workers
  multiStatements := consistent.multiStatements
  guards := by
    simp only [Connections.setGuards, Table.keys_put, consistent.guards, Set.insert_eq_of_mem live]
  rateLog := consistent.rateLog
  issued := consistent.issued
  positive := consistent.positive

/-- A limit is set for a live handle or nothing happens. The window never changes but to its usual length. -/
theorem setLimit_forms (registry : Connections) (handle type value : Int) :
    (registry.setLimit handle type value).1 = registry ∨
      ∃ g limits, registry.policy.guards handle = some g ∧
        (registry.setLimit handle type value).1 = registry.setGuards handle limits ∧
        (limits.rateWindow = g.rateWindow ∨ limits.rateWindow = 1000) := by
  rw [Connections.setLimit]
  cases found : registry.guardsFor handle with
  | none => exact Or.inl rfl
  | some g =>
    dsimp only
    split_ifs
    · exact Or.inl rfl
    · exact Or.inr ⟨g, _, found, rfl, Or.inl rfl⟩
    · exact Or.inr ⟨g, _, found, rfl, Or.inl rfl⟩
    · exact Or.inr ⟨g, _, found, rfl, Or.inr rfl⟩
    · exact Or.inl rfl

theorem setLimit_tables (registry : Connections) (handle type value : Int) :
    (registry.setLimit handle type value).1.workers = registry.workers ∧
      (registry.setLimit handle type value).1.connections = registry.connections := by
  rcases setLimit_forms registry handle type value with same | ⟨g, limits, _, changed, _⟩
  · rw [same]
    exact ⟨rfl, rfl⟩
  · rw [changed]
    exact ⟨rfl, rfl⟩

theorem Consistent.setLimit (consistent : Consistent registry) (handle type value : Int) :
    Consistent (registry.setLimit handle type value).1 := by
  rcases setLimit_forms registry handle type value with same | ⟨g, limits, found, changed, _⟩
  · rw [same]
    exact consistent
  · rw [changed]
    exact consistent.setGuards limits (consistent.guards ▸ Table.mem_keys_of_eq found)

theorem Consistent.noted (consistent : Consistent registry) {handle : Int} (live : handle ∈ registry.connections.keys)
    (now : Int) (reason : GuardReject) :
    Consistent { registry with policy := registry.policy.noted handle now reason } where
  workers := consistent.workers
  multiStatements := consistent.multiStatements
  guards := by
    simp only [GuardTable.noted, Table.keys_put, consistent.guards, Set.insert_eq_of_mem live]
  rateLog other present := by
    by_cases same : other = handle
    · exact same ▸ live
    · simp only [GuardTable.noted, Table.mem_keys, Function.update_of_ne same] at present
      exact consistent.rateLog present
  issued := consistent.issued
  positive := consistent.positive

theorem Consistent.submit (consistent : Consistent registry) (job : QueryJob) (pending : Nat → Int) (now : Int) :
    Consistent (registry.submit job pending now).registry := by
  rw [Connections.submit]
  cases found : registry.workers job.connectionHandle with
  | none => exact consistent
  | some worker =>
    simp only [GuardTable.checkGuards_eq]
    exact consistent.noted (consistent.workers ▸ Table.mem_keys_of_eq found) now _

theorem consistent_step {event : Event} (consistent : Consistent registry) (stepped : step registry event = some next) :
    Consistent next := by
  cases event with
  | addConnection conn multiStatements =>
    cases stepped
    cases conn with
    | none => exact consistent
    | some raw => exact consistent.addConnection raw multiStatements
  | removeConnection handle =>
    cases stepped
    exact consistent.removeConnection handle
  | enqueueJob job pending now | runJobSync job pending now =>
    cases stepped
    exact consistent.submit job pending now
  | setLimit handle type value =>
    cases stepped
    exact consistent.setLimit handle type value
  | clearConnections =>
    cases stepped
    exact consistent_empty _ consistent.positive
  | reset =>
    cases stepped
    exact consistent_empty _ (Int.le_refl 1)

theorem Consistent.startsAfresh (consistent : Consistent registry) (conn : Nat) (multiStatements : Bool) :
    StartsAfresh registry conn multiStatements (registry.addConnection (some conn) multiStatements) := by
  have unused := consistent.fresh
  have absent : ∀ {α : Type} {table : Table Int α}, table.keys ⊆ registry.connections.keys →
      table registry.nextHandle = none :=
    fun within => Table.not_mem_keys.mp (fun present => unused (within present))
  refine ⟨unused, ?_, ?_, ?_, absent consistent.rateLog, ?_⟩
  · simp only [Connections.addConnection, Table.emplace_absent (absent (Set.Subset.refl _)), Table.put_same]
  · simp only [Connections.addConnection, Table.emplace_absent (absent consistent.workers.subset), Table.put_same]
  · simp only [Connections.addConnection, Table.put_same]
  · simp only [Connections.addConnection, Table.put_same]

theorem consistent_run {events : List Event} (run : Run (Steps step) {} events registry) : Consistent registry :=
  run.invariant (consistent_empty 1 (Int.le_refl 1)) (fun _ _ _ held stepped => consistent_step held stepped)

/-- The tables always agree, and each new connection has a handle, a worker, limits
and permissions of its own. -/
theorem connections_consistent {events : List Event} (run : Run (Steps step) {} events registry) :
    Consistent registry ∧ ∀ conn multiStatements,
      StartsAfresh registry conn multiStatements (registry.addConnection (some conn) multiStatements) := by
  have consistent := consistent_run run
  exact ⟨consistent, consistent.startsAfresh⟩

section Reused

private def stacked : QueryJob := { connectionHandle := 1, sql := "SELECT 1; SELECT 2" }

/-- Handle 1 gets a limit and a log, is closed, and is given out again by a reset. -/
private def reusing : List Event :=
  [.addConnection (some 10) true, .setLimit 1 2 5, .enqueueJob stacked (fun _ => 0) 7, .addConnection none true,
    .addConnection (some 11) true, .setLimit 2 0 64, .removeConnection 1, .removeConnection 1,
    .runJobSync stacked (fun _ => 0) 8, .reset]

theorem connections_consistent_reused : ∃ registry, exec step {} reusing = some registry ∧
    Consistent registry ∧ StartsAfresh registry 12 false (registry.addConnection (some 12) false) := by
  have executes : (exec step {} reusing).isSome := by decide
  obtain ⟨registry, done⟩ := Option.isSome_iff_exists.mp executes
  have consistent := connections_consistent (Run.of_exec done)
  exact ⟨registry, done, consistent.1, consistent.2 12 false⟩

end Reused
end OmpMySQL.Connections
