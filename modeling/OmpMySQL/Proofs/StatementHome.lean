import OmpMySQL.Proofs.StatementCustody

/-! Which connection a prepared statement executes on. It keeps an address, and the
address says which connection that is for as long as the connection lives. -/

namespace OmpMySQL.Statements
open Library

/-- Every accepted execution went to the worker of the connection its statement was
prepared on, and that connection was there. -/
def AtHome (state : State) : Prop :=
  ∀ placement ∈ state.placements, placement.worker ≠ none ∧ placement.homeWorker = placement.worker

/-- No connection is placed at an address that a statement with a handle still stores. -/
def Vacant (state : State) : Event → Bool
  | .gate (.connect raw _) =>
    state.handles.all fun stmt => (state.statements stmt).all fun made => made.ref.conn != some raw
  | _ => true

/-- What is found at a statement's address is the connection it was prepared on. -/
def Homes (statements : Table Int Prepared) (registry : Connections) : Prop :=
  ∀ stmt made, statements stmt = some made → ∀ raw, made.ref.conn = some raw →
    ∀ handle, registry.connections handle = some raw → handle = made.home

structure Settled (state : State) : Prop where
  sound : Sound state
  homes : Homes state.statements state.registry
  placements : AtHome state

variable {state after : State}

theorem Homes.forget {statements : Table Int Prepared} {registry : Connections} (homes : Homes statements registry)
    (stmt : Int) : Homes (statements.erase stmt) registry :=
  fun other made found => homes other made (Table.erase_eq_some.mp found).2

theorem vacant_apart (sound : Sound state) {raw : Nat} {multiStatements : Bool}
    (vacant : Vacant state (.gate (.connect raw multiStatements)) = true) {stmt : Int} {made : Prepared}
    (found : state.statements stmt = some made) : made.ref.conn ≠ some raw := by
  have apart := List.all_eq_true.mp vacant stmt (mem_given.mpr (sound.issued stmt made found))
  simpa [found] using apart

/-- Only a new connection can take a statement's address. -/
theorem homes_pass (sound : Sound state) (homes : Homes state.statements state.registry) {event : Gate.Event}
    (vacant : Vacant state (.gate event) = true) (passed : state.pass event = some after) :
    Homes after.statements after.registry := by
  obtain ⟨gate, moved, rfl⟩ := pass_moved passed
  intro stmt made found raw conn handle listed
  rcases Gate.connections_step moved listed with old | ⟨multiStatements, rfl⟩
  · exact homes stmt made found raw conn handle old
  · exact absurd conn (vacant_apart sound vacant found)

theorem placements_pass {event : Gate.Event} (passed : state.pass event = some after) :
    after.placements = state.placements := by
  obtain ⟨gate, _, rfl⟩ := pass_moved passed
  rfl

/-- The worker an execution goes to is the one of the statement's own connection. -/
theorem Settled.placed (settled : Settled state) {stmt : Int} {made : Prepared}
    (found : state.statements stmt = some made) {raw : Nat} (conn : made.ref.conn = some raw)
    (resolved : state.registry.connectionHandleOf (some raw) ≠ 0) :
    state.registry.workers (state.registry.connectionHandleOf (some raw)) ≠ none ∧
      state.registry.workers made.home =
        state.registry.workers (state.registry.connectionHandleOf (some raw)) := by
  have listed := Connections.connection_of_handleOf resolved
  have home := settled.homes stmt made found raw conn _ listed
  have worker : state.registry.workers (state.registry.connectionHandleOf (some raw)) = some raw := by
    rw [State.registry, settled.sound.addressed.twins]
    exact listed
  rw [← home, worker]
  exact ⟨Option.some_ne_none raw, rfl⟩

theorem settled_step {event : Event} (settled : Settled state) (vacant : Vacant state event = true)
    (moved : Moved state event after) : Settled after := by
  have sound := sound_step settled.sound moved
  cases moved with
  | idle => exact settled
  | @prepare handle query raw made found same =>
    refine ⟨sound, ?_, settled.placements⟩
    intro stmt held registered other conn place listed
    rcases Table.emplace_eq_some registered with old | rfl
    · exact settled.homes stmt held old other conn place listed
    · subst same
      cases conn
      exact settled.sound.addressed.apart place handle raw raw listed found rfl
  | refuse closes barred passed =>
    have homes := homes_pass settled.sound settled.homes rfl passed
    refine ⟨sound, homes, ?_⟩
    rw [AtHome, placements_pass passed]
    exact settled.placements
  | execute found conn resolved passed =>
    have homes := homes_pass settled.sound settled.homes rfl passed
    refine ⟨sound, homes, ?_⟩
    intro placement present
    rcases List.mem_append.mp present with old | new
    · exact settled.placements placement old
    · rw [List.mem_singleton.mp new]
      exact settled.placed found conn resolved
  | @teardown stmt made conn _ found there passed =>
    have homes := homes_pass (settled.sound.forget stmt) (settled.homes.forget stmt) rfl passed
    refine ⟨sound, homes, ?_⟩
    rw [AtHome, placements_pass passed]
    exact settled.placements
  | @destroy stmt made found gone => exact ⟨sound, settled.homes.forget stmt, settled.placements⟩
  | gate plain passed =>
    have homes := homes_pass settled.sound settled.homes vacant passed
    refine ⟨sound, homes, ?_⟩
    have same := placements_pass passed
    exact fun placement present => settled.placements placement (same ▸ present)
  | reset empty passed =>
    have homes := homes_pass settled.sound settled.homes rfl passed
    refine ⟨sound, homes, ?_⟩
    have same := placements_pass passed
    exact fun placement present => settled.placements placement (same ▸ present)

theorem settled_start : Settled {} where
  sound := sound_start
  homes _ _ found := by cases found
  placements _ present := by cases present

/-- As long as no new connection gets an address that a statement stores, statements
execute where they were prepared, and not at all once that connection is closed. -/
theorem executes_at_home {events : List Event} (run : Run (Guarded (Vacant · ·) (Steps step)) {} events state) :
    AtHome state := by
  have settled : Settled state := by
    apply run.invariant settled_start
    intro before event after held move
    exact settled_step held move.1 (step_moved move.2)
  exact settled.placements

section Reconnected

private def banning : Engine.Ticket Nat where
  serial := 0
  conn := 10
  job := { connectionHandle := 1, sql := "DELETE FROM bans WHERE id = ?", statement := some 0 }

private def lifted : Engine.Finished Nat := ⟨banning, ⟨true, 0, "", {}⟩⟩

/-- A statement is prepared and executed, and its connection is closed. -/
private def closing : List Event :=
  [.gate (.connect 10 false), .prepare 1 "DELETE FROM bans WHERE id = ?", .execute 1 "" [], .gate (.engine .count),
    .gate (.engine (.pop banning)), .gate (.engine (.send banning)), .gate (.engine (.finish lifted)),
    .gate (.engine (.deliver lifted)), .gate (.engine (.uncount 10)), .gate (.engine (.stop 10)),
    .gate (.engine (.exit 10)), .gate (.engine (.join 10)), .gate (.removeConnection 1)]

theorem executes_at_home_elsewhere :
    ∃ state, exec (guarded (Vacant · ·) step) {} (closing ++ [.gate (.connect 11 false), .execute 1 "" []]) = some state ∧
      AtHome state := by
  have executes : (exec (guarded (Vacant · ·) step) {}
      (closing ++ [.gate (.connect 11 false), .execute 1 "" []])).isSome := by decide +kernel
  obtain ⟨state, done⟩ := Option.isSome_iff_exists.mp executes
  exact ⟨state, done, executes_at_home (Run.of_guarded_exec done)⟩

/-- The next connection is placed where the closed one was. -/
theorem executed_abroad :
    ¬ ∀ (events : List Event) (state : State), Run (Steps step) {} events state → AtHome state := by
  intro always
  have executes : ((exec step {} (closing ++ [.gate (.connect 10 false), .execute 1 "" []])).map
      (·.placements.getLast?)) = some (some ⟨0, some 10, none⟩) := by decide +kernel
  obtain ⟨state, done, last⟩ := Option.map_eq_some_iff.mp executes
  have placed := always _ state (Run.of_exec done) _ (List.mem_of_getLast? last)
  cases placed.2

end Reconnected
end OmpMySQL.Statements
