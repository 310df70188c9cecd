import OmpMySQL.Proofs.StatementCustody

/-! A prepared statement is destroyed once, and not while a worker has an execution
of it. Its connection's worker closes it, after everything it was asked to execute. -/

namespace OmpMySQL.Statements
open Library

/-- What a step of a run does to the statements. -/
structure Lifetime (state : State) (event : Event) (after : State) : Prop where
  alive : ∀ id ∈ event.executes, id ∉ state.destroyed
  once : after.destroyed.Nodup
  byWorker : ∀ made ∈ state.prepared, made.ref.id ∈ after.destroyed → made.ref.id ∉ state.destroyed →
    ∀ conn, state.workerOf made.ref = some conn →
      ∃ ticket, event = .gate (.engine (.drop ticket)) ∧ ticket.conn = conn ∧
        ticket.job.statementToClose = some made.ref.id
  afterwards : ∀ id ∈ after.destroyed, ∀ ticket ∈ state.given, ticket.job.statement = some id → ticket ∈ state.ended

variable {state after : State}

theorem Sound.known (sound : Sound state) {made : Prepared} (member : made ∈ state.prepared) :
    state.prepared[made.ref.id]? = some made := by
  obtain ⟨id, here⟩ := List.mem_iff_getElem?.mp member
  rw [sound.numbered id made here]
  exact here

theorem mem_executes {event : Gate.Event} {id : StatementId} (executed : id ∈ Event.executes (.gate event)) :
    ∃ done ticket, event = .engine done ∧ ticket ∈ done.handled ∧ ticket.job.statement = some id := by
  cases event with
  | engine done =>
    cases done with
    | send ticket => exact ⟨_, ticket, rfl, List.mem_singleton_self _, Option.mem_toList.mp executed⟩
    | finish done => exact ⟨_, done.ticket, rfl, List.mem_singleton_self _, Option.mem_toList.mp executed⟩
    | _ => cases executed
  | _ => cases executed

theorem Sound.alive (sound : Sound state) {event : Event} (moved : Moved state event after) {id : StatementId}
    (executed : id ∈ event.executes) : id ∉ state.destroyed := by
  intro destroyed
  cases moved with
  | idle quiet =>
    rw [quiet] at executed
    cases executed
  | gate plain passed =>
    obtain ⟨done, ticket, rfl, handled, executes⟩ := mem_executes executed
    obtain ⟨worker, found, held⟩ := handled_held passed handled
    obtain ⟨given, unrun, _⟩ := Engine.held_job sound.engine found held
    exact unrun ((sound.gone id destroyed).2 ticket given (Or.inl executes))
  | _ => cases executed

/-- What ends in this step: a statement its worker has in hand to close, or one that has no worker. -/
inductive Ends (state : State) (id : StatementId) : Event → Prop where
  | closed {ticket worker} : ticket.job.statementToClose = some id → state.gate.engine.workers ticket.conn = some worker →
      ticket ∈ worker.thread.unrun → Ends state id (.gate (.engine (.drop ticket)))
  | inline {stmt made} : state.prepared[id]? = some made → made.ref.id = id → state.workerOf made.ref = none →
      Ends state id (.removeStatement stmt)

theorem destroyed_pass {event : Gate.Event} (passed : state.pass event = some after) :
    after.destroyed = state.destroyed := by
  obtain ⟨gate, _, rfl⟩ := pass_moved passed
  rfl

theorem Sound.ends (sound : Sound state) {event : Event} (moved : Moved state event after) {id : StatementId}
    (destroyed : id ∈ after.destroyed) (alive : id ∉ state.destroyed) : Ends state id event := by
  cases moved with
  | idle | prepare => exact absurd destroyed alive
  | refuse _ _ passed | teardown _ _ passed => exact absurd (destroyed_pass passed ▸ destroyed) alive
  | execute _ _ _ passed | reset _ passed =>
    have same := destroyed_pass passed
    exact absurd (by rwa [← same]) alive
  | gate plain passed =>
    rcases List.mem_append.mp destroyed with old | torn
    · exact absurd old alive
    · obtain ⟨ticket, rfl, closes⟩ := mem_tornDown torn
      obtain ⟨worker, found, held⟩ := handled_held passed (List.mem_singleton_self ticket)
      exact .closed closes found held
  | @destroy stmt made found gone =>
    rcases List.mem_append.mp destroyed with old | new
    · exact absurd old alive
    · cases List.mem_singleton.mp new
      exact .inline (sound.owned stmt made found).known rfl gone

theorem Sound.byWorker (sound : Sound state) {event : Event} {made : Prepared} (member : made ∈ state.prepared)
    (ends : Ends state made.ref.id event) {conn : Nat} (there : state.workerOf made.ref = some conn) :
    ∃ ticket, event = .gate (.engine (.drop ticket)) ∧ ticket.conn = conn ∧
      ticket.job.statementToClose = some made.ref.id := by
  have known := sound.known member
  cases ends with
  | @closed ticket worker closes found held =>
    obtain ⟨same, here, placed⟩ := sound.placed ticket (Engine.held_job sound.engine found held).1 _ (Or.inr closes)
    rw [known] at here
    cases here
    have own := conn_of_workerOf sound.addressed there
    exact ⟨ticket, rfl, Option.some.inj (placed.symm.trans own), closes⟩
  | inline here _ gone =>
    rw [known] at here
    cases here
    rw [gone] at there
    cases there

theorem Sound.afterwards (sound : Sound state) {event : Event} {id : StatementId} (ends : Ends state id event)
    {ticket : Engine.Ticket Nat} (member : ticket ∈ state.given) (executes : ticket.job.statement = some id) :
    ticket ∈ state.ended := by
  cases ends with
  | @closed teardown worker closes found held =>
    rcases sound.closing found held closes member (Or.inl executes) with rfl | ended
    · have query := sound.queries ticket member (by simp [executes])
      simp [Engine.Ticket.isQuery, closes] at query
    · exact ended
  | inline here identity gone =>
    subst identity
    exact sound.abandoned here gone member (Or.inl executes)

/-- No execution finds its statement destroyed, no statement is destroyed twice, and
the worker of its connection, if there is one, destroys it after all its executions. -/
theorem statement_lifetime {events : List Event} (run : Run (Steps step) {} events state) {event : Event}
    (stepped : step state event = some after) : Lifetime state event after := by
  have sound := sound_run run
  have moved := step_moved stepped
  refine ⟨fun _ => sound.alive moved, (sound_step sound moved).once, ?_, ?_⟩
  · intro made member destroyed alive conn there
    exact sound.byWorker member (sound.ends moved destroyed alive) there
  · intro id destroyed ticket member executes
    by_cases earlier : id ∈ state.destroyed
    · exact (sound.gone id earlier).2 ticket member (Or.inl executes)
    · exact sound.afterwards (sound.ends moved destroyed earlier) member executes

section Reused

private def execution : Engine.Ticket Nat where
  serial := 0
  conn := 10
  job := { connectionHandle := 1, sql := "UPDATE a SET b = ?", statement := some 0 }

private def performed : Engine.Finished Nat := ⟨execution, ⟨true, 0, "", {}⟩⟩

private def teardownOf (serial : Nat) (handle : Int) (id : StatementId) : Engine.Ticket Nat where
  serial := serial
  conn := 10
  job := { connectionHandle := handle, statementToClose := some id }

/-- The first statement is closed while it executes. The second one outlives its
connection and is torn down by the worker of the next connection at that address. -/
private def reusing : List Event :=
  [.gate (.connect 10 false), .prepare 1 "UPDATE a SET b = ?", .prepare 1 "SELECT ?", .execute 1 "" [],
    .gate (.engine .count), .gate (.engine (.pop execution)), .gate (.engine (.send execution)), .removeStatement 1,
    .gate (.engine .count), .gate (.engine (.finish performed)), .gate (.engine (.deliver performed)),
    .gate (.engine (.uncount 10)), .gate (.engine (.pop (teardownOf 1 1 0))),
    .gate (.engine (.drop (teardownOf 1 1 0))), .gate (.engine (.uncount 10)), .gate (.engine (.stop 10)),
    .gate (.engine (.exit 10)), .gate (.engine (.join 10)), .gate (.removeConnection 1), .gate (.connect 10 false),
    .removeStatement 2, .gate (.engine .count), .gate (.engine (.pop (teardownOf 2 2 1)))]

theorem statement_lifetime_reused :
    ∃ state after, exec step {} reusing = some state ∧
      step state (.gate (.engine (.drop (teardownOf 2 2 1)))) = some after ∧
      Lifetime state (.gate (.engine (.drop (teardownOf 2 2 1)))) after := by
  have executes : ((exec step {} reusing).bind fun state =>
      step state (.gate (.engine (.drop (teardownOf 2 2 1))))).isSome := by decide +kernel
  obtain ⟨after, ends⟩ := Option.isSome_iff_exists.mp executes
  obtain ⟨state, done, stepped⟩ := Option.bind_eq_some_iff.mp ends
  exact ⟨state, after, done, stepped, statement_lifetime (Run.of_exec done) stepped⟩

end Reused
end OmpMySQL.Statements
