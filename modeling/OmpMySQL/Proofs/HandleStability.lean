import OmpMySQL.Handles
import OmpMySQL.Proofs.JournalNotes

/-! The handles a job carries, from its enqueue to its dispatch. Handles count up
until a reset starts them over, and a reset lets finished jobs wait in the sink. -/

namespace OmpMySQL.Handles
open Library Engine

variable {state next : State} {event : Event}

/-- The handles start over only when no query is in flight. -/
def ResetsIdle (state : State) : Event → Prop
  | .reset _ => ∀ entry ∈ state.journal.notes, entry.1.isQuery = false
  | _ => True

instance (state : State) (event : Event) : Decidable (ResetsIdle state event) :=
  match event with
  | .reset _ => inferInstanceAs (Decidable (∀ entry ∈ _, _))
  | .engine _ | .addConnection | .removeConnection _ _ | .addModel | .removeModel _ =>
    inferInstanceAs (Decidable True)

/-- The handles of a job in flight were given out by the tables as they are, and
denote what they did or nothing. -/
structure Steady (connections models : Registry Nat) (ticket : Ticket Nat) (held : Denotation) : Prop where
  connection : connections.Keeps ticket.job.connectionHandle held.connection
  model : models.Keeps ticket.job.modelHandle held.model

structure Sound (state : State) : Prop where
  complete : state.journal.Complete
  steady : ∀ ticket held, (ticket, held) ∈ state.journal.notes → ticket.isQuery = true →
    Steady state.connections state.models ticket held
  kept : NeverRetargeted state

theorem sound_initial : Sound {} where
  complete := Journal.complete_initial
  steady _ _ present := absurd present List.not_mem_nil
  kept _ present := absurd present List.not_mem_nil

theorem steady_accepted {ticket : Ticket Nat} (query : ticket.isQuery = true) (accepted : state.accepts ticket = true) :
    Steady state.connections state.models ticket (state.denotes ticket) := by
  simp only [State.accepts, query, Bool.not_true, Bool.false_or, Bool.and_eq_true, Bool.or_eq_true, beq_iff_eq]
    at accepted
  obtain ⟨connection, model⟩ := accepted
  refine ⟨⟨?_, Or.inr rfl⟩, ⟨?_, Or.inr rfl⟩⟩
  · exact (Registry.issued_of_find (by simp [connection])).2
  · rcases model with zero | found
    · have positive := state.models.positive
      omega
    · exact (Registry.issued_of_find (Option.isSome_iff_ne_none.mp found)).2

private theorem shutdown_enqueues {stops : Nat → Bool} {teardown : Bool} {event : Engine.Event Nat}
    (quiet : isShutdown stops teardown event = true) {ticket : Ticket Nat} (enqueued : ticket ∈ event.enqueued) :
    ticket.isQuery = false := by
  cases event with
  | enqueue fresh =>
    cases List.mem_singleton.mp enqueued
    simpa using (Bool.and_eq_true_iff.mp quiet).2
  | runSync fresh => cases quiet
  | _ => cases enqueued

/-- Stopping workers takes no query that was not there before. -/
private theorem shutdown_run {note : Ticket Nat → Denotation} {stops : Nat → Bool} {teardown : Bool}
    {events : List (Engine.Event Nat)} {journal final : Journal Nat Denotation} (complete : journal.Complete)
    (quiet : events.all (isShutdown stops teardown) = true) (done : exec (Journal.step note) journal events = some final) :
    final.Complete ∧ ∀ ticket held, (ticket, held) ∈ final.notes → ticket.isQuery = true →
      (ticket, held) ∈ journal.notes := by
  induction events generalizing journal with
  | nil =>
    cases done
    exact ⟨complete, fun _ _ present _ => present⟩
  | cons event events ih =>
    simp only [List.all_cons, Bool.and_eq_true] at quiet
    obtain ⟨middle, moved, rest⟩ := Option.bind_eq_some_iff.mp done
    obtain ⟨finalComplete, old⟩ := ih (Journal.complete_step complete moved) quiet.2 rest
    refine ⟨finalComplete, ?_⟩
    intro ticket held present query
    rcases Journal.mem_notes_step moved (old ticket held present query) with earlier | ⟨enqueued, _⟩
    · exact earlier
    · have teardown := shutdown_enqueues quiet.1 enqueued
      simp [query] at teardown

theorem shutDown_sound {after : State} {stops : Nat → Bool} {teardown : Bool} {shutdown : List (Engine.Event Nat)}
    (complete : state.journal.Complete) (stopped : state.shutDown stops teardown shutdown = some after) :
    after.journal.Complete ∧
      (∀ ticket held, (ticket, held) ∈ after.journal.notes → ticket.isQuery = true →
        (ticket, held) ∈ state.journal.notes) ∧
      after.connections = state.connections ∧ after.models = state.models ∧ after.processed = state.processed := by
  unfold State.shutDown at stopped
  simp only [Option.ite_none_right_eq_some, Option.bind_eq_some_iff, Option.some.injEq] at stopped
  obtain ⟨quiet, journal, done, _, rfl⟩ := stopped
  obtain ⟨finalComplete, old⟩ := shutdown_run complete quiet done
  exact ⟨finalComplete, old, rfl, rfl, rfl⟩

theorem process_kept (kept : NeverRetargeted state) {done : Finished Nat} {held : Denotation}
    (noted : state.journal.noteOf done.ticket = some held)
    (steady : Steady state.connections state.models done.ticket held) : NeverRetargeted (state.process done) := by
  intro processed present
  simp only [State.process, noted] at present
  rcases List.mem_append.mp present with earlier | last
  · exact kept processed earlier
  · cases List.mem_singleton.mp last
    exact ⟨steady.model.same, steady.connection.same⟩

theorem sound_step (sound : Sound state) (idle : ResetsIdle state event) (stepped : step state event = some next) :
    Sound next := by
  cases event with
  | engine event =>
    simp only [step, Option.ite_none_right_eq_some, Option.map_eq_some_iff] at stepped
    obtain ⟨⟨_, accepted⟩, journal, moved, rfl⟩ := stepped
    have complete := Journal.complete_step sound.complete moved
    have steady : ∀ ticket held, (ticket, held) ∈ journal.notes → ticket.isQuery = true →
        Steady state.connections state.models ticket held := by
      intro ticket held present query
      rcases Journal.mem_notes_step moved present with old | ⟨enqueued, rfl⟩
      · exact sound.steady ticket held old query
      · exact steady_accepted query (List.all_eq_true.mp accepted ticket enqueued)
    rcases handedOver_cases event with none_handed | ⟨done, handed⟩
    · rw [none_handed]
      exact ⟨complete, steady, sound.kept⟩
    · obtain ⟨held, noted, present, query⟩ :=
        Journal.noteOf_handedOver sound.complete moved (handed ▸ List.mem_singleton.mpr rfl)
      have kept := process_kept sound.kept noted (sound.steady _ _ present query)
      rw [handed, List.foldl_cons, List.foldl_nil]
      simp only [State.process, noted] at kept ⊢
      exact ⟨complete, steady, kept⟩
  | addConnection =>
    obtain ⟨journal, moved, rfl⟩ := Option.map_eq_some_iff.mp stepped
    refine ⟨Journal.complete_step sound.complete moved, ?_, sound.kept⟩
    intro ticket held present query
    rcases Journal.mem_notes_step moved present with old | ⟨enqueued, _⟩
    · have steady := sound.steady ticket held old query
      exact ⟨steady.connection.add, steady.model⟩
    · cases enqueued
  | removeConnection handle shutdown =>
    simp only [step, Option.bind_eq_some_iff, Option.ite_none_right_eq_some, Option.some.injEq] at stepped
    obtain ⟨after, stopped, _, rfl⟩ := stepped
    obtain ⟨complete, old, connections, models, processed⟩ := shutDown_sound sound.complete stopped
    refine ⟨complete, ?_, fun entry present => sound.kept entry (processed ▸ present)⟩
    intro ticket held present query
    have steady := sound.steady ticket held (old ticket held present query) query
    rw [connections, models]
    exact ⟨steady.connection.erase handle, steady.model⟩
  | addModel =>
    simp only [step, Option.ite_none_right_eq_some, Option.some.injEq] at stepped
    obtain ⟨_, rfl⟩ := stepped
    refine ⟨sound.complete, ?_, sound.kept⟩
    intro ticket held present query
    have steady := sound.steady ticket held present query
    exact ⟨steady.connection, steady.model.add⟩
  | removeModel handle =>
    simp only [step, Option.ite_none_right_eq_some, Option.some.injEq] at stepped
    obtain ⟨_, rfl⟩ := stepped
    refine ⟨sound.complete, ?_, sound.kept⟩
    intro ticket held present query
    have steady := sound.steady ticket held present query
    exact ⟨steady.connection, steady.model.erase handle⟩
  | reset shutdown =>
    simp only [step, Option.bind_eq_some_iff, Option.ite_none_right_eq_some, Option.some.injEq] at stepped
    obtain ⟨after, stopped, _, rfl⟩ := stepped
    obtain ⟨complete, old, _, _, processed⟩ := shutDown_sound sound.complete stopped
    refine ⟨complete, ?_, fun entry present => sound.kept entry (processed ▸ present)⟩
    intro ticket held present query
    have teardown := idle _ (old ticket held present query)
    simp [query] at teardown

/-- Where a reset finds no query in flight, no job's handles are ever re-targeted. -/
theorem never_retargeted {events : List Event} {state : State}
    (run : Run (Guarded ResetsIdle (Steps step)) {} events state) : NeverRetargeted state :=
  (run.invariant sound_initial (fun _ _ _ sound move => sound_step sound move.1 move.2)).kept

section AcrossReset

private def find : Ticket Nat :=
  ⟨0, 0, { connectionHandle := 1, sql := "SELECT name FROM players", modelHandle := 1, modelOp := 1 }⟩

private def row : Finished Nat := ⟨find, ⟨true, 0, "", {}⟩⟩

private def onEngine (events : List (Engine.Event Nat)) : List Event := events.map .engine

private def starting : List Event := [.addConnection, .addModel] ++ onEngine [.enqueue find, .count]

/-- Stopping the worker drains the find into the sink. -/
private def restart : List Event :=
  [.reset [.stop 0, .pop find, .send find, .finish row, .deliver row, .uncount 0, .exit 0, .join 0],
    .addConnection, .addModel] ++ onEngine [.drain, .dispatch row]

theorem retargeted_by_reset : ¬ ∀ (events : List Event) (state : State),
    Run (Steps step) {} events state → NeverRetargeted state := by
  intro always
  have executes : (exec step {} (starting ++ restart)).isSome := by decide
  obtain ⟨state, done⟩ := Option.isSome_iff_exists.mp executes
  have processed : (exec step {} (starting ++ restart)).map (·.processed) =
      some [⟨find, ⟨some 1, some 0⟩, ⟨some 3, some 2⟩⟩] := by decide
  rw [done, Option.map_some, Option.some.injEq] at processed
  have faithful := always _ state (Run.of_exec done) _ (processed ▸ List.mem_singleton.mpr rfl)
  exact absurd faithful.1 (by decide)

private def dispatched : List Event :=
  onEngine [.pop find, .send find, .finish row, .deliver row, .uncount 0, .drain, .dispatch row] ++
    [.reset [.stop 0, .exit 0, .join 0], .addConnection, .addModel]

theorem never_retargeted_idle : ∃ state,
    exec (guarded ResetsIdle step) {} (starting ++ dispatched) = some state ∧ NeverRetargeted state := by
  have executes : (exec (guarded ResetsIdle step) {} (starting ++ dispatched)).isSome := by decide
  obtain ⟨state, done⟩ := Option.isSome_iff_exists.mp executes
  exact ⟨state, done, never_retargeted (Run.of_guarded_exec done)⟩

end AcrossReset
end OmpMySQL.Handles
