import OmpMySQL.Journal
import OmpMySQL.Proofs.Delivery

/-! Every job is handed over once, and its note is there when it is. -/

namespace OmpMySQL.Engine
open Library

variable {κ : Type} [DecidableEq κ] {α : Type} {events : List (Event κ)} {state : State κ}

omit [DecidableEq κ] in
theorem handedOver_cases (event : Event κ) : event.handedOver = [] ∨ ∃ done, event.handedOver = [done] := by
  cases event with
  | dispatch done | wake done => exact Or.inr ⟨done, rfl⟩
  | _ => exact Or.inl rfl

omit [DecidableEq κ] in
theorem mem_handedOver {done : Finished κ} :
    done ∈ events.flatMap Event.handedOver ↔
      done ∈ events.flatMap Event.dispatched ∨ done ∈ events.flatMap Event.returned := by
  have split : ∀ event : Event κ, event.handedOver = event.dispatched ++ event.returned := by
    intro event
    cases event <;> rfl
  simp only [List.mem_flatMap, split, List.mem_append]
  constructor
  · rintro ⟨event, member, dispatched | returned⟩
    · exact Or.inl ⟨event, member, dispatched⟩
    · exact Or.inr ⟨event, member, returned⟩
  · rintro (⟨event, member, dispatched⟩ | ⟨event, member, returned⟩)
    · exact ⟨event, member, Or.inl dispatched⟩
    · exact ⟨event, member, Or.inr returned⟩

theorem handedOver_enqueued (run : Run (Steps step) {} events state) {done : Finished κ}
    (handed : done ∈ events.flatMap Event.handedOver) :
    done.ticket ∈ events.flatMap Event.enqueued ∧ done.ticket.isQuery = true := by
  have enqueued : done.ticket ∈ (enqueuedOn done.ticket.conn events).filter Ticket.isQuery := by
    rcases mem_handedOver.mp handed with dispatched | returned
    · have listed : done.ticket ∈ (dispatchedOn done.ticket.conn events).map Finished.ticket := by
        apply List.mem_map_of_mem
        simp only [dispatchedOn, doneOn, List.mem_flatMap, List.mem_filter, decide_true, and_true] at dispatched ⊢
        exact dispatched
      have inside := (dispatched_in_order run _).subset listed
      simp only [List.mem_filter, Bool.and_eq_true] at inside ⊢
      exact ⟨inside.1, inside.2.1⟩
    · exact ((executed_in_order run _).filter _).subset (returned_executed run done returned)
  rw [enqueuedOn_eq] at enqueued
  simp only [ofConn, List.mem_filter] at enqueued
  exact ⟨enqueued.1.1, enqueued.2⟩

theorem handedOver_once {event : Event κ} {next : State κ} (run : Run (Steps step) {} events state)
    (stepped : step state event = some next) {done : Finished κ} (handed : done ∈ event.handedOver) :
    done.ticket ∉ (events.flatMap Event.handedOver).map Finished.ticket := by
  have after : Run (Steps step) {} (events ++ [event]) next := run.snoc stepped
  have late : done ∈ (events ++ [event]).flatMap Event.handedOver := by
    simp [handed]
  obtain ⟨enqueued, query⟩ := handedOver_enqueued after late
  have total := occupancy_total after enqueued query
  have now : 0 < (event.dispatched.map Finished.ticket).count done.ticket +
      (event.returned.map Finished.ticket).count done.ticket := by
    cases event <;> simp only [Event.handedOver, List.not_mem_nil, List.mem_singleton] at handed <;>
      simp [Event.dispatched, Event.returned, handed]
  intro again
  obtain ⟨earlier, present, same⟩ := List.mem_map.mp again
  have before : 0 < ((events.flatMap Event.dispatched).map Finished.ticket).count done.ticket +
      ((events.flatMap Event.returned).map Finished.ticket).count done.ticket := by
    rw [← same]
    rcases mem_handedOver.mp present with dispatched | returned
    · have counted := List.count_pos_iff.mpr (List.mem_map_of_mem (f := Finished.ticket) dispatched)
      omega
    · have counted := List.count_pos_iff.mpr (List.mem_map_of_mem (f := Finished.ticket) returned)
      omega
  simp only [occupancy, List.flatMap_append, List.flatMap_singleton, List.map_append, List.count_append] at total
  omega

namespace Journal

/-- Every enqueued job that has not been handed over has a note. -/
def Complete (journal : Journal κ α) : Prop :=
  ∃ events, Run (Steps Engine.step) {} events journal.engine ∧
    ∀ ticket ∈ events.flatMap Event.enqueued, ticket ∉ (events.flatMap Event.handedOver).map Finished.ticket →
      ∃ note, (ticket, note) ∈ journal.notes

variable {journal next : Journal κ α} {note : Ticket κ → α} {event : Event κ}

theorem complete_initial : Complete ({} : Journal κ α) :=
  ⟨[], .refl, fun _ enqueued => absurd enqueued List.not_mem_nil⟩

theorem complete_step (complete : journal.Complete) (stepped : journal.step note event = some next) :
    next.Complete := by
  obtain ⟨events, run, noted⟩ := complete
  obtain ⟨engine, moved, rfl⟩ := Option.map_eq_some_iff.mp stepped
  refine ⟨_, run.snoc moved, ?_⟩
  intro ticket enqueued kept
  simp only [List.flatMap_append, List.flatMap_singleton, List.map_append, List.mem_append, not_or] at enqueued kept
  rcases enqueued with earlier | new
  · obtain ⟨value, present⟩ := noted ticket earlier kept.1
    exact ⟨value, List.mem_filter.mpr ⟨List.mem_append_left _ present, by simpa using kept.2⟩⟩
  · have taken := List.mem_map_of_mem (f := fun ticket => (ticket, note ticket)) new
    exact ⟨note ticket, List.mem_filter.mpr ⟨List.mem_append_right _ taken, by simpa using kept.2⟩⟩

theorem noteOf_handedOver (complete : journal.Complete) (stepped : journal.step note event = some next)
    {done : Finished κ} (handed : done ∈ event.handedOver) :
    ∃ value, journal.noteOf done.ticket = some value ∧ (done.ticket, value) ∈ journal.notes ∧
      done.ticket.isQuery = true := by
  obtain ⟨events, run, noted⟩ := complete
  obtain ⟨engine, moved, rfl⟩ := Option.map_eq_some_iff.mp stepped
  have after : Run (Steps Engine.step) {} (events ++ [event]) engine := run.snoc moved
  have listed : done ∈ (events ++ [event]).flatMap Event.handedOver := by
    simp [handed]
  obtain ⟨enqueued, query⟩ := handedOver_enqueued after listed
  have quiet : event.enqueued = [] := by
    cases event <;> first | rfl | cases handed
  simp only [List.flatMap_append, List.flatMap_singleton, quiet, List.append_nil] at enqueued
  obtain ⟨value, present⟩ := noted _ enqueued (handedOver_once run moved handed)
  cases found : journal.notes.find? (·.1 = done.ticket) with
  | none => simpa using List.find?_eq_none.mp found _ present
  | some entry =>
    have same : entry.1 = done.ticket := by simpa using List.find?_some found
    refine ⟨entry.2, by simp [noteOf, found], ?_, query⟩
    rw [← same]
    exact List.mem_of_find?_eq_some found

theorem mem_notes_step (stepped : journal.step note event = some next) {ticket : Ticket κ} {value : α}
    (present : (ticket, value) ∈ next.notes) :
    (ticket, value) ∈ journal.notes ∨ ticket ∈ event.enqueued ∧ value = note ticket := by
  obtain ⟨engine, moved, rfl⟩ := Option.map_eq_some_iff.mp stepped
  have listed := (List.mem_filter.mp present).1
  rcases List.mem_append.mp listed with old | new
  · exact Or.inl old
  · obtain ⟨_, enqueued, same⟩ := List.mem_map.mp new
    cases same
    exact Or.inr ⟨enqueued, rfl⟩

end Journal
end OmpMySQL.Engine
