import OmpMySQL.Sessions
import OmpMySQL.Proofs.JournalNotes
import OmpMySQL.Proofs.Upcalls

/-! Player-bound callbacks across sessions. The check at dispatch sees whoever
holds the id by then, so it is only as good as the slot is not given away. -/

namespace OmpMySQL.Sessions
open Library Engine

variable {κ : Type} [DecidableEq κ] {strtof : String → Cell} {state next : State κ} {event : Event κ}

/-- An id is given to a new player only when no job in flight is bound to it. -/
def ReusesIdleIds (state : State κ) : Event κ → Prop
  | .connect player => ∀ entry ∈ state.journal.notes, entry.1.job.boundPlayer ≠ player
  | _ => True

instance (state : State κ) (event : Event κ) : Decidable (ReusesIdleIds state event) :=
  match event with
  | .connect _ => inferInstanceAs (Decidable (∀ entry ∈ _, _))
  | .engine _ | .disconnect _ | .loadScripts _ => inferInstanceAs (Decidable True)

/-- The id a job is bound to is held as it was when the job was enqueued, or by
nobody. -/
def Steady (players : Int → Option Nat) (notes : List (Ticket κ × Option Nat)) : Prop :=
  ∀ entry ∈ notes, entry.2 = players entry.1.job.boundPlayer ∨ players entry.1.job.boundPlayer = none

structure Sound (state : State κ) : Prop where
  complete : state.journal.Complete
  steady : Steady state.players state.journal.notes
  kept : NeverCrosses state

theorem sound_initial (component : Component) : Sound ({ component } : State κ) where
  complete := Journal.complete_initial
  steady _ present := absurd present List.not_mem_nil
  kept _ present := absurd present List.not_mem_nil

theorem player_present {component : Component} {job : QueryJob} {call : Invocation}
    (made : call ∈ (component.dispatchJob strtof job).calls) (callback : call.upcall = .callback) :
    component.boundPlayerGone job = false := by
  cases Component.calls_of_mem made with
  | executeHook => cases callback
  | errorHook => cases callback
  | callback _ _ present => exact present

theorem dispatch_kept (kept : NeverCrosses state) {done : Finished κ} {held : Option Nat}
    (noted : state.journal.noteOf done.ticket = some held)
    (steady : held = state.players done.ticket.job.boundPlayer ∨ state.players done.ticket.job.boundPlayer = none) :
    NeverCrosses (state.dispatch strtof done) := by
  intro call present bound
  simp only [State.dispatch] at present
  rcases List.mem_append.mp present with earlier | last
  · exact kept call earlier bound
  · split at last
    next ran =>
      obtain ⟨made, listed, upcall⟩ := List.any_eq_true.mp ran
      have staying := player_present listed (by simpa using upcall)
      cases List.mem_singleton.mp last
      simp only [noted, Option.join_some]
      have here : ∃ session, state.players done.ticket.job.boundPlayer = some session := by
        apply Option.ne_none_iff_exists'.mp
        intro absent
        have gone : (decide (0 ≤ done.ticket.job.boundPlayer) &&
            (state.players done.ticket.job.boundPlayer).isNone) = false := staying
        simp [absent, bound] at gone
      obtain ⟨session, holds⟩ := here
      refine ⟨session, ?_, holds⟩
      rcases steady with same | absent
      · rw [same, holds]
      · rw [holds] at absent
        cases absent
    next => cases last

theorem sound_step (sound : Sound state) (idle : ReusesIdleIds state event)
    (stepped : step strtof state event = some next) : Sound next := by
  cases event with
  | engine event =>
    obtain ⟨journal, moved, rfl⟩ := Option.map_eq_some_iff.mp stepped
    have complete := Journal.complete_step sound.complete moved
    have steady : Steady state.players journal.notes := by
      intro entry present
      rcases Journal.mem_notes_step moved present with old | ⟨_, same⟩
      · exact sound.steady entry old
      · exact Or.inl same
    rcases handedOver_cases event with none_handed | ⟨done, handed⟩
    · rw [none_handed]
      exact ⟨complete, steady, sound.kept⟩
    · obtain ⟨held, noted, present, _⟩ :=
        Journal.noteOf_handedOver sound.complete moved (handed ▸ List.mem_singleton.mpr rfl)
      rw [handed]
      exact ⟨complete, steady, dispatch_kept sound.kept noted (sound.steady _ present)⟩
  | connect player =>
    simp only [step, Option.ite_none_right_eq_some, Option.some.injEq] at stepped
    obtain ⟨_, rfl⟩ := stepped
    refine ⟨sound.complete, ?_, sound.kept⟩
    intro entry present
    have apart := idle entry present
    simp only [apart, if_false]
    exact sound.steady entry present
  | disconnect player =>
    simp only [step, Option.ite_none_right_eq_some, Option.some.injEq] at stepped
    obtain ⟨_, rfl⟩ := stepped
    refine ⟨sound.complete, ?_, sound.kept⟩
    intro entry present
    by_cases left : entry.1.job.boundPlayer = player
    · exact Or.inr (if_pos left)
    · simp only [left, if_false]
      exact sound.steady entry present
  | loadScripts pawn =>
    simp only [step, Option.ite_none_right_eq_some, Option.some.injEq] at stepped
    obtain ⟨_, rfl⟩ := stepped
    exact ⟨sound.complete, sound.steady, sound.kept⟩

/-- Where no id with a bound query in flight goes to a new player, callbacks never
cross sessions. -/
theorem never_crosses (strtof : String → Cell) {component : Component} {events : List (Event κ)} {state : State κ}
    (run : Run (Guarded ReusesIdleIds (Steps (step strtof))) { component } events state) : NeverCrosses state :=
  (run.invariant (sound_initial component) (fun _ _ _ sound move => sound_step sound move.1 move.2)).kept

section SlotReuse

private def gamemode : AMX := { script := 0, publics := ["OnStats"] }

private def server : Component := { pawn := some { mainScript := some gamemode, distinct := by decide } }

private def noFloats : String → Cell := fun _ => 0

private def lookup : Ticket Nat := ⟨0, 1, executeForJob 1 "SELECT * FROM stats" "OnStats" [.int 7]⟩

private def found : Finished Nat := ⟨lookup, ⟨true, 0, "", {}⟩⟩

private def onEngine (events : List (Engine.Event Nat)) : List (Event Nat) := events.map .engine

private def before : List (Event Nat) :=
  .connect 7 :: onEngine [.create 1, .enqueue lookup, .count, .pop lookup, .send lookup]

private def after : List (Event Nat) := onEngine [.finish found, .deliver found, .drain, .dispatch found]

theorem callback_crosses : ¬ ∀ (strtof : String → Cell) (component : Component) (events : List (Event Nat))
    (state : State Nat), Run (Steps (step strtof)) { component } events state → NeverCrosses state := by
  intro always
  have executes : (exec (step noFloats) { component := server } (before ++ [.disconnect 7, .connect 7] ++ after)).isSome := by
    decide
  obtain ⟨state, done⟩ := Option.isSome_iff_exists.mp executes
  have crossed : (exec (step noFloats) { component := server } (before ++ [.disconnect 7, .connect 7] ++ after)).map
      (·.callbacks.map fun call => (call.ticket.job.boundPlayer, call.heldThen, call.heldNow)) =
        some [(7, some 0, some 1)] := by decide
  rw [done, Option.map_some, Option.some.injEq] at crossed
  obtain ⟨call, called, same⟩ := List.map_eq_singleton_iff.mp crossed
  have kept := always noFloats server _ state (Run.of_exec done) call (by simp [called])
  simp only [Prod.mk.injEq] at same
  obtain ⟨session, heldThen, heldNow⟩ := kept (by omega)
  rw [heldThen] at same
  rw [heldNow] at same
  simp at same
  omega

theorem never_crosses_staying : ∃ state,
    exec (guarded ReusesIdleIds (step noFloats)) { component := server } (before ++ after) = some state ∧
      NeverCrosses state := by
  have executes : (exec (guarded ReusesIdleIds (step noFloats)) { component := server } (before ++ after)).isSome := by
    decide
  obtain ⟨state, done⟩ := Option.isSome_iff_exists.mp executes
  exact ⟨state, done, never_crosses noFloats (Run.of_guarded_exec done)⟩

end SlotReuse
end OmpMySQL.Sessions
