import Mathlib.Data.List.Induction

/-! Finite runs of a labelled transition relation. Events are listed in the order
they happen, so a property of a run may speak about its history and its last
state at once. -/

namespace OmpMySQL.Library

universe u v w
variable {σ : Type u} {ε : Type v}

def Steps (step : σ → ε → Option σ) (before : σ) (event : ε) (after : σ) : Prop :=
  step before event = some after

def Guarded (allowed : σ → ε → Prop) (moves : σ → ε → σ → Prop) (before : σ) (event : ε) (after : σ) : Prop :=
  allowed before event ∧ moves before event after

inductive Run (moves : σ → ε → σ → Prop) (start : σ) : List ε → σ → Prop where
  | refl : Run moves start [] start
  | snoc {events state event after} :
      Run moves start events state → moves state event after → Run moves start (events ++ [event]) after

variable {moves : σ → ε → σ → Prop} {start : σ}

theorem Run.invariant {holds : σ → Prop} (initial : holds start)
    (kept : ∀ before event after, holds before → moves before event after → holds after)
    {events : List ε} {state : σ} (run : Run moves start events state) : holds state := by
  induction run with
  | refl => exact initial
  | snoc _ move ih => exact kept _ _ _ ih move

theorem Run.mono {other : σ → ε → σ → Prop}
    (implies : ∀ before event after, moves before event after → other before event after)
    {events : List ε} {state : σ} (run : Run moves start events state) : Run other start events state := by
  induction run with
  | refl => exact .refl
  | snoc _ move ih => exact ih.snoc (implies _ _ _ move)

theorem Run.unguarded {allowed : σ → ε → Prop} {events : List ε} {state : σ}
    (run : Run (Guarded allowed moves) start events state) : Run moves start events state :=
  run.mono (fun _ _ _ move => move.2)

theorem Run.trans {middle state : σ} {first rest : List ε}
    (run : Run moves start first middle) (more : Run moves middle rest state) :
    Run moves start (first ++ rest) state := by
  induction more with
  | refl => simpa using run
  | snoc _ move ih => simpa only [List.append_assoc] using ih.snoc move

theorem Run.unsnoc {events : List ε} {event : ε} {state : σ} (run : Run moves start (events ++ [event]) state) :
    ∃ middle, Run moves start events middle ∧ moves middle event state := by
  generalize whole : events ++ [event] = all at run
  cases run with
  | refl => simp at whole
  | snoc earlier move =>
    obtain ⟨rfl, last⟩ := List.append_inj' whole rfl
    cases last
    exact ⟨_, earlier, move⟩

theorem Run.split {first rest : List ε} {state : σ} (run : Run moves start (first ++ rest) state) :
    ∃ middle, Run moves start first middle ∧ Run moves middle rest state := by
  induction rest using List.reverseRecOn generalizing state with
  | nil => exact ⟨state, by simpa using run, .refl⟩
  | append_singleton rest event ih =>
    rw [← List.append_assoc] at run
    obtain ⟨before, earlier, move⟩ := run.unsnoc
    obtain ⟨middle, reached, onward⟩ := ih earlier
    exact ⟨middle, reached, onward.snoc move⟩

theorem Run.nil {state : σ} (run : Run moves start [] state) : state = start := by
  generalize none : ([] : List ε) = events at run
  cases run with
  | refl => rfl
  | snoc => simp at none

theorem Run.uncons {event : ε} {rest : List ε} {state : σ} (run : Run moves start (event :: rest) state) :
    ∃ middle, moves start event middle ∧ Run moves middle rest state := by
  rw [← List.singleton_append] at run
  obtain ⟨middle, first, onward⟩ := run.split
  rw [← List.nil_append [event]] at first
  obtain ⟨before, none, move⟩ := first.unsnoc
  rw [none.nil] at move
  exact ⟨middle, move, onward⟩

/-- A relation that every step carries over carries a whole run over. -/
theorem Run.simulated {τ : Type w} {other : τ → ε → τ → Prop} {relates : σ → τ → Prop} {twin : τ}
    (forward : ∀ before event after shadow, relates before shadow → moves before event after →
      ∃ next, other shadow event next ∧ relates after next)
    (related : relates start twin) {events : List ε} {state : σ} (run : Run moves start events state) :
    ∃ shadow, Run other twin events shadow ∧ relates state shadow := by
  induction run with
  | refl => exact ⟨twin, .refl, related⟩
  | snoc _ move ih =>
    obtain ⟨shadow, earlier, held⟩ := ih
    obtain ⟨next, follows, kept⟩ := forward _ _ _ _ held move
    exact ⟨next, earlier.snoc follows, kept⟩

def exec (step : σ → ε → Option σ) (state : σ) : List ε → Option σ
  | [] => some state
  | event :: events => (step state event).bind (fun after => exec step after events)

/-- A successful execution is a run, so a concrete run is checked by evaluation. -/
theorem Run.of_exec {step : σ → ε → Option σ} {events : List ε} {start state : σ}
    (done : exec step start events = some state) : Run (Steps step) start events state := by
  induction events generalizing start with
  | nil =>
    cases done
    exact .refl
  | cons event events ih =>
    obtain ⟨after, move, rest⟩ := Option.bind_eq_some_iff.mp done
    have first : Run (Steps step) start ([] ++ [event]) after := Run.refl.snoc move
    exact first.trans (ih rest)

def guarded (allowed : σ → ε → Prop) [∀ state event, Decidable (allowed state event)]
    (step : σ → ε → Option σ) (state : σ) (event : ε) : Option σ :=
  if allowed state event then step state event else none

theorem Run.of_guarded_exec {allowed : σ → ε → Prop} [∀ state event, Decidable (allowed state event)]
    {step : σ → ε → Option σ} {events : List ε} {start state : σ}
    (done : exec (guarded allowed step) start events = some state) :
    Run (Guarded allowed (Steps step)) start events state := by
  apply (Run.of_exec done).mono
  intro before event after move
  simp only [Steps, guarded, Option.ite_none_right_eq_some] at move
  exact move

end OmpMySQL.Library
