import OmpMySQL.Library.Transition

/-! Runs that spend. When every step of some kind costs part of a budget that no step adds
to, a run has no more steps of the kind than the budget it started with. -/

namespace OmpMySQL.Library

universe u v
variable {σ : Type u} {ε : Type v} {moves : σ → ε → σ → Prop} {start : σ}

/-- One step pays for itself. -/
def Pays (costs : ε → Bool) (budget : σ → Nat) (before : σ) (event : ε) (after : σ) : Prop :=
  budget after + (costs event).toNat ≤ budget before

theorem Run.within_budget {costs : ε → Bool} {budget : σ → Nat}
    (law : ∀ before event after, moves before event after → Pays costs budget before event after)
    {events : List ε} {state : σ} (run : Run moves start events state) :
    budget state + events.countP costs ≤ budget start := by
  induction run with
  | refl => exact Nat.le_refl _
  | @snoc events before event after _ move ih =>
    have paid := law before event after move
    have last : [event].countP costs = (costs event).toNat := by
      cases here : costs event <;> simp [here]
    rw [Pays] at paid
    rw [List.countP_append, last]
    omega

/-- Something held is let go within its budget, or is still held with what is left of it. -/
theorem Run.within_patience {costs : ε → Bool} {holds : Nat → σ → Prop} {released : List ε → σ → Prop} {turns : Nat}
    (spend : ∀ rest events before event after, holds rest before → moves before event after →
      (∃ less, holds less after ∧ less + (costs event).toNat ≤ rest) ∨ released (events ++ [event]) after)
    (stay : ∀ events before event after, released events before → moves before event after →
      released (events ++ [event]) after)
    (initial : holds turns start) {events : List ε} {state : σ} (run : Run moves start events state) :
    (∃ rest, holds rest state ∧ rest + events.countP costs ≤ turns) ∨ released events state := by
  induction run with
  | refl => exact Or.inl ⟨turns, initial, Nat.le_refl _⟩
  | @snoc events before event after _ move ih =>
    rcases ih with ⟨rest, held, within⟩ | gone
    · rcases spend rest events before event after held move with ⟨less, still, paid⟩ | gone
      · have last : [event].countP costs = (costs event).toNat := by
          cases here : costs event <;> simp [here]
        refine Or.inl ⟨less, still, ?_⟩
        rw [List.countP_append, last]
        omega
      · exact Or.inr gone
    · exact Or.inr (stay events before event after gone move)

end OmpMySQL.Library
