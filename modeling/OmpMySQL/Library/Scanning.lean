import Mathlib.Data.List.Forall2

/-! Loops over a text that look one character ahead and may step over it. What a loop
finds, and whether two loops stay in step, is read off their visits. -/

namespace OmpMySQL.Library.Scanning

universe u v w

/-- What one turn of the loop does. `hit` marks the turns the loop is after. -/
structure Turn (σ : Type u) where
  state : σ
  skip : Bool := false
  hit : Bool := false
  deriving DecidableEq, Repr

/-- Where a turn stands, what it reads there, the state it begins in, and its hit. -/
structure Visit (σ : Type u) (α : Type v) where
  position : Nat
  char : α
  state : σ
  hit : Bool
  deriving DecidableEq, Repr

variable {α : Type u} {σ : Type v} {τ : Type w}

/-- The turns of a loop that stands at `position`. `ending` is what a look past the
end of the text yields, and `skip` a character still to be stepped over. -/
def visits (body : σ → α → α → Turn σ) (ending : α) (position : Nat) (state : σ) (skip : Bool) :
    List α → List (Visit σ α)
  | [] => []
  | char :: rest =>
    let turn := body state char (rest.head?.getD ending)
    if skip then visits body ending (position + 1) state false rest
    else ⟨position, char, state, turn.hit⟩ :: visits body ending (position + 1) turn.state turn.skip rest

variable {body : σ → α → α → Turn σ} {ending : α}

theorem visits_skip (position : Nat) (state : σ) (char : α) (rest : List α) :
    visits body ending position state true (char :: rest) = visits body ending (position + 1) state false rest := rfl

theorem visits_cons (position : Nat) (state : σ) (char : α) (rest : List α) :
    visits body ending position state false (char :: rest) =
      ⟨position, char, state, (body state char (rest.head?.getD ending)).hit⟩ ::
        visits body ending (position + 1) (body state char (rest.head?.getD ending)).state
          (body state char (rest.head?.getD ending)).skip rest := rfl

theorem visits_hit (text : List α) (position : Nat) (state : σ) (skip : Bool) :
    ∀ visit ∈ visits body ending position state skip text,
      ∃ next, visit.hit = (body visit.state visit.char next).hit := by
  induction text generalizing position state skip with
  | nil => exact fun _ absent => absurd absent List.not_mem_nil
  | cons char rest ih =>
    cases skip with
    | true =>
      rw [visits_skip]
      exact ih (position + 1) state false
    | false =>
      rw [visits_cons]
      intro visit present
      rcases List.mem_cons.mp present with rfl | later
      · exact ⟨rest.head?.getD ending, rfl⟩
      · exact ih _ _ _ visit later

/-- Related states move to related states, stepping over the same characters. -/
def InStep (relation : σ → τ → Prop) (left : σ → α → α → Turn σ) (right : τ → α → α → Turn τ) : Prop :=
  ∀ state other, relation state other → ∀ char next,
    relation (left state char next).state (right other char next).state ∧
      (left state char next).skip = (right other char next).skip

/-- Two visits of one place, in related states. -/
structure Alike (relation : σ → τ → Prop) (first : Visit σ α) (second : Visit τ α) : Prop where
  position : first.position = second.position
  char : first.char = second.char
  state : relation first.state second.state

theorem InStep.visits {relation : σ → τ → Prop} {left : σ → α → α → Turn σ} {right : τ → α → α → Turn τ}
    (inStep : InStep relation left right) (text : List α) (position : Nat) {state : σ} {other : τ} (skip : Bool)
    (related : relation state other) :
    List.Forall₂ (Alike relation) (visits left ending position state skip text)
      (visits right ending position other skip text) := by
  induction text generalizing position state other skip with
  | nil => exact .nil
  | cons char rest ih =>
    cases skip with
    | true =>
      rw [visits_skip, visits_skip]
      exact ih (position + 1) false related
    | false =>
      obtain ⟨kept, same⟩ := inStep state other related char (rest.head?.getD ending)
      rw [visits_cons, visits_cons, same]
      exact .cons ⟨rfl, rfl, related⟩ (ih (position + 1) _ kept)

theorem countP_related {first : List σ} {second : List τ} {relation : σ → τ → Prop} {counted : σ → Bool}
    {other : τ → Bool} (related : List.Forall₂ relation first second)
    (same : ∀ left right, relation left right → counted left = other right) :
    first.countP counted = second.countP other := by
  induction related with
  | nil => rfl
  | cons head _ ih => rw [List.countP_cons, List.countP_cons, same _ _ head, ih]

end OmpMySQL.Library.Scanning
