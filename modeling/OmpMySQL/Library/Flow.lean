import OmpMySQL.Library.Transition

/-! First-in first-out flow. A buffer stands between the events that fill it and
the events that empty it; if every step conserves what has passed through, then
so does every run, and nothing overtakes, vanishes or is passed on twice. -/

namespace OmpMySQL.Library

universe u v w
variable {σ : Type u} {ε : Type v} {α : Type w}
  {moves : σ → ε → σ → Prop} {start : σ}

/-- One step conserves: what leaves, followed by what stays, is what was there,
followed by what arrives. -/
def Conserves (buffer : σ → List α) (input output : ε → List α) (before : σ) (event : ε) (after : σ) : Prop :=
  output event ++ buffer after = buffer before ++ input event

theorem Run.conserved {buffer : σ → List α} {input output : ε → List α} {valid : σ → Prop}
    (empty : buffer start = []) (initial : valid start)
    (kept : ∀ before event after, valid before → moves before event after → valid after)
    (law : ∀ before event after, valid before → moves before event after →
      Conserves buffer input output before event after)
    {events : List ε} {state : σ} (run : Run moves start events state) :
    events.flatMap output ++ buffer state = events.flatMap input := by
  induction run with
  | refl => simpa using empty
  | @snoc events before event after earlier move ih =>
    have step := law _ _ _ (earlier.invariant initial kept) move
    simp only [List.flatMap_append, List.flatMap_singleton, List.append_assoc]
    rw [step, ← List.append_assoc, ih]

theorem passed_in_order {passed buffer arrived : List α} (flow : passed ++ buffer = arrived) : passed <+: arrived :=
  ⟨buffer, flow⟩

theorem mem_prefix_of_lt {rank : α → Nat} {passed arrived : List α} (reached : passed <+: arrived)
    (ordered : arrived.Pairwise (fun first second => rank first < rank second))
    {first second : α} (before : rank first < rank second) (member : first ∈ arrived)
    (present : second ∈ passed) : first ∈ passed := by
  obtain ⟨rest, rfl⟩ := reached
  rcases List.mem_append.mp member with inside | beyond
  · exact inside
  · have after := (List.pairwise_append.mp ordered).2.2 second present first beyond
    omega

/-- Two things that arrived are related the one way or the other. -/
theorem related_or {related : α → α → Prop} {arrived : List α} (ordered : arrived.Pairwise related) {first second : α}
    (here : first ∈ arrived) (there : second ∈ arrived) :
    first = second ∨ related first second ∨ related second first := by
  obtain ⟨before, later, rfl⟩ := List.append_of_mem there
  obtain ⟨_, tail, across⟩ := List.pairwise_append.mp ordered
  rcases List.mem_append.mp here with earlier | rest
  · exact Or.inr (Or.inl (across first earlier second List.mem_cons_self))
  · rcases List.mem_cons.mp rest with rfl | after
    · exact Or.inl rfl
    · exact Or.inr (Or.inr ((List.pairwise_cons.mp tail).1 first after))

section Held
variable {rank : α → Nat} {passed held arrived : List α} (reached : passed ++ held <+: arrived)
include reached

theorem mem_arrived_of_held {item : α} (present : item ∈ held) : item ∈ arrived :=
  reached.subset (List.mem_append_right _ present)

theorem not_passed_of_held (distinct : arrived.Nodup) {item : α} (present : item ∈ held) : item ∉ passed := by
  intro gone
  exact (List.nodup_append.mp (distinct.sublist reached.sublist)).2.2 item gone item present rfl

/-- What arrived before the only item held has passed. -/
theorem passed_of_lt (ordered : arrived.Pairwise (fun first second => rank first < rank second)) {first second : α}
    (before : rank first < rank second) (member : first ∈ arrived) (present : second ∈ held)
    (only : ∀ other ∈ held, other = second) : first ∈ passed := by
  have inside := mem_prefix_of_lt reached ordered before member (List.mem_append_right _ present)
  rcases List.mem_append.mp inside with gone | still
  · exact gone
  · rw [only first still] at before
    omega

end Held
end OmpMySQL.Library
