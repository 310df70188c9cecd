import Mathlib.Data.List.Basic

/-! Lanes in one queue. Every item has a lane, and of each lane the oldest item goes first;
what goes is the first of its lane, and no other lane notices. -/

namespace OmpMySQL.Library

universe u v
variable {α : Type u} {ι : Type v} [DecidableEq ι] (lane : α → ι)

def onLane (i : ι) (items : List α) : List α := items.filter fun item => lane item = i

/-- What is left when the oldest item of a lane has gone. -/
def withoutOldest (i : ι) (items : List α) : List α := items.eraseP fun item => lane item = i

variable {lane} {i other : ι} {item : α} {items : List α}

@[simp] theorem onLane_append (more : List α) : onLane lane i (items ++ more) = onLane lane i items ++ onLane lane i more :=
  List.filter_append ..

@[simp] theorem onLane_singleton : onLane lane i [item] = if lane item = i then [item] else [] := by
  by_cases same : lane item = i <;> simp [onLane, same]

variable (oldest : items.find? (fun item => lane item = i) = some item)
include oldest

theorem oldest_lane : lane item = i := of_decide_eq_true (List.find?_some oldest :)

/-- What goes first of a lane has only items of other lanes before it. -/
theorem oldest_split : ∃ before after, items = before ++ item :: after ∧ withoutOldest lane i items = before ++ after ∧
    onLane lane i before = [] := by
  have here := oldest_lane oldest
  obtain ⟨_, before, after, rfl, others⟩ := List.find?_eq_some_iff_append.mp oldest
  have absent : ∀ earlier ∈ before, ¬ decide (lane earlier = i) = true := by
    intro earlier member
    simpa using others earlier member
  refine ⟨before, after, rfl, ?_, List.filter_eq_nil_iff.mpr absent⟩
  rw [withoutOldest, List.eraseP_append_right _ absent]
  simp [here]

theorem onLane_oldest : onLane lane i items = item :: onLane lane i (withoutOldest lane i items) := by
  have here := oldest_lane oldest
  obtain ⟨before, after, rfl, rest, none⟩ := oldest_split oldest
  rw [rest, onLane_append, onLane_append, none]
  simp [onLane, here]

theorem onLane_other (apart : other ≠ i) : onLane lane other (withoutOldest lane i items) = onLane lane other items := by
  have here := oldest_lane oldest
  obtain ⟨before, after, rfl, rest, _⟩ := oldest_split oldest
  have skip : ¬ lane item = other := fun same => apart (same.symm.trans here)
  rw [rest]
  simp [onLane, skip]

end OmpMySQL.Library
