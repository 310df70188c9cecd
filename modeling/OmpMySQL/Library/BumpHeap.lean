import Mathlib

/-! A heap that is no more than its top. A call puts its blocks on it one after the
other and takes the top back down to each of them, the last one first. Calls nest, and
their blocks with them. -/

namespace OmpMySQL.Library.BumpHeap

universe u v
variable {α : Type u} {β : Type v}

/-- The top above some blocks, the last of which comes first. -/
def reserve (finish : α → β) (blocks : List α) (top : β) : β :=
  match blocks with
  | [] => top
  | last :: _ => finish last

/-- Taking a block back never raises the top. -/
def release [LinearOrder β] (start : α → β) (blocks : List α) (top : β) : β :=
  blocks.foldl (fun top block => if start block < top then start block else top) top

/-- Blocks that stand one on another from `base`. -/
inductive Laid [LT β] (start finish : α → β) (base : β) : List α → Prop where
  | nil : Laid start finish base []
  | cons {block blocks} (below : Laid start finish base blocks) (placed : start block = reserve finish blocks base)
      (room : start block < finish block) : Laid start finish base (block :: blocks)

/-- The blocks of nested calls, the innermost first, and the top above them. -/
inductive Nested [LT β] (start finish : α → β) (base : β) : List (List α) → β → Prop where
  | nil : Nested start finish base [] base
  | cons {frame frames top} (outer : Nested start finish base frames top) (laid : Laid start finish top frame) :
      Nested start finish base (frame :: frames) (reserve finish frame top)

theorem reserve_append (finish : α → β) (base : β) (above blocks : List α) :
    reserve finish (above ++ blocks) base = reserve finish above (reserve finish blocks base) := by
  cases above <;> rfl

variable [LinearOrder β] {start finish : α → β} {base top : β} {block : α} {blocks frame : List α} {frames : List (List α)}

theorem Laid.base_le (laid : Laid start finish base blocks) : base ≤ reserve finish blocks base := by
  induction laid with
  | nil => exact le_refl base
  | cons _ placed room ih =>
    rw [← placed] at ih
    exact le_of_lt (lt_of_le_of_lt ih room)

theorem Laid.release_reserve (laid : Laid start finish base blocks) :
    release start blocks (reserve finish blocks base) = base := by
  induction laid with
  | nil => rfl
  | cons _ placed room ih =>
    rw [release, List.foldl_cons]
    rw [reserve, if_pos room, placed]
    exact ih

theorem Laid.within (laid : Laid start finish base blocks) :
    ∀ block ∈ blocks, base ≤ start block ∧ finish block ≤ reserve finish blocks base := by
  induction laid with
  | nil => exact fun _ inside => absurd inside List.not_mem_nil
  | @cons last rest below placed room ih =>
    intro block inside
    rcases List.mem_cons.mp inside with rfl | earlier
    · exact ⟨placed ▸ below.base_le, le_refl _⟩
    · obtain ⟨low, high⟩ := ih block earlier
      rw [← placed] at high
      exact ⟨low, le_trans high (le_of_lt room)⟩

/-- A later block starts where the earlier ones have ended. -/
theorem Laid.apart (laid : Laid start finish base blocks) :
    blocks.Pairwise fun later earlier => finish earlier ≤ start later := by
  induction laid with
  | nil => exact List.Pairwise.nil
  | cons below placed _ ih =>
    refine List.pairwise_cons.mpr ⟨?_, ih⟩
    intro earlier inside
    rw [placed]
    exact (below.within earlier inside).2

theorem Laid.append (below : Laid start finish base blocks) {above : List α}
    (laid : Laid start finish (reserve finish blocks base) above) : Laid start finish base (above ++ blocks) := by
  induction laid with
  | nil => exact below
  | cons _ placed room ih => exact ih.cons (placed.trans (reserve_append ..).symm) room

/-- Nested calls use the heap as one call would. -/
theorem Nested.laid (nested : Nested start finish base frames top) :
    Laid start finish base frames.flatten ∧ top = reserve finish frames.flatten base := by
  induction nested with
  | nil => exact ⟨.nil, rfl⟩
  | @cons frame frames top _ laid ih =>
    obtain ⟨below, same⟩ := ih
    subst same
    rw [List.flatten_cons]
    exact ⟨below.append laid, (reserve_append ..).symm⟩

/-- What the innermost call gives back is what it took. -/
theorem Nested.returned (nested : Nested start finish base (frame :: frames) top) :
    Nested start finish base frames (release start frame top) := by
  cases nested with
  | cons outer laid =>
    rw [laid.release_reserve]
    exact outer

theorem Nested.top_of_empty (nested : Nested start finish base [] top) : top = base := by
  cases nested
  rfl

end OmpMySQL.Library.BumpHeap
