import Mathlib.Algebra.Order.Group.Defs
import Mathlib.Order.Lattice

/-! Logs of times in order, pruned from their old end as a window slides over them. -/

namespace OmpMySQL.Library.Window

universe u
variable {α : Type u} [LinearOrder α]

def since (cutoff : α) (log : List α) : List α := log.dropWhile (· < cutoff)

/-- Pruning early changes nothing for a later cutoff. -/
theorem since_since {early late : α} (order : early ≤ late) (log : List α) :
    since late (since early log) = since late log := by
  induction log with
  | nil => rfl
  | cons time rest ih =>
    by_cases old : time < early
    · have gone : since early (time :: rest) = since early rest := List.dropWhile_cons_of_pos (by simpa using old)
      have later : since late (time :: rest) = since late rest :=
        List.dropWhile_cons_of_pos (by simpa using lt_of_lt_of_le old order)
      rw [gone, later, ih]
    · have kept : since early (time :: rest) = time :: rest := List.dropWhile_cons_of_neg (by simpa using old)
      rw [kept]

theorem since_eq_filter {log : List α} (sorted : log.Pairwise (· ≤ ·)) (cutoff : α) :
    since cutoff log = log.filter (cutoff ≤ ·) := by
  induction log with
  | nil => rfl
  | cons time rest ih =>
    obtain ⟨first, later⟩ := List.pairwise_cons.mp sorted
    by_cases old : time < cutoff
    · have gone : since cutoff (time :: rest) = since cutoff rest := List.dropWhile_cons_of_pos (by simpa using old)
      rw [gone, ih later, List.filter_cons_of_neg (by simpa using old)]
    · have kept : since cutoff (time :: rest) = time :: rest := List.dropWhile_cons_of_neg (by simpa using old)
      rw [kept, List.filter_eq_self.mpr]
      intro other present
      have recent := not_lt.mp old
      rcases List.mem_cons.mp present with rfl | inside
      · simpa using recent
      · simpa using le_trans recent (first other inside)

theorem sorted_since {log : List α} (sorted : log.Pairwise (· ≤ ·)) (cutoff : α) :
    (since cutoff log).Pairwise (· ≤ ·) :=
  sorted.sublist (List.dropWhile_sublist _)

theorem since_subset (cutoff : α) (log : List α) : since cutoff log ⊆ log := List.dropWhile_subset _

theorem sorted_append {log : List α} (sorted : log.Pairwise (· ≤ ·)) {now : α} (past : ∀ time ∈ log, time ≤ now) :
    (log ++ [now]).Pairwise (· ≤ ·) := by
  apply List.pairwise_append.mpr
  refine ⟨sorted, List.pairwise_singleton .., ?_⟩
  intro time present last member
  rw [List.mem_singleton.mp member]
  exact past time present

section Limiter
variable [AddCommGroup α] [IsOrderedAddMonoid α]

/-- The times of a log in a closed interval. -/
def within (first last : α) (log : List α) : List α := log.filter fun time => first ≤ time ∧ time ≤ last

/-- The log answers for a history as far as any window reaches that ends now or later. -/
def Covers (width now : α) (log history : List α) : Prop :=
  ∀ cutoff, now - width ≤ cutoff → since cutoff log = since cutoff history

variable {width earlier now : α} {log history : List α}

theorem Covers.later (covers : Covers width earlier log history) (order : earlier ≤ now) :
    Covers width now log history :=
  fun cutoff reached => covers cutoff (le_trans (sub_le_sub_right order width) reached)

omit [IsOrderedAddMonoid α] in
theorem Covers.pruned (covers : Covers width now log history) : Covers width now (since (now - width) log) history := by
  intro cutoff reached
  rw [since_since reached]
  exact covers cutoff reached

omit [IsOrderedAddMonoid α] in
theorem Covers.append (covers : Covers width now log history) (sorted : log.Pairwise (· ≤ ·))
    (ordered : history.Pairwise (· ≤ ·)) (logged : ∀ time ∈ log, time ≤ now) (past : ∀ time ∈ history, time ≤ now) :
    Covers width now (log ++ [now]) (history ++ [now]) := by
  intro cutoff reached
  have same := covers cutoff reached
  rw [since_eq_filter sorted, since_eq_filter ordered] at same
  rw [since_eq_filter (sorted_append sorted logged), since_eq_filter (sorted_append ordered past), List.filter_append,
    List.filter_append, same]

omit [IsOrderedAddMonoid α] in
/-- What a pruned log counts is the number of past times in the window. -/
theorem Covers.counts (covers : Covers width now log history) (ordered : history.Pairwise (· ≤ ·))
    (past : ∀ time ∈ history, time ≤ now) : since (now - width) log = within (now - width) now history := by
  rw [covers _ le_rfl, since_eq_filter ordered, within]
  apply List.filter_congr
  intro time present
  simp [past time present]

/-- No closed interval of the window's width holds more than the limit. -/
def Bounded (width : α) (limit : Nat) (history : List α) : Prop :=
  ∀ first, (within first (first + width) history).length ≤ limit

/-- Letting a time in while its window has room for it keeps every interval within
the limit: one that contains it reaches back no further than its window does. -/
theorem Bounded.append {limit : Nat} (bounded : Bounded width limit history) (past : ∀ time ∈ history, time ≤ now)
    (room : (within (now - width) now history).length < limit) : Bounded width limit (history ++ [now]) := by
  intro first
  rw [within, List.filter_append, List.length_append]
  by_cases inside : first ≤ now ∧ now ≤ first + width
  · have reaches : now - width ≤ first := sub_le_iff_le_add.mpr inside.2
    have fewer : (within first (first + width) history).length ≤ (within (now - width) now history).length := by
      rw [within, within, ← List.countP_eq_length_filter, ← List.countP_eq_length_filter]
      apply List.countP_mono_left
      intro time present counted
      have later := (of_decide_eq_true counted).1
      exact decide_eq_true ⟨le_trans reaches later, past time present⟩
    have one : ([now].filter fun time => first ≤ time ∧ time ≤ first + width).length ≤ 1 := List.length_filter_le ..
    rw [within] at fewer
    omega
  · have none : [now].filter (fun time => first ≤ time ∧ time ≤ first + width) = [] := by simp [inside]
    rw [none, List.length_nil, Nat.add_zero]
    exact bounded first

end Limiter

end OmpMySQL.Library.Window
