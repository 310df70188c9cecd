/-! Tables of objects under integer handles that count up. A handle is never given
out twice by one table, so one that stops denoting its object denotes nothing. -/

namespace OmpMySQL.Library

universe u
variable {α : Type u}

structure Registry (α : Type u) where
  next : Int
  entries : List (Int × α)
  positive : 1 ≤ next
  issued : ∀ entry ∈ entries, 1 ≤ entry.1 ∧ entry.1 < next

/-- The handles given out before `next`. -/
theorem mem_given {next handle : Int} :
    handle ∈ (List.range (next - 1).toNat).map (fun below : Nat => (below : Int) + 1) ↔ 1 ≤ handle ∧ handle < next := by
  rw [List.mem_map]
  constructor
  · intro ⟨below, member, same⟩
    rw [List.mem_range] at member
    omega
  · intro issued
    exact ⟨(handle - 1).toNat, List.mem_range.mpr (by omega), by omega⟩

namespace Registry

def empty : Registry α where
  next := 1
  entries := []
  positive := Int.le_refl 1
  issued _ present := absurd present List.not_mem_nil

def add (registry : Registry α) (value : α) : Registry α where
  next := registry.next + 1
  entries := registry.entries ++ [(registry.next, value)]
  positive := Int.le_trans registry.positive (Int.le_add_one (Int.le_refl _))
  issued entry present := by
    have positive := registry.positive
    rcases List.mem_append.mp present with old | new
    · have issued := registry.issued entry old
      omega
    · cases List.mem_singleton.mp new
      omega

def erase (registry : Registry α) (handle : Int) : Registry α where
  next := registry.next
  entries := registry.entries.filter (·.1 ≠ handle)
  positive := registry.positive
  issued entry present := registry.issued entry (List.mem_filter.mp present).1

def find (registry : Registry α) (handle : Int) : Option α := registry.entries.lookup handle

variable (registry : Registry α) (value : α) (handle other : Int)

theorem lookup_eq_none {entries : List (Int × α)} (absent : ∀ entry ∈ entries, entry.1 ≠ handle) :
    entries.lookup handle = none := by
  induction entries with
  | nil => rfl
  | cons entry rest ih =>
    have apart : (handle == entry.1) = false := beq_false_of_ne (Ne.symm (absent entry List.mem_cons_self))
    rw [List.lookup_cons, apart]
    exact ih (fun entry present => absent entry (List.mem_cons_of_mem _ present))

theorem find_unissued (unissued : handle < 1 ∨ registry.next ≤ handle) : registry.find handle = none := by
  apply lookup_eq_none
  intro entry present
  have issued := registry.issued entry present
  omega

theorem issued_of_find {registry : Registry α} {handle : Int} (found : registry.find handle ≠ none) :
    1 ≤ handle ∧ handle < registry.next := by
  by_cases issued : 1 ≤ handle ∧ handle < registry.next
  · exact issued
  · exact absurd (registry.find_unissued handle (by omega)) found

theorem find_add (issued : handle < registry.next) : (registry.add value).find handle = registry.find handle := by
  have apart : (handle == registry.next) = false := beq_false_of_ne (by omega)
  show (registry.entries ++ [(registry.next, value)]).lookup handle = registry.entries.lookup handle
  induction registry.entries with
  | nil => simp [List.lookup_cons, apart]
  | cons entry rest ih =>
    obtain ⟨key, held⟩ := entry
    simp only [List.cons_append, List.lookup_cons]
    rw [ih]

theorem find_erase : (registry.erase handle).find other = if other = handle then none else registry.find other := by
  by_cases same : other = handle
  · subst same
    rw [if_pos rfl]
    apply lookup_eq_none
    intro entry present
    simpa using (List.mem_filter.mp present).2
  · rw [if_neg same]
    show (registry.entries.filter (·.1 ≠ handle)).lookup other = registry.entries.lookup other
    induction registry.entries with
    | nil => rfl
    | cons entry rest ih =>
      obtain ⟨key, held⟩ := entry
      by_cases here : key = handle
      · have apart : (other == key) = false := beq_false_of_ne (by omega)
        rw [List.filter_cons_of_neg (by simpa using here), List.lookup_cons, apart]
        exact ih
      · rw [List.filter_cons_of_pos (by simpa using here), List.lookup_cons, List.lookup_cons, ih]

/-- A handle given out earlier denotes what it did then, or nothing any more. -/
structure Keeps (registry : Registry α) (handle : Int) (held : Option α) : Prop where
  issued : handle < registry.next
  same : registry.find handle = none ∨ registry.find handle = held

variable {registry value handle} {held : Option α}

theorem Keeps.add (keeps : registry.Keeps handle held) : (registry.add value).Keeps handle held where
  issued := Int.lt_trans keeps.issued (Int.lt_add_one_iff.mpr (Int.le_refl _))
  same := by
    rw [find_add registry value handle keeps.issued]
    exact keeps.same

theorem Keeps.erase (keeps : registry.Keeps handle held) : (registry.erase other).Keeps handle held where
  issued := keeps.issued
  same := by
    rw [find_erase]
    split
    next => exact Or.inl rfl
    next => exact keeps.same

end Registry
end OmpMySQL.Library
