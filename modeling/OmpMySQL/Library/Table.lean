import Mathlib.Data.Set.Insert
import Mathlib.Logic.Function.Basic

/-! Finite maps as partial functions, with the set of their keys. -/

namespace OmpMySQL.Library

universe u v w

abbrev Table (κ : Type u) (α : Type v) := κ → Option α

namespace Table

variable {κ : Type u} {α : Type v}

def empty : Table κ α := fun _ => none

def keys (table : Table κ α) : Set κ := { key | (table key).isSome }

theorem mem_keys {table : Table κ α} {key : κ} : key ∈ table.keys ↔ (table key).isSome := Iff.rfl

theorem mem_keys_of_eq {table : Table κ α} {key : κ} {value : α} (found : table key = some value) :
    key ∈ table.keys := by
  simp [mem_keys, found]

theorem not_mem_keys {table : Table κ α} {key : κ} : key ∉ table.keys ↔ table key = none := by
  simp [mem_keys]

@[simp] theorem keys_empty : (empty : Table κ α).keys = ∅ := by
  ext key
  simp [mem_keys, empty]

variable [DecidableEq κ] (table : Table κ α) (key other : κ) (value : α)

def put : Table κ α := Function.update table key (some value)

def erase : Table κ α := Function.update table key none

/-- Keeps an entry that is already there. -/
def emplace : Table κ α := Function.update table key ((table key).or (some value))

@[simp] theorem put_same : table.put key value key = some value := Function.update_self ..

theorem put_other (apart : other ≠ key) : table.put key value other = table other :=
  Function.update_of_ne apart ..

@[simp] theorem erase_same : table.erase key key = none := Function.update_self ..

theorem erase_other (apart : other ≠ key) : table.erase key other = table other :=
  Function.update_of_ne apart ..

theorem put_eq_self {table : Table κ α} {key : κ} {value : α} (found : table key = some value) :
    table.put key value = table := by
  rw [put, ← found, Function.update_eq_self]

theorem emplace_absent {table : Table κ α} {key : κ} (absent : table key = none) (value : α) :
    table.emplace key value = table.put key value := by
  simp only [emplace, put, absent, Option.none_or]

theorem emplace_eq_some {table : Table κ α} {key other : κ} {value found : α}
    (present : table.emplace key value other = some found) : table other = some found ∨ found = value := by
  by_cases same : other = key
  · subst same
    simp only [emplace, Function.update_self, Option.or_eq_some_iff, Option.some.injEq] at present
    exact present.imp_right (fun added => added.2.symm)
  · simp only [emplace, Function.update_of_ne same] at present
    exact Or.inl present

theorem emplace_kept {table : Table κ α} {other : κ} {found : α} (present : table other = some found) (key : κ)
    (value : α) : table.emplace key value other = some found := by
  by_cases same : other = key
  · subst same
    simp [emplace, present]
  · simp [emplace, same, present]

theorem keys_put : (table.put key value).keys = insert key table.keys := by
  ext other
  by_cases same : other = key
  · subst same
    simp [mem_keys]
  · simp [mem_keys, put_other table key other value same, same]

theorem keys_emplace : (table.emplace key value).keys = insert key table.keys := by
  ext other
  by_cases same : other = key
  · subst same
    simp [mem_keys, emplace]
  · simp [mem_keys, emplace, same]

theorem keys_erase : (table.erase key).keys = table.keys \ {key} := by
  ext other
  by_cases same : other = key
  · subst same
    simp [mem_keys]
  · simp [mem_keys, erase_other table key other same, same]

variable {table key other value}

theorem erase_eq_some {found : α} : table.erase key other = some found ↔ other ≠ key ∧ table other = some found := by
  by_cases same : other = key
  · subst same
    simp
  · simp [erase_other table key other same, same]

theorem put_eq_some {found : α} :
    table.put key value other = some found ↔ other = key ∧ value = found ∨ other ≠ key ∧ table other = some found := by
  by_cases same : other = key
  · subst same
    simp
  · simp [put_other table key other value same, same]

/-- No two entries have one mark. -/
def Apart {β : Type w} (mark : α → β) (table : Table κ α) : Prop :=
  ∀ first second held found, table first = some held → table second = some found → mark held = mark found →
    first = second

omit [DecidableEq κ] in
theorem Apart.within {β : Type w} {mark : α → β} {more : Table κ α} (apart : Apart mark more)
    (fewer : ∀ key value, table key = some value → more key = some value) : Apart mark table :=
  fun first second held found here there => apart first second held found (fewer _ _ here) (fewer _ _ there)

theorem Apart.put {β : Type w} {mark : α → β} (apart : Apart mark table)
    (fresh : ∀ other found, table other = some found → mark found ≠ mark value) :
    Apart mark (table.put key value) := by
  intro first second held found here there same
  rcases put_eq_some.mp here with ⟨rfl, rfl⟩ | ⟨_, old⟩
  · rcases put_eq_some.mp there with ⟨rfl, _⟩ | ⟨_, other⟩
    · rfl
    · exact absurd same.symm (fresh second found other)
  · rcases put_eq_some.mp there with ⟨rfl, rfl⟩ | ⟨_, other⟩
    · exact absurd same (fresh first held old)
    · exact apart first second held found old other same

end Table
end OmpMySQL.Library
