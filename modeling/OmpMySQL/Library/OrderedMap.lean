import Mathlib.Data.List.Nodup

/-! Finite maps as lists in which every value carries its own key. A value with a key that
is there takes the place of the one before it, and other values come last. -/

namespace OmpMySQL.Library

universe u v

namespace OrderedMap

variable {κ : Type u} {α : Type v} [DecidableEq κ] (name : α → κ)

def put (value : α) (items : List α) : List α :=
  if items.any (name · = name value) then items.set (items.findIdx (name · = name value)) value
  else items ++ [value]

def remove (key : κ) (items : List α) : List α := items.eraseP (name · = key)

variable {name} {value : α} {items : List α} {key : κ}

theorem put_nil : put name value [] = [value] := rfl

theorem put_cons {item : α} :
    put name value (item :: items) = if name item = name value then value :: items else item :: put name value items := by
  by_cases same : name item = name value
  · simp [put, same, List.findIdx_cons]
  · by_cases present : items.any (name · = name value)
    · simp only [put, List.any_cons, present, Bool.or_true, if_true, List.findIdx_cons, same, decide_false, cond_false,
        List.set_cons_succ, if_false]
    · simp only [put, List.any_cons, present, same, decide_false, Bool.or_self, Bool.false_eq_true, if_false,
        List.cons_append]

theorem names_put :
    (put name value items).map name =
      if name value ∈ items.map name then items.map name else items.map name ++ [name value] := by
  induction items with
  | nil => rfl
  | cons item rest ih =>
    rw [put_cons]
    by_cases same : name item = name value
    · simp [same]
    · rw [if_neg same, List.map_cons, ih, List.map_cons]
      by_cases present : name value ∈ rest.map name
      · rw [if_pos present, if_pos (List.mem_cons_of_mem _ present)]
      · have absent : name value ∉ name item :: rest.map name := by simp_all [eq_comm]
        rw [if_neg present, if_neg absent, List.cons_append]

theorem find_put :
    (put name value items).find? (name · = key) =
      if name value = key then some value else items.find? (name · = key) := by
  induction items with
  | nil => by_cases same : name value = key <;> simp [put_nil, same]
  | cons item rest ih =>
    rw [put_cons]
    by_cases same : name item = name value
    · by_cases here : name value = key <;> simp [same, here]
    · rw [if_neg same, List.find?_cons, List.find?_cons, ih]
      by_cases here : name value = key
      · have apart : name item ≠ key := fun other => same (other.trans here.symm)
        simp [here, apart]
      · simp [here]

theorem names_remove : (remove name key items).map name = (items.map name).erase key := by
  induction items with
  | nil => rfl
  | cons item rest ih =>
    rw [remove, List.eraseP_cons, List.map_cons, List.erase_cons]
    by_cases same : name item = key
    · simp [same]
    · simp only [same, decide_false, cond_false, List.map_cons, beq_iff_eq, if_false]
      exact congrArg _ ih

theorem find_eq_none : items.find? (name · = key) = none ↔ key ∉ items.map name := by
  simp

theorem remove_eq_filter (distinct : (items.map name).Nodup) :
    remove name key items = items.filter (name · ≠ key) := by
  induction items with
  | nil => rfl
  | cons item rest ih =>
    rw [List.map_cons, List.nodup_cons] at distinct
    rw [remove, List.eraseP_cons, List.filter_cons]
    by_cases same : name item = key
    · have others : ∀ other ∈ rest, decide (name other ≠ key) = true := by
        intro other member
        rw [decide_eq_true_iff]
        exact fun found => distinct.1 (by rw [same, ← found]; exact List.mem_map_of_mem member)
      simpa [same] using (List.filter_eq_self.mpr others).symm
    · simpa [same, remove] using ih distinct.2

theorem find_remove (distinct : (items.map name).Nodup) (other : κ) :
    (remove name key items).find? (name · = other) = if key = other then none else items.find? (name · = other) := by
  rw [remove_eq_filter distinct, List.find?_filter]
  by_cases same : key = other
  · subst same
    simp
  · rw [if_neg same]
    congr 1
    funext item
    by_cases here : name item = other
    · simp [here, Ne.symm same]
    · simp [here]

/-- What is done to a map. Lists of edits have the last one first. -/
inductive Edit (κ : Type u) (α : Type v) where
  | put (value : α)
  | remove (key : κ)
  | clear

variable (name) in
def Edit.apply (items : List α) : Edit κ α → List α
  | .put value => OrderedMap.put name value items
  | .remove key => OrderedMap.remove name key items
  | .clear => []

variable (name key) in
/-- The value put last under the key, unless it has been removed since. -/
def latest : List (Edit κ α) → Option α
  | [] => none
  | .put value :: earlier => if name value = key then some value else latest earlier
  | .remove other :: earlier => if other = key then none else latest earlier
  | .clear :: _ => none

variable (name key) in
/-- When the key was first put after it had last been removed. -/
def since : List (Edit κ α) → Option Nat
  | [] => none
  | .put value :: earlier => if name value = key then (since earlier).or (some earlier.length) else since earlier
  | .remove other :: earlier => if other = key then none else since earlier
  | .clear :: _ => none

variable {edits : List (Edit κ α)}

theorem since_isSome : (since name key edits).isSome = (latest name key edits).isSome := by
  induction edits with
  | nil => rfl
  | cons edit earlier ih =>
    cases edit with
    | put value => by_cases same : name value = key <;> simp [since, latest, same, ih]
    | remove other => by_cases same : other = key <;> simp [since, latest, same, ih]
    | clear => rfl

theorem since_lt {time : Nat} (first : since name key edits = some time) : time < edits.length := by
  induction edits with
  | nil => contradiction
  | cons edit earlier ih =>
    have tail : since name key earlier = some time → time < (edit :: earlier).length :=
      fun before => Nat.lt_succ_of_lt (ih before)
    cases edit with
    | put value =>
      rw [since] at first
      split at first
      next =>
        rcases Option.or_eq_some_iff.mp first with before | ⟨_, now⟩
        · exact tail before
        · cases now
          exact Nat.lt_succ_self _
      next => exact tail first
    | remove other =>
      rw [since] at first
      split at first
      next => contradiction
      next => exact tail first
    | clear => contradiction

variable (name edits) in
def Earlier (first second : κ) : Prop :=
  ∃ before after, since name first edits = some before ∧ since name second edits = some after ∧ before < after

variable (name) in
/-- The list is what the edits amount to. -/
structure Records (edits : List (Edit κ α)) (items : List α) : Prop where
  distinct : (items.map name).Nodup
  holds : ∀ key, items.find? (name · = key) = latest name key edits
  ordered : (items.map name).Pairwise (Earlier name edits)

namespace Records

theorem empty : Records name ([] : List (Edit κ α)) [] := ⟨List.nodup_nil, fun _ => rfl, List.Pairwise.nil⟩

theorem mem_names (records : Records name edits items) :
    key ∈ items.map name ↔ ∃ time, since name key edits = some time := by
  rw [← Option.isSome_iff_exists, since_isSome, ← records.holds key, Option.isSome_iff_ne_none, Ne, find_eq_none,
    Classical.not_not]

theorem mem (records : Records name edits items) : value ∈ items ↔ latest name (name value) edits = some value := by
  rw [← records.holds]
  constructor
  · intro member
    cases found : items.find? (name · = name value) with
    | none => exact absurd (List.mem_map_of_mem member) (find_eq_none.mp found)
    | some other =>
      have same : name other = name value := by simpa using List.find?_some found
      rw [List.inj_on_of_nodup_map records.distinct (List.mem_of_find?_eq_some found) member same]
  · exact List.mem_of_find?_eq_some

/-- The order survives an edit that moves no key of the list. -/
private theorem reorder {later : List (Edit κ α)} {names : List κ} (ordered : names.Pairwise (Earlier name edits))
    (same : ∀ key ∈ names, since name key later = since name key edits) : names.Pairwise (Earlier name later) := by
  refine List.Pairwise.imp_of_mem ?_ ordered
  intro first second firstIn secondIn ⟨before, after, start, stop, less⟩
  exact ⟨before, after, (same first firstIn).trans start, (same second secondIn).trans stop, less⟩

theorem put (records : Records name edits items) (value : α) :
    Records name (.put value :: edits) (OrderedMap.put name value items) := by
  have holds : ∀ key, (OrderedMap.put name value items).find? (name · = key) = latest name key (.put value :: edits) := by
    intro key
    rw [find_put, latest, records.holds]
  by_cases present : name value ∈ items.map name
  · have names : (OrderedMap.put name value items).map name = items.map name := by rw [names_put, if_pos present]
    refine ⟨names ▸ records.distinct, holds, ?_⟩
    rw [names]
    refine reorder records.ordered ?_
    intro key inside
    obtain ⟨time, first⟩ := records.mem_names.mp inside
    simp [since, first]
  · have names : (OrderedMap.put name value items).map name = items.map name ++ [name value] := by
      rw [names_put, if_neg present]
    have others : ∀ key ∈ items.map name, since name key (.put value :: edits) = since name key edits := by
      intro key inside
      have apart : name value ≠ key := fun same => present (same ▸ inside)
      simp [since, apart]
    have fresh : since name (name value) (.put value :: edits) = some edits.length := by
      have never : since name (name value) edits = none := by
        rw [Option.eq_none_iff_forall_ne_some]
        exact fun time first => present (records.mem_names.mpr ⟨time, first⟩)
      simp [since, never]
    refine ⟨?_, holds, ?_⟩
    · rw [names]
      exact List.Nodup.append records.distinct (List.nodup_singleton _) (by simpa using present)
    · rw [names, List.pairwise_append]
      refine ⟨reorder records.ordered others, List.pairwise_singleton .., ?_⟩
      intro first firstIn second secondIn
      cases List.mem_singleton.mp secondIn
      obtain ⟨time, start⟩ := records.mem_names.mp firstIn
      exact ⟨time, edits.length, (others first firstIn).trans start, fresh, since_lt start⟩

theorem remove (records : Records name edits items) (key : κ) :
    Records name (.remove key :: edits) (OrderedMap.remove name key items) := by
  refine ⟨?_, ?_, ?_⟩
  · rw [names_remove]
    exact records.distinct.erase key
  · intro other
    rw [find_remove records.distinct, latest, records.holds]
  · rw [names_remove]
    refine reorder (records.ordered.sublist List.erase_sublist) ?_
    intro other inside
    have apart : key ≠ other := fun same => (records.distinct.mem_erase_iff.mp inside).1 same.symm
    simp [since, apart]

theorem apply (records : Records name edits items) (edit : Edit κ α) :
    Records name (edit :: edits) (edit.apply name items) := by
  cases edit with
  | put value => exact records.put value
  | remove key => exact records.remove key
  | clear => exact ⟨List.nodup_nil, fun _ => rfl, List.Pairwise.nil⟩

end Records
end OrderedMap
end OmpMySQL.Library
