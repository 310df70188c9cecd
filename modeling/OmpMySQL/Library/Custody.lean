/-! Items that move between queues and hands, counted by a key of theirs. -/

namespace OmpMySQL.Library

universe u v w
variable {α : Type u} {β : Type v} {τ : Type w} [DecidableEq β] (key : α → β) (wanted : β)

def tally (items : List α) : Nat := (items.map key).count wanted

@[simp] theorem tally_nil : tally key wanted [] = 0 := rfl

@[simp] theorem tally_append (first rest : List α) :
    tally key wanted (first ++ rest) = tally key wanted first + tally key wanted rest := by
  simp only [tally, List.map_append, List.count_append]

theorem tally_cons (item : α) (rest : List α) :
    tally key wanted (item :: rest) = tally key wanted [item] + tally key wanted rest :=
  tally_append key wanted [item] rest

theorem tally_singleton (item : α) : tally key wanted [item] = if key item = wanted then 1 else 0 := by
  simp only [tally, List.map_cons, List.map_nil, List.count_singleton, beq_iff_eq]

theorem nodup_of_tally {items : List α} (once : ∀ wanted, tally key wanted items ≤ 1) : (items.map key).Nodup :=
  List.nodup_iff_count.mpr once

/-- One holder changes hands, the others keep theirs. -/
theorem tally_flatMap_set {holders : List τ} {index : Nat} {before : τ} (found : holders[index]? = some before)
    (after : τ) (hands : τ → List α) :
    tally key wanted ((holders.set index after).flatMap hands) + tally key wanted (hands before) =
      tally key wanted (holders.flatMap hands) + tally key wanted (hands after) := by
  induction holders generalizing index with
  | nil => cases found
  | cons holder rest ih =>
    cases index with
    | zero =>
      cases found
      simp only [List.set_cons_zero, List.flatMap_cons, tally_append]
      omega
    | succ index =>
      have kept := ih found
      simp only [List.set_cons_succ, List.flatMap_cons, tally_append]
      omega

end OmpMySQL.Library
