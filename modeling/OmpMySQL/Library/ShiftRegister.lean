import Mathlib.Data.Nat.Bitwise
import Mathlib.Logic.Function.Iterate

/-! Registers that are combined with a shift of themselves, and the masking of a sequence
by the states a register goes through. -/

namespace OmpMySQL.Library

namespace ShiftRegister

variable {w : Nat}

def left (k : Nat) (x : BitVec w) : BitVec w := x ^^^ (x <<< k)

def right (k : Nat) (x : BitVec w) : BitVec w := x ^^^ (x >>> k)

/-- The lowest bits are those of the register, and they determine the next ones. -/
theorem left_injective {k : Nat} (positive : 0 < k) : Function.Injective (left k : BitVec w → BitVec w) := by
  intro x y same
  have bits : ∀ i, x.getLsbD i = y.getLsbD i := by
    intro i
    induction i using Nat.strongRecOn with
    | ind i ih =>
      have bit := congrArg (fun z => z.getLsbD i) same
      simp only [left, BitVec.getLsbD_xor, BitVec.getLsbD_shiftLeft] at bit
      cases Nat.lt_or_ge i k with
      | inl low => simpa [low] using bit
      | inr high =>
        rw [ih (i - k) (by omega)] at bit
        exact Bool.xor_left_inj.mp bit
  exact BitVec.eq_of_getLsbD_eq (fun i _ => bits i)

/-- The highest bits are those of the register, and they determine the ones before them. -/
theorem right_injective {k : Nat} (positive : 0 < k) : Function.Injective (right k : BitVec w → BitVec w) := by
  intro x y same
  have bits : ∀ distance i, w ≤ i + distance → x.getLsbD i = y.getLsbD i := by
    intro distance
    induction distance using Nat.strongRecOn with
    | ind distance ih =>
      intro i near
      have bit := congrArg (fun z => z.getLsbD i) same
      simp only [right, BitVec.getLsbD_xor, BitVec.getLsbD_ushiftRight] at bit
      cases Nat.eq_zero_or_pos distance with
      | inl none =>
        rw [BitVec.getLsbD_of_ge x i (by omega), BitVec.getLsbD_of_ge y i (by omega)]
      | inr some =>
        rw [ih (distance - 1) (by omega) (k + i) (by omega)] at bit
        exact Bool.xor_left_inj.mp bit
  exact BitVec.eq_of_getLsbD_eq (fun i _ => bits w i (by omega))

end ShiftRegister

section
variable {σ : Type} {step : σ → σ}

/-- A register whose steps only reach `dead` from `dead` never gets there from elsewhere. -/
theorem iterate_ne {dead start : σ} (alive : start ≠ dead) (kept : ∀ state, step state = dead → state = dead)
    (n : Nat) : step^[n] start ≠ dead := by
  induction n with
  | zero => exact alive
  | succ n ih =>
    intro reached
    rw [Function.iterate_succ_apply'] at reached
    exact ih (kept _ reached)

variable {α : Type}

/-- Every item is combined with the state the register reaches by one more step. -/
def mask (step : σ → σ) (combine : σ → α → α) : σ → List α → List α
  | _, [] => []
  | state, item :: rest => combine (step state) item :: mask step combine (step state) rest

variable (step) (combine : σ → α → α)

theorem mask_getElem? (state : σ) (items : List α) (i : Nat) :
    (mask step combine state items)[i]? = items[i]?.map (combine (step^[i + 1] state)) := by
  induction items generalizing state i with
  | nil => rfl
  | cons item rest ih =>
    cases i with
    | zero => rfl
    | succ i =>
      rw [mask, List.getElem?_cons_succ, ih]
      rfl

/-- Masking twice from one state gives back every item that the combination gives back. -/
theorem mask_mask {items : List α} (inverse : ∀ state, ∀ item ∈ items, combine state (combine state item) = item)
    (state : σ) : mask step combine state (mask step combine state items) = items := by
  induction items generalizing state with
  | nil => rfl
  | cons item rest ih =>
    have tail := ih (fun state later inside => inverse state later (List.mem_cons_of_mem item inside)) (step state)
    rw [mask, mask, tail, inverse _ item List.mem_cons_self]

end
end OmpMySQL.Library
