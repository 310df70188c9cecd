import Mathlib.Algebra.Order.Round
import Mathlib.Data.Int.Log
import Mathlib.Data.Rat.Floor
import Mathlib.Tactic.Linarith
import Mathlib.Tactic.Positivity
import Mathlib.Tactic.Ring

/-! Numbers of limited precision in any base, and rounding to the nearest of them. Only
numbers from zero on are looked at; a sign is kept apart. -/

namespace OmpMySQL.Library.Precision

/-- The nearest integer, the even one of two. -/
def roundEven (q : ℚ) : ℤ :=
  if q - ⌊q⌋ < 1 / 2 then ⌊q⌋ else if 1 / 2 < q - ⌊q⌋ then ⌊q⌋ + 1 else ⌊q⌋ + ⌊q⌋ % 2

/-- An integer that a number is rounded to. -/
def Nearest (q : ℚ) (k : ℤ) : Prop := |(k : ℚ) - q| < 1 / 2 ∨ |(k : ℚ) - q| = 1 / 2 ∧ k % 2 = 0

theorem nearest_roundEven (q : ℚ) : Nearest q (roundEven q) := by
  have low := Int.floor_le q
  have high := Int.lt_floor_add_one q
  rw [roundEven]
  split_ifs with below above
  · left
    rw [abs_lt]
    constructor <;> linarith
  · left
    rw [abs_lt]
    push_cast
    constructor <;> linarith
  · have middle : q - ⌊q⌋ = 1 / 2 := le_antisymm (not_lt.mp above) (not_lt.mp below)
    right
    refine ⟨?_, by omega⟩
    rcases Int.emod_two_eq_zero_or_one ⌊q⌋ with even | odd
    · rw [even, abs_eq (by norm_num)]
      right
      push_cast
      linarith
    · rw [odd, abs_eq (by norm_num)]
      left
      push_cast
      linarith

theorem Nearest.error {q : ℚ} {k : ℤ} (nearest : Nearest q k) : |(k : ℚ) - q| ≤ 1 / 2 := by
  rcases nearest with less | ⟨tie, _⟩
  · exact less.le
  · exact tie.le

/-- Numbers that lie no farther from an integer are rounded to it as well. -/
theorem Nearest.closer {q other : ℚ} {k : ℤ} (nearest : Nearest q k) (close : |(k : ℚ) - other| ≤ |(k : ℚ) - q|) :
    Nearest other k := by
  rcases nearest with less | ⟨tie, even⟩
  · exact Or.inl (close.trans_lt less)
  · rcases (close.trans_eq tie).lt_or_eq with less | same
    · exact Or.inl less
    · exact Or.inr ⟨same, even⟩

theorem Nearest.unique {q : ℚ} {k other : ℤ} (nearest : Nearest q k) (also : Nearest q other) : k = other := by
  have apart : |(k : ℚ) - other| ≤ |(k : ℚ) - q| + |(other : ℚ) - q| := by
    rw [abs_sub_comm (other : ℚ) q]
    exact abs_sub_le _ _ _
  have bound : |k - other| ≤ 1 := by
    have sum : |(k : ℚ) - other| ≤ 1 := by linarith [nearest.error, also.error]
    exact_mod_cast sum
  by_contra different
  have one : |(k : ℚ) - other| = 1 := by
    have whole : |k - other| = 1 := by
      have positive := abs_pos.mpr (sub_ne_zero.mpr different)
      omega
    exact_mod_cast whole
  -- Both are half away, so both are even.
  rcases nearest with less | ⟨tie, even⟩
  · linarith [also.error]
  rcases also with less | ⟨otherTie, otherEven⟩
  · linarith
  · rcases abs_le.mp bound with ⟨low, high⟩
    omega

theorem roundEven_eq {q : ℚ} {k : ℤ} (nearest : Nearest q k) : roundEven q = k := (nearest_roundEven q).unique nearest

/-- No integer is nearer. -/
theorem roundEven_le (q : ℚ) (k : ℤ) : |(roundEven q : ℚ) - q| ≤ |(k : ℚ) - q| := by
  by_contra farther
  have closer := not_le.mp farther
  have less := closer.trans_le (nearest_roundEven q).error
  rw [roundEven_eq (Or.inl less)] at closer
  exact lt_irrefl _ closer

/-- So many digits in a base, and no unit below the least if there is one. -/
structure Format where
  base : ℕ
  digits : ℕ
  least : Option ℤ
  one_lt_base : 1 < base
  digits_pos : 0 < digits

namespace Format
variable (format : Format)

/-- The power of the base that is the unit in a number's last place. -/
def exponent (q : ℚ) : ℤ :=
  let own := Int.log format.base q + 1 - format.digits
  format.least.elim own (max own)

def unit (q : ℚ) : ℚ := (format.base : ℚ) ^ format.exponent q

def significand (q : ℚ) : ℤ := roundEven (q / format.unit q)

def round (q : ℚ) : ℚ := format.significand q * format.unit q

def Exact (q : ℚ) : Prop :=
  ∃ (m : ℕ) (e : ℤ), m < format.base ^ format.digits ∧ (∀ least ∈ format.least, least ≤ e) ∧ q = m * (format.base : ℚ) ^ e

variable {format} {q d : ℚ}

theorem base_pos : (0 : ℚ) < format.base := by exact_mod_cast Nat.lt_of_succ_lt format.one_lt_base

theorem one_lt_base' : (1 : ℚ) < format.base := by exact_mod_cast format.one_lt_base

theorem unit_pos : 0 < format.unit q := zpow_pos base_pos _

theorem own_le_exponent : Int.log format.base q + 1 - format.digits ≤ format.exponent q := by
  rw [exponent]
  cases format.least with
  | none => exact le_refl _
  | some least => exact le_max_left _ _

theorem least_le_exponent : ∀ least ∈ format.least, least ≤ format.exponent q := by
  intro least member
  rw [exponent, Option.mem_def.mp member]
  exact le_max_right _ _

theorem exponent_le {e : ℤ} (own : Int.log format.base q + 1 - format.digits ≤ e) (low : ∀ least ∈ format.least, least ≤ e) :
    format.exponent q ≤ e := by
  rw [exponent]
  cases least : format.least with
  | none => exact own
  | some least' => exact max_le own (low least' (Option.mem_def.mpr least))

theorem exponent_mono (positive : 0 < q) (le : q ≤ d) : format.exponent q ≤ format.exponent d := by
  refine exponent_le ?_ least_le_exponent
  have logs := Int.log_mono_right (b := format.base) positive le
  have own := @own_le_exponent format d
  omega

/-- A number has at most so many units. -/
theorem lt_units : q < (format.base : ℚ) ^ format.digits * format.unit q := by
  have above := Int.lt_zpow_succ_log_self format.one_lt_base q
  refine above.trans_le ?_
  rw [unit, ← zpow_natCast, ← zpow_add₀ base_pos.ne']
  apply zpow_le_zpow_right₀ one_lt_base'.le
  have own := @own_le_exponent format q
  omega

theorem zpow_multiple {least e : ℤ} (le : least ≤ e) :
    ∃ k : ℕ, (format.base : ℚ) ^ e = k * (format.base : ℚ) ^ least := by
  refine ⟨format.base ^ (e - least).toNat, ?_⟩
  rw [Nat.cast_pow, ← zpow_natCast, ← zpow_add₀ base_pos.ne']
  congr 1
  omega

/-- What is exact consists of the units of any number up to it. -/
theorem Exact.multiple (exact : format.Exact d) (positive : 0 < q) (le : q ≤ d) : ∃ k : ℕ, d = k * format.unit q := by
  obtain ⟨m, e, digits, low, rfl⟩ := exact
  have small : format.exponent q ≤ e := by
    refine (exponent_mono positive le).trans (exponent_le ?_ low)
    have less : (m : ℚ) * (format.base : ℚ) ^ e < (format.base : ℚ) ^ (format.digits + e) := by
      rw [zpow_add₀ base_pos.ne', zpow_natCast]
      apply mul_lt_mul_of_pos_right _ (zpow_pos base_pos e)
      exact_mod_cast digits
    have log := (Int.lt_zpow_iff_log_lt format.one_lt_base (positive.trans_le le)).mp less
    omega
  obtain ⟨k, same⟩ := @zpow_multiple format _ _ small
  exact ⟨m * k, by rw [same, unit, Nat.cast_mul, mul_assoc]⟩

theorem exact_multiple {k : ℕ} (digits : k < format.base ^ format.digits) : format.Exact (k * format.unit q) :=
  ⟨k, format.exponent q, digits, least_le_exponent, rfl⟩

theorem significand_nonneg (nonneg : 0 ≤ q) : 0 ≤ format.significand q := by
  have error := (nearest_roundEven (q / format.unit q)).error
  have scaled : 0 ≤ q / format.unit q := div_nonneg nonneg unit_pos.le
  have above : (-1 : ℚ) < format.significand q := by
    rw [significand]
    linarith [(abs_le.mp error).1]
  have whole : (-1 : ℤ) < format.significand q := by exact_mod_cast above
  omega

theorem significand_le : format.significand q ≤ (format.base ^ format.digits : ℕ) := by
  have less : q / format.unit q < ((format.base ^ format.digits : ℕ) : ℤ) := by
    rw [div_lt_iff₀ unit_pos]
    push_cast
    exact lt_units
  by_contra greater
  have beyond : (((format.base ^ format.digits : ℕ) : ℤ) : ℚ) < format.significand q := by
    exact_mod_cast not_le.mp greater
  have closest := roundEven_le (q / format.unit q) (format.base ^ format.digits : ℕ)
  rw [abs_of_pos (sub_pos.mpr less), ← significand, abs_of_pos (sub_pos.mpr (less.trans beyond))] at closest
  linarith

theorem round_exact (nonneg : 0 ≤ q) : format.Exact (format.round q) := by
  obtain ⟨k, same⟩ := Int.eq_ofNat_of_zero_le (@significand_nonneg format q nonneg)
  have value : format.round q = k * format.unit q := by
    rw [round, same]
    norm_cast
  rw [value]
  have bound := @significand_le format q
  rw [same] at bound
  rcases (Int.ofNat_le.mp bound).lt_or_eq with less | full
  · exact exact_multiple less
  · -- A significand that is full by rounding is one of the next exponent.
    refine ⟨format.base ^ (format.digits - 1), format.exponent q + 1, ?_, ?_, ?_⟩
    · exact Nat.pow_lt_pow_right format.one_lt_base (Nat.sub_lt format.digits_pos Nat.one_pos)
    · exact fun least member => (@least_le_exponent format q least member).trans (Int.le_add_one (le_refl _))
    · have split : format.digits = format.digits - 1 + 1 := (Nat.succ_pred_eq_of_pos format.digits_pos).symm
      rw [full, unit, zpow_add_one₀ base_pos.ne']
      nth_rewrite 1 [split]
      push_cast
      ring

theorem round_zero : format.round 0 = 0 := by
  have zero : format.significand 0 = 0 := by
    rw [significand, zero_div]
    exact roundEven_eq (Or.inl (by norm_num))
  rw [round, zero, Int.cast_zero, zero_mul]

theorem scaled (q : ℚ) (k : ℤ) : |(k : ℚ) - q / format.unit q| * format.unit q = |k * format.unit q - q| := by
  have factor : (k : ℚ) * format.unit q - q = ((k : ℚ) - q / format.unit q) * format.unit q := by
    rw [sub_mul, div_mul_cancel₀ q unit_pos.ne']
  rw [factor, abs_mul, abs_of_pos unit_pos]

theorem round_le_multiple (q : ℚ) (k : ℤ) : |format.round q - q| ≤ |k * format.unit q - q| := by
  have times := mul_le_mul_of_nonneg_right (roundEven_le (q / format.unit q) k) (@unit_pos format q).le
  rwa [scaled, scaled] at times

theorem round_error (q : ℚ) : |format.round q - q| ≤ format.unit q / 2 := by
  have times := mul_le_mul_of_nonneg_right (nearest_roundEven (q / format.unit q)).error (@unit_pos format q).le
  rw [scaled] at times
  rw [round, significand]
  linarith

/-- The power of the base that a number starts with. -/
theorem exponent_top : format.exponent ((format.base : ℚ) ^ Int.log format.base q) = format.exponent q := by
  rw [exponent, exponent, Int.log_zpow format.one_lt_base]

theorem top_le (positive : 0 < q) : (format.base : ℚ) ^ Int.log format.base q ≤ q :=
  Int.zpow_log_le_self format.one_lt_base positive

theorem exponent_eq_least (above : Int.log format.base q + 1 - format.digits < format.exponent q) :
    ∃ least ∈ format.least, format.exponent q = least := by
  rw [exponent] at above ⊢
  cases least : format.least with
  | none =>
    rw [least, Option.elim_none] at above
    omega
  | some least' =>
    rw [least, Option.elim_some] at above
    refine ⟨least', rfl, ?_⟩
    rw [Option.elim_some]
    omega

/-- No exact number is nearer. -/
theorem round_nearest (nonneg : 0 ≤ q) (exact : format.Exact d) (positive : 0 ≤ d) : |format.round q - q| ≤ |d - q| := by
  rcases nonneg.eq_or_lt with rfl | above
  · rw [round_zero, sub_zero, abs_zero]
    exact abs_nonneg _
  have starts := @top_le format q above
  by_cases high : (format.base : ℚ) ^ Int.log format.base q ≤ d
  · obtain ⟨k, rfl⟩ := exact.multiple (zpow_pos base_pos _) high
    rw [unit, exponent_top]
    exact round_le_multiple q k
  have low := not_le.mp high
  by_cases units : format.exponent q ≤ Int.log format.base q
  · -- The power of the base lies between, and consists of units.
    obtain ⟨k, top⟩ := @zpow_multiple format _ _ units
    have closest := @round_le_multiple format q k
    rw [Int.cast_natCast, unit, ← top, abs_sub_comm ((format.base : ℚ) ^ Int.log format.base q),
      abs_of_nonneg (sub_nonneg.mpr starts)] at closest
    rw [abs_sub_comm d q, abs_of_pos (sub_pos.mpr (low.trans_le starts))]
    linarith
  · have digits := format.digits_pos
    obtain ⟨least, member, same⟩ := @exponent_eq_least format q (by omega)
    obtain ⟨m, e, _, bound, rfl⟩ := exact
    obtain ⟨k, power⟩ := @zpow_multiple format _ _ (bound least member)
    have closest := @round_le_multiple format q (m * k : ℕ)
    rwa [unit, same, Int.cast_natCast, Nat.cast_mul, mul_assoc, ← power] at closest

theorem round_of_exact (exact : format.Exact q) (nonneg : 0 ≤ q) : format.round q = q := by
  have nearest := round_nearest nonneg exact nonneg
  rw [sub_self, abs_zero] at nearest
  exact sub_eq_zero.mp (abs_nonpos_iff.mp nearest)

theorem round_nonneg (nonneg : 0 ≤ q) : 0 ≤ format.round q :=
  mul_nonneg (by exact_mod_cast significand_nonneg nonneg) unit_pos.le

/-- Between two exact numbers there is room for a unit of the lower one. -/
theorem Exact.gap {lower upper : ℚ} (first : format.Exact lower) (second : format.Exact upper) (positive : 0 < lower)
    (less : lower < upper) : lower < (upper - lower) * (format.base : ℚ) ^ format.digits := by
  obtain ⟨k, low⟩ := first.multiple positive (le_refl lower)
  obtain ⟨j, high⟩ := second.multiple positive less.le
  have order : k < j := by
    rw [low, high] at less
    exact_mod_cast lt_of_mul_lt_mul_right less unit_pos.le
  have one : format.unit lower ≤ upper - lower := by
    have step : (1 : ℚ) ≤ j - k := by
      have next : (k : ℚ) + 1 ≤ j := by exact_mod_cast order
      linarith
    have product := mul_le_mul_of_nonneg_right step (@unit_pos format lower).le
    rw [one_mul, sub_mul, ← high, ← low] at product
    exact product
  calc
    lower < (format.base : ℚ) ^ format.digits * format.unit lower := lt_units
    _ ≤ (format.base : ℚ) ^ format.digits * (upper - lower) := mul_le_mul_of_nonneg_left one (pow_pos base_pos _).le
    _ = (upper - lower) * (format.base : ℚ) ^ format.digits := mul_comm _ _

theorem top_le_round (unbounded : format.least = none) (positive : 0 < q) :
    (format.base : ℚ) ^ Int.log format.base q ≤ format.round q := by
  have top : format.Exact ((format.base : ℚ) ^ Int.log format.base q) := by
    refine ⟨1, Int.log format.base q, Nat.one_lt_pow format.digits_pos.ne' format.one_lt_base, ?_, by simp⟩
    intro least member
    rw [unbounded] at member
    cases member
  have nearest := round_nearest positive.le top (zpow_pos base_pos _).le
  rw [abs_sub_comm ((format.base : ℚ) ^ Int.log format.base q), abs_of_nonneg (sub_nonneg.mpr (top_le positive))] at nearest
  linarith [(abs_le.mp nearest).1]

theorem round_pos (unbounded : format.least = none) (positive : 0 < q) : 0 < format.round q :=
  (zpow_pos base_pos _).trans_le (top_le_round unbounded positive)

theorem round_le_twice (nonneg : 0 ≤ q) : format.round q ≤ 2 * q := by
  have zero : format.Exact 0 := by
    rw [← round_zero]
    exact round_exact (le_refl 0)
  have nearest := round_nearest nonneg zero (le_refl 0)
  rw [zero_sub, abs_neg, abs_of_nonneg nonneg] at nearest
  linarith [(abs_le.mp nearest).2]

variable {coarse : Format}

/-- Rounding to the finer format loses nothing that the coarser one has. -/
theorem coarse_recovered (finer : 2 * coarse.base ^ coarse.digits ≤ format.base ^ (format.digits - 1)) (positive : 0 < d)
    (exact : coarse.Exact d) (normal : format.exponent d ≤ Int.log format.base d + 1 - format.digits) :
    coarse.round (format.round d) = d := by
  have nonneg := @round_nonneg format _ positive.le
  have back := round_nearest nonneg exact positive.le
  have error := @round_error format d
  rw [abs_sub_comm] at error
  have close : |coarse.round (format.round d) - d| ≤ format.unit d :=
    calc
      |coarse.round (format.round d) - d| ≤
          |coarse.round (format.round d) - format.round d| + |format.round d - d| := abs_sub_le _ _ _
      _ ≤ format.unit d / 2 + format.unit d / 2 := by
        rw [abs_sub_comm (format.round d) d]
        exact add_le_add (back.trans error) error
      _ = format.unit d := by ring
  have units : (format.base : ℚ) ^ (format.digits - 1) * format.unit d ≤ d := by
    refine le_trans ?_ (@top_le format _ positive)
    rw [unit, ← zpow_natCast, ← zpow_add₀ base_pos.ne']
    apply zpow_le_zpow_right₀ one_lt_base'.le
    have digits := format.digits_pos
    omega
  have some_digits : (1 : ℚ) ≤ (coarse.base : ℚ) ^ coarse.digits := one_le_pow₀ one_lt_base'.le
  have steps : 2 * (coarse.base : ℚ) ^ coarse.digits * |coarse.round (format.round d) - d| ≤ d := by
    have cast : 2 * (coarse.base : ℚ) ^ coarse.digits ≤ (format.base : ℚ) ^ (format.digits - 1) := by exact_mod_cast finer
    exact (mul_le_mul cast close (abs_nonneg _) (by positivity)).trans units
  have rounded := @round_exact coarse _ nonneg
  rcases lt_trichotomy (coarse.round (format.round d)) d with less | same | greater
  · rw [abs_sub_comm, abs_of_pos (sub_pos.mpr less)] at steps
    rcases (@round_nonneg coarse _ nonneg).eq_or_lt with zero | above
    · rw [← zero] at steps
      nlinarith
    · have gap := rounded.gap exact above less
      nlinarith
  · exact same
  · rw [abs_of_pos (sub_pos.mpr greater)] at steps
    have gap := exact.gap rounded positive greater
    nlinarith

/-- Below the normal numbers all have the same unit, and the coarser format does not leave them. -/
theorem unit_coarse_round (unbounded : coarse.least = none) (positive : 0 < d) (exact : coarse.Exact d)
    (subnormal : Int.log format.base d + 1 - format.digits < format.exponent d) (above : 0 < format.round d) :
    format.unit (coarse.round (format.round d)) = format.unit d := by
  obtain ⟨least, member, same⟩ := exponent_eq_least subnormal
  have digits := format.digits_pos
  have small : d < (format.base : ℚ) ^ (least + format.digits - 1) := by
    refine (Int.lt_zpow_succ_log_self format.one_lt_base d).trans_le ?_
    apply zpow_le_zpow_right₀ one_lt_base'.le
    omega
  have back := round_nearest above.le exact positive.le
  have error := @round_error format d
  have one : format.unit d ≤ (format.base : ℚ) ^ (least + format.digits - 1) := by
    rw [unit, same]
    apply zpow_le_zpow_right₀ one_lt_base'.le
    omega
  have next : (format.base : ℚ) ^ (least + format.digits - 1) * 2 ≤ (format.base : ℚ) ^ (least + format.digits) := by
    have two : (2 : ℚ) ≤ format.base := by exact_mod_cast format.one_lt_base
    have split : (format.base : ℚ) ^ (least + format.digits) =
        (format.base : ℚ) ^ (least + format.digits - 1) * format.base := by
      rw [← zpow_add_one₀ base_pos.ne', sub_add_cancel]
    rw [split]
    exact mul_le_mul_of_nonneg_left two (zpow_pos base_pos _).le
  have room : coarse.round (format.round d) < (format.base : ℚ) ^ (least + format.digits) := by
    have up := (abs_le.mp back).2
    have width := abs_sub_comm d (format.round d)
    have high := (abs_le.mp error).2
    linarith
  have exponents : format.exponent (coarse.round (format.round d)) = format.exponent d := by
    rw [same]
    have logs := (Int.lt_zpow_iff_log_lt format.one_lt_base (round_pos unbounded above)).mp room
    refine le_antisymm (exponent_le (by omega) ?_) (least_le_exponent least member)
    intro other also
    rw [Option.mem_unique also member]
  rw [unit, exponents, unit]

/-- A number that comes from the coarser format comes from its own rounding to it. -/
theorem round_coarse_round (unbounded : coarse.least = none)
    (finer : 2 * coarse.base ^ coarse.digits ≤ format.base ^ (format.digits - 1)) (nonneg : 0 ≤ d) (exact : coarse.Exact d) :
    format.round (coarse.round (format.round d)) = format.round d := by
  rcases nonneg.eq_or_lt with rfl | positive
  · rw [round_zero, round_zero, round_zero]
  by_cases normal : format.exponent d ≤ Int.log format.base d + 1 - format.digits
  · rw [coarse_recovered finer positive exact normal]
  rcases (@round_nonneg format _ nonneg).eq_or_lt with zero | above
  · rw [← zero, round_zero, round_zero]
  have back := round_nearest above.le exact positive.le
  have units := unit_coarse_round unbounded positive exact (not_le.mp normal) above
  have rounded : format.significand (coarse.round (format.round d)) = format.significand d := by
    refine roundEven_eq ((nearest_roundEven (d / format.unit d)).closer ?_)
    have far := @scaled format (coarse.round (format.round d)) (format.significand d)
    have near := @scaled format d (format.significand d)
    rw [units] at far ⊢
    rw [← significand]
    refine le_of_mul_le_mul_right ?_ (@unit_pos format d)
    rw [far, near, abs_sub_comm _ (coarse.round _), abs_sub_comm _ d]
    exact back
  rw [round, rounded, units, ← round]

end Format
end OmpMySQL.Library.Precision
