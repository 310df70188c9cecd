import OmpMySQL.Library.Precision

/-! The 32-bit floating-point numbers: their values, their bits, the one nearest to a size. -/

namespace OmpMySQL.Library.Binary32
open Precision

def format : Format where
  base := 2
  digits := 24
  least := some (-149)
  one_lt_base := Nat.one_lt_two
  digits_pos := Nat.succ_pos 23

@[ext] structure Finite where
  negative : Bool
  magnitude : ℚ
  nonneg : 0 ≤ magnitude
  exact : format.Exact magnitude
  bounded : magnitude < 2 ^ 128

def Finite.value (number : Finite) : ℚ := if number.negative then -number.magnitude else number.magnitude

theorem Finite.abs_value (number : Finite) : |number.value| = number.magnitude := by
  rw [value]
  split
  next => rw [abs_neg, abs_of_nonneg number.nonneg]
  next => exact abs_of_nonneg number.nonneg

/-- What a NaN carries is left aside. -/
inductive Number where
  | finite (number : Finite)
  | infinite (negative : Bool)
  | nan (negative : Bool)

/-- The number of a sign that is nearest to a size, if it is not too large for one. -/
def nearest (negative : Bool) (size : ℚ) : Number :=
  if bounded : format.round |size| < 2 ^ 128 then
    .finite
      { negative
        magnitude := format.round |size|
        nonneg := Format.round_nonneg (abs_nonneg size)
        exact := Format.round_exact (abs_nonneg size)
        bounded }
  else .infinite negative

/-- A significand in the unit of an exponent field. -/
def fieldUnit (biased : ℕ) : ℤ := max 1 biased - 150

def fieldSignificand (biased fraction : ℕ) : ℕ := if biased = 0 then fraction else 2 ^ 23 + fraction

theorem fields_nonneg (biased fraction : ℕ) :
    (0 : ℚ) ≤ fieldSignificand biased fraction * (2 : ℚ) ^ fieldUnit biased :=
  mul_nonneg (Nat.cast_nonneg _) (zpow_nonneg zero_le_two _)

theorem fieldSignificand_lt {biased fraction : ℕ} (small : fraction < 2 ^ 23) :
    fieldSignificand biased fraction < 2 ^ 24 := by
  rw [fieldSignificand]
  split <;> omega

theorem fields_exact {biased fraction : ℕ} (small : fraction < 2 ^ 23) :
    format.Exact (fieldSignificand biased fraction * (2 : ℚ) ^ fieldUnit biased) := by
  refine ⟨fieldSignificand biased fraction, fieldUnit biased, fieldSignificand_lt small, ?_, rfl⟩
  intro least member
  cases member
  rw [fieldUnit]
  omega

theorem fields_bounded {biased fraction : ℕ} (small : fraction < 2 ^ 23) (finite : biased < 255) :
    fieldSignificand biased fraction * (2 : ℚ) ^ fieldUnit biased < 2 ^ 128 := by
  have digits : (fieldSignificand biased fraction : ℚ) < 2 ^ 24 := by exact_mod_cast fieldSignificand_lt small
  have unit : (2 : ℚ) ^ fieldUnit biased ≤ 2 ^ (104 : ℤ) := by
    apply zpow_le_zpow_right₀ one_le_two
    rw [fieldUnit]
    omega
  calc
    fieldSignificand biased fraction * (2 : ℚ) ^ fieldUnit biased < 2 ^ 24 * (2 : ℚ) ^ fieldUnit biased :=
      mul_lt_mul_of_pos_right digits (zpow_pos two_pos _)
    _ ≤ 2 ^ 24 * (2 : ℚ) ^ (104 : ℤ) := mul_le_mul_of_nonneg_left unit (by positivity)
    _ = 2 ^ 128 := by norm_num

/-- A sign bit, eight bits of exponent and 23 of the significand. -/
def ofBits (bits : ℕ) : Number :=
  let negative := decide (bits / 2 ^ 31 % 2 = 1)
  let biased := bits / 2 ^ 23 % 256
  let fraction := bits % 2 ^ 23
  if special : biased = 255 then if fraction = 0 then .infinite negative else .nan negative
  else
    .finite
      { negative
        magnitude := fieldSignificand biased fraction * (2 : ℚ) ^ fieldUnit biased
        nonneg := fields_nonneg biased fraction
        exact := fields_exact (Nat.mod_lt _ (by norm_num))
        bounded := fields_bounded (Nat.mod_lt _ (by norm_num)) (by omega) }

def signBit (negative : Bool) : ℕ := if negative then 2 ^ 31 else 0

def Finite.toBits (number : Finite) : ℕ :=
  let significand := (format.significand number.magnitude).toNat
  signBit number.negative +
    if significand < 2 ^ 23 then significand
    else (format.exponent number.magnitude + 150).toNat * 2 ^ 23 + (significand - 2 ^ 23)

/-- No other number has a value. -/
def Number.value : Number → Option ℚ
  | .finite number => some number.value
  | .infinite _ | .nan _ => none

def Number.toBits : Number → ℕ
  | .finite number => number.toBits
  | .infinite negative => signBit negative + 255 * 2 ^ 23
  | .nan negative => signBit negative + (255 * 2 ^ 23 + 2 ^ 22)

theorem signBit_field (negative : Bool) {rest : ℕ} (small : rest < 2 ^ 31) :
    decide ((signBit negative + rest) / 2 ^ 31 % 2 = 1) = negative ∧ (signBit negative + rest) % 2 ^ 31 = rest := by
  cases negative with
  | false =>
    rw [signBit, if_neg Bool.false_ne_true, zero_add, Nat.div_eq_of_lt small, Nat.mod_eq_of_lt small]
    exact ⟨rfl, rfl⟩
  | true =>
    rw [signBit, if_pos rfl, decide_eq_true_eq]
    omega

/-- What the bits of a finite number are, field by field. -/
theorem ofBits_fields (negative : Bool) {biased fraction : ℕ} (finite : biased < 255) (small : fraction < 2 ^ 23) :
    ofBits (signBit negative + (biased * 2 ^ 23 + fraction)) =
      .finite
        { negative
          magnitude := fieldSignificand biased fraction * (2 : ℚ) ^ fieldUnit biased
          nonneg := fields_nonneg biased fraction
          exact := fields_exact small
          bounded := fields_bounded small finite } := by
  obtain ⟨sign, rest⟩ := signBit_field negative (show biased * 2 ^ 23 + fraction < 2 ^ 31 by omega)
  have exponent : (signBit negative + (biased * 2 ^ 23 + fraction)) / 2 ^ 23 % 256 = biased := by omega
  have significand : (signBit negative + (biased * 2 ^ 23 + fraction)) % 2 ^ 23 = fraction := by omega
  rw [ofBits]
  simp only [sign, exponent, significand, Nat.ne_of_lt finite, dite_false]

/-- Higher bits do not matter. -/
theorem ofBits_mod (bits : ℕ) : ofBits (bits % 2 ^ 32) = ofBits bits := by
  have sign : bits % 2 ^ 32 / 2 ^ 31 % 2 = bits / 2 ^ 31 % 2 := by omega
  have exponent : bits % 2 ^ 32 / 2 ^ 23 % 256 = bits / 2 ^ 23 % 256 := by omega
  have significand : bits % 2 ^ 32 % 2 ^ 23 = bits % 2 ^ 23 := by omega
  rw [ofBits, ofBits]
  simp only [sign, exponent, significand]

theorem ofBits_infinite (negative : Bool) : ofBits (Number.infinite negative).toBits = .infinite negative := by
  cases negative <;> rfl

section
variable (number : Finite)

theorem Finite.significand_eq :
    ∃ m : ℕ, format.significand number.magnitude = m ∧ m < 2 ^ 24 ∧
      number.magnitude = m * (2 : ℚ) ^ format.exponent number.magnitude := by
  obtain ⟨m, same⟩ := Int.eq_ofNat_of_zero_le (Format.significand_nonneg number.nonneg)
  have value := Format.round_of_exact number.exact number.nonneg
  rw [Format.round, same] at value
  have units := @Format.lt_units format number.magnitude
  nth_rewrite 1 [← value] at units
  have digits := lt_of_mul_lt_mul_right units Format.unit_pos.le
  refine ⟨m, same, ?_, value.symm⟩
  exact_mod_cast digits

theorem Finite.exponent_le (positive : 0 < number.magnitude) : format.exponent number.magnitude ≤ 104 := by
  have power : number.magnitude < ((2 : ℕ) : ℚ) ^ (128 : ℤ) := by exact_mod_cast number.bounded
  have log := (Int.lt_zpow_iff_log_lt Nat.one_lt_two positive).mp power
  refine Format.exponent_le ?_ ?_
  · change Int.log 2 number.magnitude + 1 - 24 ≤ 104
    omega
  · intro least member
    cases member
    decide

theorem Finite.least_le (positive : 0 < number.magnitude) : (2 : ℚ) ^ (-149 : ℤ) ≤ number.magnitude := by
  obtain ⟨m, e, _, least, value⟩ := number.exact
  have some_units : 1 ≤ m := by
    rw [Nat.one_le_iff_ne_zero]
    rintro rfl
    rw [value, Nat.cast_zero, zero_mul] at positive
    exact lt_irrefl _ positive
  rw [value]
  calc
    (2 : ℚ) ^ (-149 : ℤ) ≤ (2 : ℚ) ^ e := zpow_le_zpow_right₀ one_le_two (least (-149) rfl)
    _ ≤ m * (2 : ℚ) ^ e := le_mul_of_one_le_left (zpow_nonneg zero_le_two e) (by exact_mod_cast some_units)

/-- A number with fewer digits than it could have is in the least unit. -/
theorem Finite.subnormal {m : ℕ} (value : number.magnitude = m * (2 : ℚ) ^ format.exponent number.magnitude)
    (small : m < 2 ^ 23) (positive : 0 < number.magnitude) : format.exponent number.magnitude = -149 := by
  have less : number.magnitude < ((2 : ℕ) : ℚ) ^ (23 + format.exponent number.magnitude) := by
    rw [Nat.cast_ofNat, zpow_add₀ two_ne_zero]
    nth_rewrite 1 [value]
    apply mul_lt_mul_of_pos_right _ (zpow_pos two_pos _)
    exact_mod_cast small
  have log : Int.log format.base number.magnitude < 23 + format.exponent number.magnitude :=
    (Int.lt_zpow_iff_log_lt Nat.one_lt_two positive).mp less
  have digits : (format.digits : ℤ) = 24 := rfl
  obtain ⟨least, member, same⟩ := @Format.exponent_eq_least format number.magnitude (by omega)
  cases member
  exact same

/-- The bits of a number are its own. -/
theorem ofBits_toBits : ofBits number.toBits = .finite number := by
  obtain ⟨m, significand, digits, value⟩ := number.significand_eq
  have least := @Format.least_le_exponent format number.magnitude (-149) rfl
  rw [Finite.toBits]
  simp only [significand, Int.toNat_natCast]
  split
  next small =>
    have bits := ofBits_fields number.negative (show 0 < 255 by decide) small
    rw [Nat.zero_mul, Nat.zero_add] at bits
    rw [bits]
    congr 1
    ext
    · rfl
    · change (m : ℚ) * 2 ^ (-149 : ℤ) = number.magnitude
      rcases number.nonneg.eq_or_lt with zero | positive
      · have none : m = 0 := by
          rw [← zero] at value
          simpa [zpow_ne_zero] using value.symm
        rw [← zero, none, Nat.cast_zero, zero_mul]
      · rw [← number.subnormal value small positive, ← value]
  next large =>
    have positive : 0 < number.magnitude := by
      rw [value]
      exact mul_pos (by exact_mod_cast (show 0 < m by omega)) (zpow_pos two_pos _)
    have greatest := number.exponent_le positive
    have unit : fieldUnit (format.exponent number.magnitude + 150).toNat = format.exponent number.magnitude := by
      rw [fieldUnit]
      omega
    have all : fieldSignificand (format.exponent number.magnitude + 150).toNat (m - 2 ^ 23) = m := by
      rw [fieldSignificand, if_neg (by omega)]
      omega
    have bits := ofBits_fields number.negative (show (format.exponent number.magnitude + 150).toNat < 255 by omega)
      (show m - 2 ^ 23 < 2 ^ 23 by omega)
    rw [bits]
    congr 1
    ext
    · rfl
    · dsimp only
      rw [unit, all, ← value]

end

end OmpMySQL.Library.Binary32
