import Mathlib.Data.List.DropRight
import OmpMySQL.Library.Precision

/-! Numbers as text: digits with a point and an exponent, printed to so many significant
digits and read again. A sign is kept apart. -/

namespace OmpMySQL.Library.Decimals
open Precision

/-- How numbers are written: in a base, with an exponent of a radix after a mark. -/
structure Numeral where
  base : ℕ
  digit : Char → Option ℕ
  marks : List Char
  radix : ℕ

def decimalDigit (char : Char) : Option ℕ := if char.isDigit then some (char.toNat - '0'.toNat) else none

def hexDigit (char : Char) : Option ℕ :=
  if char.isDigit then some (char.toNat - '0'.toNat)
  else if 'a' ≤ char ∧ char ≤ 'f' then some (char.toNat - 'a'.toNat + 10)
  else if 'A' ≤ char ∧ char ≤ 'F' then some (char.toNat - 'A'.toNat + 10)
  else none

def decimal : Numeral := ⟨10, decimalDigit, ['e', 'E'], 10⟩

def hexadecimal : Numeral := ⟨16, hexDigit, ['p', 'P'], 2⟩

/-- The digits that a text starts with. -/
def digitsOf (digit : Char → Option ℕ) (text : List Char) : List ℕ :=
  (text.takeWhile fun char => (digit char).isSome).filterMap digit

def afterDigits (digit : Char → Option ℕ) (text : List Char) : List Char :=
  text.dropWhile fun char => (digit char).isSome

def digitsValue (base : ℕ) (digits : List ℕ) : ℕ := digits.foldl (fun total digit => base * total + digit) 0

/-- The text after a point. -/
def afterPoint : List Char → Option (List Char)
  | '.' :: rest => some rest
  | _ => none

/-- An exponent without digits counts as none. -/
def readExponent (marks : List Char) : List Char → ℤ
  | mark :: sign :: rest =>
    if mark ∉ marks then 0
    else if sign = '-' then -digitsValue 10 (digitsOf decimalDigit rest)
    else if sign = '+' then digitsValue 10 (digitsOf decimalDigit rest)
    else digitsValue 10 (digitsOf decimalDigit (sign :: rest))
  | _ => 0

/-- The number at the start of a text, if there is one. -/
def Numeral.read (numeral : Numeral) (text : List Char) : Option ℚ :=
  let whole := digitsOf numeral.digit text
  let rest := afterDigits numeral.digit text
  let fraction := ((afterPoint rest).map (digitsOf numeral.digit)).getD []
  let tail := ((afterPoint rest).map (afterDigits numeral.digit)).getD rest
  if whole = [] ∧ fraction = [] then none
  else
    some (digitsValue numeral.base (whole ++ fraction) / (numeral.base : ℚ) ^ fraction.length *
      (numeral.radix : ℚ) ^ readExponent numeral.marks tail)

/-- The numbers with so many digits after the first. -/
def significant (places : ℕ) : Format where
  base := 10
  digits := places + 1
  least := none
  one_lt_base := by decide
  digits_pos := Nat.succ_pos places

/-- Zeros at the end of a fraction are not printed, nor is a point with nothing after it. -/
def plain (whole fraction : List Char) : List Char :=
  let fraction := fraction.rdropWhile (· = '0')
  if fraction = [] then whole else whole ++ '.' :: fraction

/-- At least two digits. -/
def exponentText (power : ℤ) : List Char :=
  let digits := Nat.toDigits 10 power.natAbs
  'e' :: (if power < 0 then '-' else '+') :: if power.natAbs < 10 then '0' :: digits else digits

/-- What `%g` prints of a number from zero on, with so many digits after the first. -/
def general (places : ℕ) (q : ℚ) : List Char :=
  if q = 0 then ['0']
  else
    let rounded := (significant places).round q
    let power := Int.log 10 rounded
    let digits := Nat.toDigits 10 ((significant places).significand rounded).toNat
    if power < -4 ∨ (places : ℤ) < power then plain (digits.take 1) (digits.drop 1) ++ exponentText power
    else if power < 0 then plain ['0'] (List.replicate (-power - 1).toNat '0' ++ digits)
    else plain (digits.take (power.toNat + 1)) (digits.drop (power.toNat + 1))

def Digits (text : List Char) : Prop := ∀ char ∈ text, char.isDigit = true

/-- A text that goes on with no digit. -/
def Stops (text : List Char) : Prop := ∀ char ∈ text.head?, char.isDigit = false

section
variable {text rest whole fraction : List Char}

theorem decimalDigit_isSome (char : Char) : (decimalDigit char).isSome = char.isDigit := by
  rw [decimalDigit]
  cases char.isDigit <;> rfl

theorem Stops.dropWhile (stops : Stops rest) : rest.dropWhile Char.isDigit = rest := by
  cases rest with
  | nil => rfl
  | cons char rest =>
    have other := stops char rfl
    exact List.dropWhile_cons_of_neg (by simp [other])

theorem Stops.takeWhile (stops : Stops rest) : rest.takeWhile Char.isDigit = [] := by
  cases rest with
  | nil => rfl
  | cons char rest =>
    have other := stops char rfl
    exact List.takeWhile_cons_of_neg (by simp [other])

theorem afterDigits_append (digits : Digits text) (stops : Stops rest) : afterDigits decimalDigit (text ++ rest) = rest := by
  simp only [afterDigits, decimalDigit_isSome]
  rw [List.dropWhile_append_of_pos digits, stops.dropWhile]

theorem digitsOf_append (digits : Digits text) (stops : Stops rest) :
    digitsOf decimalDigit (text ++ rest) = text.map fun char => char.toNat - '0'.toNat := by
  simp only [digitsOf, decimalDigit_isSome]
  rw [List.takeWhile_append_of_pos digits, stops.takeWhile, List.append_nil, ← List.filterMap_eq_map]
  apply List.filterMap_congr
  intro char inside
  exact if_pos (digits char inside)

theorem digitsOf_digits (digits : Digits text) : digitsOf decimalDigit text = text.map fun char => char.toNat - '0'.toNat := by
  have alone := @digitsOf_append text [] digits (fun _ none => by cases none)
  rwa [List.append_nil] at alone

theorem digitsValue_map (text : List Char) :
    digitsValue 10 (text.map fun char => char.toNat - '0'.toNat) = Nat.ofDigitChars 10 text 0 := by
  rw [digitsValue, List.foldl_map, Nat.ofDigitChars_eq_foldl]

theorem digits_toDigits (n : ℕ) : Digits (Nat.toDigits 10 n) :=
  fun _ inside => Nat.isDigit_of_mem_toDigits (by decide) (by decide) inside

theorem Digits.append (digits : Digits text) (more : Digits rest) : Digits (text ++ rest) := by
  intro char inside
  exact (List.mem_append.mp inside).elim (digits char) (more char)

theorem Digits.sublist (digits : Digits text) (part : rest.Sublist text) : Digits rest :=
  fun char inside => digits char (part.subset inside)

theorem digits_zeros (count : ℕ) : Digits (List.replicate count '0') := by
  intro char inside
  rw [(List.mem_replicate.mp inside).2]
  rfl

/-- An exponent is read as printed. -/
theorem readExponent_text (power : ℤ) : readExponent ['e', 'E'] (exponentText power) = power := by
  have padded : digitsValue 10 (digitsOf decimalDigit
      (if power.natAbs < 10 then '0' :: Nat.toDigits 10 power.natAbs else Nat.toDigits 10 power.natAbs)) =
      power.natAbs := by
    split
    next =>
      have zero : '0' :: Nat.toDigits 10 power.natAbs = List.replicate 1 '0' ++ Nat.toDigits 10 power.natAbs := rfl
      rw [zero, digitsOf_digits ((digits_zeros 1).append (digits_toDigits _)), digitsValue_map, Nat.ofDigitChars_append]
      exact Nat.ofDigitChars_ten_toDigits
    next => rw [digitsOf_digits (digits_toDigits _), digitsValue_map, Nat.ofDigitChars_ten_toDigits]
  have marked : ¬ 'e' ∉ ['e', 'E'] := by decide
  rw [exponentText]
  by_cases negative : power < 0
  · rw [if_pos negative, readExponent, if_neg marked, if_pos rfl, padded]
    omega
  · rw [if_neg negative, readExponent, if_neg marked, if_neg (by decide), if_pos rfl, padded]
    omega

/-- A text that may follow a number: nothing, or an exponent. -/
inductive Tail : List Char → ℤ → Prop where
  | nothing : Tail [] 0
  | exponent (power : ℤ) : Tail (exponentText power) power

theorem Tail.stops {tail : List Char} {power : ℤ} (reads : Tail tail power) : Stops tail := by
  cases reads with
  | nothing => exact fun _ none => by cases none
  | exponent power =>
    intro char first
    cases first
    rfl

theorem Tail.read {tail : List Char} {power : ℤ} (reads : Tail tail power) : readExponent ['e', 'E'] tail = power := by
  cases reads with
  | nothing => rfl
  | exponent power => exact readExponent_text power

theorem Tail.afterPoint {tail : List Char} {power : ℤ} (reads : Tail tail power) : afterPoint tail = none := by
  cases reads with
  | nothing => rfl
  | exponent power => rfl

theorem fraction_zeros (fraction : List Char) :
    ∃ count, fraction = fraction.rdropWhile (· = '0') ++ List.replicate count '0' := by
  refine ⟨(fraction.rtakeWhile (· = '0')).length, ?_⟩
  have zeros : fraction.rtakeWhile (· = '0') = List.replicate (fraction.rtakeWhile (· = '0')).length '0' := by
    apply List.eq_replicate_of_mem
    intro char inside
    have zero := List.mem_rtakeWhile_imp inside
    exact of_decide_eq_true zero
  rw [← zeros, List.rdropWhile_append_rtakeWhile]

theorem value_zeros (kept : List Char) (count : ℕ) :
    (Nat.ofDigitChars 10 (kept ++ List.replicate count '0') 0 : ℚ) = Nat.ofDigitChars 10 kept 0 * 10 ^ count := by
  rw [Nat.ofDigitChars_append, Nat.ofDigitChars_replicate_zero]
  push_cast
  ring

/-- A number with a point in it. -/
theorem read_pointed {tail : List Char} {power : ℤ} (some_whole : whole ≠ []) (digits : Digits whole)
    (also : Digits fraction) (reads : Tail tail power) :
    decimal.read (whole ++ '.' :: (fraction ++ tail)) =
      some (Nat.ofDigitChars 10 (whole ++ fraction) 0 / (10 : ℚ) ^ fraction.length * (10 : ℚ) ^ power) := by
  have point : Stops ('.' :: (fraction ++ tail)) := by
    intro char first
    cases first
    rfl
  have mapped : digitsOf decimal.digit (whole ++ '.' :: (fraction ++ tail)) = whole.map fun char => char.toNat - '0'.toNat :=
    digitsOf_append digits point
  have after : afterDigits decimal.digit (whole ++ '.' :: (fraction ++ tail)) = '.' :: (fraction ++ tail) :=
    afterDigits_append digits point
  have more : digitsOf decimal.digit (fraction ++ tail) = fraction.map fun char => char.toNat - '0'.toNat :=
    digitsOf_append also reads.stops
  have rest : afterDigits decimal.digit (fraction ++ tail) = tail := afterDigits_append also reads.stops
  have exponent : readExponent decimal.marks tail = power := reads.read
  rw [Numeral.read, mapped, after]
  simp only [afterPoint, Option.map_some, Option.getD_some, more, rest, exponent]
  rw [if_neg (by simp [some_whole]), ← List.map_append, List.length_map]
  simp only [decimal, digitsValue_map, Nat.cast_ofNat]

/-- A number without one. -/
theorem read_whole {tail : List Char} {power : ℤ} (some_whole : whole ≠ []) (digits : Digits whole) (reads : Tail tail power) :
    decimal.read (whole ++ tail) = some (Nat.ofDigitChars 10 whole 0 * (10 : ℚ) ^ power) := by
  have mapped : digitsOf decimal.digit (whole ++ tail) = whole.map fun char => char.toNat - '0'.toNat :=
    digitsOf_append digits reads.stops
  have after : afterDigits decimal.digit (whole ++ tail) = tail := afterDigits_append digits reads.stops
  have exponent : readExponent decimal.marks tail = power := reads.read
  rw [Numeral.read, mapped, after]
  simp only [reads.afterPoint, Option.map_none, Option.getD_none, exponent]
  rw [if_neg (by simp [some_whole]), List.append_nil]
  simp only [decimal, digitsValue_map, Nat.cast_ofNat, List.length_nil, pow_zero, div_one]

/-- A printed number means its digits, the zeros that were left out included. -/
theorem read_plain {tail : List Char} {power : ℤ} (some_whole : whole ≠ []) (digits : Digits whole)
    (also : Digits fraction) (reads : Tail tail power) :
    decimal.read (plain whole fraction ++ tail) =
      some (Nat.ofDigitChars 10 (whole ++ fraction) 0 / (10 : ℚ) ^ fraction.length * (10 : ℚ) ^ power) := by
  obtain ⟨count, split⟩ := fraction_zeros fraction
  have shown : (Nat.ofDigitChars 10 (whole ++ fraction) 0 : ℚ) / 10 ^ fraction.length =
      Nat.ofDigitChars 10 (whole ++ fraction.rdropWhile (· = '0')) 0 / 10 ^ (fraction.rdropWhile (· = '0')).length := by
    nth_rewrite 1 2 [split]
    rw [← List.append_assoc, value_zeros, List.length_append, List.length_replicate, pow_add]
    exact mul_div_mul_right _ _ (pow_ne_zero _ (by norm_num))
  rw [shown, plain]
  split
  next none =>
    rw [none, read_whole some_whole digits reads, List.append_nil, List.length_nil, pow_zero, div_one]
  next some_fraction =>
    have kept : Digits (fraction.rdropWhile (· = '0')) := also.sublist (List.rdropWhile_prefix _ fraction).sublist
    rw [List.append_assoc, List.cons_append, read_pointed some_whole digits kept reads]

end

section
variable {places : ℕ} {q : ℚ}

/-- The digits of a number that has no more of them. -/
theorem significant_digits (positive : 0 < q) (exact : (significant places).Exact q) :
    ∃ m : ℕ, (significant places).significand q = m ∧ 10 ^ places ≤ m ∧ m < 10 ^ (places + 1) ∧
      q = m * (10 : ℚ) ^ (Int.log 10 q - places) := by
  obtain ⟨m, same⟩ := Int.eq_ofNat_of_zero_le (@Format.significand_nonneg (significant places) _ positive.le)
  have value := Format.round_of_exact exact positive.le
  have unit : (significant places).unit q = (10 : ℚ) ^ (Int.log 10 q - places) := by
    rw [Format.unit, Format.exponent]
    change (10 : ℚ) ^ (Int.log 10 q + 1 - ((places + 1 : ℕ) : ℤ)) = _
    congr 1
    omega
  have size : q = m * (10 : ℚ) ^ (Int.log 10 q - places) := by
    rw [Format.round, same, unit, Int.cast_natCast] at value
    exact value.symm
  have power : (0 : ℚ) < (10 : ℚ) ^ (Int.log 10 q - places) := zpow_pos (by norm_num) _
  refine ⟨m, same, ?_, ?_, size⟩
  · have low := Int.zpow_log_le_self (b := 10) (by decide) positive
    have split : ((10 : ℕ) : ℚ) ^ Int.log 10 q = (10 : ℚ) ^ places * (10 : ℚ) ^ (Int.log 10 q - places) := by
      rw [← zpow_natCast, ← zpow_add₀ (by norm_num)]
      norm_num
    rw [split] at low
    nth_rewrite 2 [size] at low
    exact_mod_cast le_of_mul_le_mul_right low power
  · have high := @Format.lt_units (significant places) q
    rw [unit] at high
    nth_rewrite 1 [size] at high
    have digits := lt_of_mul_lt_mul_right high power.le
    exact_mod_cast digits

theorem toDigits_length_eq {m : ℕ} (low : 10 ^ places ≤ m) (high : m < 10 ^ (places + 1)) :
    (Nat.toDigits 10 m).length = places + 1 := by
  refine le_antisymm ((Nat.length_toDigits_le_iff (by decide) (Nat.succ_pos places)).mpr high) ?_
  cases places with
  | zero => exact Nat.length_toDigits_pos
  | succ places =>
    by_contra short
    have fits := (Nat.length_toDigits_le_iff (b := 10) (n := m) (by decide) (Nat.succ_pos places)).mp (by omega)
    omega

theorem shift (m : ℚ) (places : ℕ) (power : ℤ) : m / 10 ^ places * (10 : ℚ) ^ power = m * (10 : ℚ) ^ (power - places) := by
  rw [zpow_sub₀ (by norm_num), zpow_natCast]
  ring

theorem ofDigitChars_zeros (count : ℕ) (text : List Char) :
    Nat.ofDigitChars 10 (List.replicate count '0' ++ text) 0 = Nat.ofDigitChars 10 text 0 := by
  rw [Nat.ofDigitChars_append, Nat.ofDigitChars_replicate_zero, Nat.mul_zero]

/-- The point stands where the power of ten has it. -/
theorem read_placed {whole fraction : List Char} {power : ℤ} {m : ℕ} (some_whole : whole ≠ []) (digits : Digits whole)
    (also : Digits fraction) (all : Nat.ofDigitChars 10 (whole ++ fraction) 0 = m)
    (length : (fraction.length : ℤ) = places - power) :
    decimal.read (plain whole fraction) = some (m * (10 : ℚ) ^ (power - places)) := by
  have read := read_plain some_whole digits also Tail.nothing
  have shifted : (0 : ℤ) - fraction.length = power - places := by omega
  rwa [List.append_nil, all, shift, shifted] at read

/-- What is printed is read as the rounded number. -/
theorem read_general (nonneg : 0 ≤ q) : decimal.read (general places q) = some ((significant places).round q) := by
  rcases nonneg.eq_or_lt with rfl | above
  · rw [Format.round_zero, general, if_pos rfl]
    have zero := @read_whole ['0'] [] 0 (by simp) (digits_zeros 1) Tail.nothing
    have none : Nat.ofDigitChars 10 ['0'] 0 = 0 := rfl
    rwa [List.append_nil, none, Nat.cast_zero, zero_mul] at zero
  have positive := @Format.round_pos (significant places) _ rfl above
  obtain ⟨m, same, low, high, size⟩ := significant_digits positive (Format.round_exact nonneg)
  have digits := digits_toDigits m
  have length := toDigits_length_eq low high
  have all : Nat.ofDigitChars 10 (Nat.toDigits 10 m) 0 = m := Nat.ofDigitChars_ten_toDigits
  rw [general, if_neg above.ne']
  simp only [same, Int.toNat_natCast]
  have taken : ∀ count, 0 < count → (Nat.toDigits 10 m).take count ≠ [] := by
    intro count some_count none
    have empty := congrArg List.length none
    rw [List.length_take, length, List.length_nil] at empty
    omega
  split_ifs with scientific small
  · rw [read_plain (taken 1 Nat.one_pos) (digits.sublist (List.take_sublist _ _)) (digits.sublist (List.drop_sublist _ _))
      (Tail.exponent _), List.take_append_drop, all, List.length_drop, length, shift, Nat.add_sub_cancel, ← size]
  · refine (read_placed (by simp) (digits_zeros 1) ((digits_zeros _).append digits) ?_ ?_).trans (congrArg some size.symm)
    · exact (ofDigitChars_zeros 1 _).trans ((ofDigitChars_zeros _ _).trans all)
    · rw [List.length_append, List.length_replicate, length]
      omega
  · refine (read_placed (taken _ (Nat.succ_pos _)) (digits.sublist (List.take_sublist _ _))
      (digits.sublist (List.drop_sublist _ _)) ?_ ?_).trans (congrArg some size.symm)
    · rw [List.take_append_drop, all]
    · rw [List.length_drop, length]
      omega

/-- A digit or one of the other characters of a number. -/
def Numeric (char : Char) : Prop := char.isDigit = true ∨ char ∈ ['.', 'e', '+', '-']

/-- A text of such characters that starts with a digit. -/
structure Printed (text : List Char) : Prop where
  numeric : ∀ char ∈ text, Numeric char
  starts : ∃ first rest, text = first :: rest ∧ first.isDigit = true

theorem Digits.numeric {text : List Char} (digits : Digits text) : ∀ char ∈ text, Numeric char :=
  fun char inside => Or.inl (digits char inside)

theorem printed_plain {whole fraction : List Char} (some_whole : whole ≠ []) (digits : Digits whole)
    (also : Digits fraction) : Printed (plain whole fraction) := by
  obtain ⟨first, rest, same⟩ := List.exists_cons_of_ne_nil some_whole
  have leading : first.isDigit = true := digits first (same ▸ List.mem_cons_self)
  rw [plain]
  split
  next => exact ⟨digits.numeric, first, rest, same, leading⟩
  next =>
    refine ⟨?_, first, _, by rw [same]; rfl, leading⟩
    intro char inside
    rcases List.mem_append.mp inside with before | later
    · exact digits.numeric char before
    · rcases List.mem_cons.mp later with point | after
      · exact Or.inr (by simp [point])
      · exact also.numeric char ((List.rdropWhile_prefix _ fraction).sublist.subset after)

theorem numeric_exponent (power : ℤ) : ∀ char ∈ exponentText power, Numeric char := by
  intro char inside
  rcases List.mem_cons.mp inside with mark | rest
  · exact Or.inr (by simp [mark])
  rcases List.mem_cons.mp rest with sign | digits
  · rw [sign]
    split
    next => exact Or.inr (by decide)
    next => exact Or.inr (by decide)
  · split at digits
    next =>
      rcases List.mem_cons.mp digits with zero | digit
      · exact Or.inl (zero ▸ rfl)
      · exact (digits_toDigits _).numeric char digit
    next => exact (digits_toDigits _).numeric char digits

theorem Printed.append {text more : List Char} (printed : Printed text) (numeric : ∀ char ∈ more, Numeric char) :
    Printed (text ++ more) := by
  obtain ⟨first, rest, same, digit⟩ := printed.starts
  refine ⟨?_, first, rest ++ more, by rw [same]; rfl, digit⟩
  intro char inside
  exact (List.mem_append.mp inside).elim (printed.numeric char) (numeric char)

theorem printed_general (places : ℕ) (q : ℚ) : Printed (general places q) := by
  have taken (m count : ℕ) : (Nat.toDigits 10 m).take (count + 1) ≠ [] := by
    simp [List.take_eq_nil_iff]
  rw [general]
  dsimp only
  split_ifs
  · exact ⟨(digits_zeros 1).numeric, '0', [], rfl, rfl⟩
  · exact (printed_plain (taken _ 0) ((digits_toDigits _).sublist (List.take_sublist _ _))
      ((digits_toDigits _).sublist (List.drop_sublist _ _))).append (numeric_exponent _)
  · exact printed_plain (by simp) (digits_zeros 1) ((digits_zeros _).append (digits_toDigits _))
  · exact printed_plain (taken _ _) ((digits_toDigits _).sublist (List.take_sublist _ _))
      ((digits_toDigits _).sublist (List.drop_sublist _ _))

theorem plain_length (whole fraction : List Char) : (plain whole fraction).length ≤ whole.length + fraction.length + 1 := by
  have shorter := (List.rdropWhile_prefix (fun char => decide (char = '0')) fraction).length_le
  rw [plain]
  split
  next => omega
  next =>
    rw [List.length_append, List.length_cons]
    omega

theorem exponentText_length {power : ℤ} (small : power.natAbs < 100) : (exponentText power).length ≤ 4 := by
  have digits (count : ℕ) (positive : 0 < count) (bound : power.natAbs < 10 ^ count) :
      (Nat.toDigits 10 power.natAbs).length ≤ count := (Nat.length_toDigits_le_iff (by decide) positive).mpr bound
  rw [exponentText, List.length_cons, List.length_cons]
  split
  next one =>
    have single := digits 1 Nat.one_pos one
    rw [List.length_cons]
    omega
  next =>
    have two := digits 2 Nat.two_pos small
    omega

/-- A printed number is short unless it is very large or very small. -/
theorem general_length (nonneg : 0 ≤ q) (small : (Int.log 10 ((significant places).round q)).natAbs < 100) :
    (general places q).length ≤ places + 6 := by
  rcases nonneg.eq_or_lt with rfl | above
  · rw [general, if_pos rfl]
    exact Nat.le_add_left 1 (places + 5)
  have positive := @Format.round_pos (significant places) _ rfl above
  obtain ⟨m, same, low, high, _⟩ := significant_digits positive (Format.round_exact nonneg)
  have length := toDigits_length_eq low high
  rw [general, if_neg above.ne']
  simp only [same, Int.toNat_natCast]
  split_ifs with scientific negative
  · have printed := plain_length ((Nat.toDigits 10 m).take 1) ((Nat.toDigits 10 m).drop 1)
    have power := exponentText_length small
    rw [List.length_take, List.length_drop, length] at printed
    rw [List.length_append]
    omega
  · have printed := plain_length ['0']
      (List.replicate (-Int.log 10 ((significant places).round q) - 1).toNat '0' ++ Nat.toDigits 10 m)
    rw [List.length_append, List.length_replicate, length, List.length_singleton] at printed
    omega
  · have printed := plain_length ((Nat.toDigits 10 m).take ((Int.log 10 ((significant places).round q)).toNat + 1))
      ((Nat.toDigits 10 m).drop ((Int.log 10 ((significant places).round q)).toNat + 1))
    rw [List.length_take, List.length_drop, length] at printed
    omega

end

end OmpMySQL.Library.Decimals
