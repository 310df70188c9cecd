/-! The functions of the C library that the component leans on, in the C locale. -/

namespace OmpMySQL

def isspace (char : Char) : Bool := char = ' ' || 9 ≤ char.toNat && char.toNat ≤ 13

theorem solid_of_digit {char : Char} (digit : char.isDigit = true) : isspace char = false := by
  simp only [Char.isDigit, Bool.and_eq_true, decide_eq_true_eq, ge_iff_le, UInt32.le_iff_toNat_le] at digit
  have low : 48 ≤ char.toNat := digit.1
  have apart : char ≠ ' ' := by
    intro same
    rw [same] at low
    exact absurd low (by decide)
  simp only [isspace, apart, decide_false, Bool.false_or, Bool.and_eq_false_iff, decide_eq_false_iff_not]
  omega

def iscntrl (char : Char) : Bool := char.toNat < 32 || char.toNat == 127

/-- What is left of a `std::string` passed as `c_str()`. -/
def cString (text : String) : String := String.ofList (text.toList.takeWhile (· ≠ Char.ofNat 0))

def strtolDigits (total : Nat) : List Char → Nat
  | [] => total
  | char :: rest =>
    if char.isDigit then strtolDigits (10 * total + (char.toNat - '0'.toNat)) rest else total

/-- `strtol` in base ten where `long` has 32 bits. -/
def strtol (text : String) : Int :=
  let body := text.toList.dropWhile isspace
  let clamp (value : Int) : Int := max (-0x80000000) (min 0x7fffffff value)
  match body with
  | '-' :: digits => clamp (-(strtolDigits 0 digits))
  | '+' :: digits => clamp (strtolDigits 0 digits)
  | digits => clamp (strtolDigits 0 digits)

/-! `strtol` reads what `std::to_string` wrote. -/

theorem strtolDigits_eq {digits : List Char} (numeric : ∀ char ∈ digits, char.isDigit = true) (total : Nat) :
    strtolDigits total digits = Nat.ofDigitChars 10 digits total := by
  induction digits generalizing total with
  | nil => rfl
  | cons char rest ih =>
    rw [strtolDigits, if_pos (numeric char List.mem_cons_self), Nat.ofDigitChars_cons]
    exact ih (fun other member => numeric other (List.mem_cons_of_mem _ member)) _

theorem toDigits_numeric (size : Nat) : ∀ char ∈ Nat.toDigits 10 size, char.isDigit = true :=
  fun _ member => Nat.isDigit_of_mem_toDigits (by decide) (by decide) member

theorem strtolDigits_toDigits (size : Nat) : strtolDigits 0 (Nat.toDigits 10 size) = size := by
  rw [strtolDigits_eq (toDigits_numeric size), Nat.ofDigitChars_ten_toDigits]

theorem toString_toList (value : Int) :
    (toString value).toList =
      if value < 0 then '-' :: Nat.toDigits 10 value.natAbs else Nat.toDigits 10 value.natAbs := by
  rw [Int.toString_eq_repr, Int.repr_eq_if]
  by_cases negative : value < 0
  · have size : (-value).toNat = value.natAbs := by omega
    rw [if_neg (Int.not_le.mpr negative), if_pos negative, size]
    simp
  · have size : value.toNat = value.natAbs := by omega
    rw [if_pos (Int.not_lt.mp negative), if_neg negative, size]
    simp

theorem strtol_toString {value : Int} (low : -0x80000000 ≤ value) (high : value ≤ 0x7fffffff) :
    strtol (toString value) = value := by
  have amount := strtolDigits_toDigits value.natAbs
  rw [strtol, toString_toList]
  by_cases negative : value < 0
  · rw [if_pos negative, List.dropWhile_cons_of_neg (by decide)]
    simp only [amount]
    omega
  · obtain ⟨first, rest, digits⟩ := List.exists_cons_of_ne_nil (Nat.toDigits_ne_nil (n := value.natAbs) (b := 10))
    have numeric : first.isDigit = true := toDigits_numeric value.natAbs first (digits ▸ List.mem_cons_self)
    rw [digits] at amount
    rw [if_neg negative, digits, List.dropWhile_cons_of_neg (by simp [solid_of_digit numeric])]
    dsimp only
    split
    next minus =>
      rw [(List.cons.inj minus).1] at numeric
      cases numeric
    next plus =>
      rw [(List.cons.inj plus).1] at numeric
      cases numeric
    next =>
      rw [amount]
      omega

end OmpMySQL
