import Mathlib.Data.Set.List
import OmpMySQL.Proofs.FormatRendering
import OmpMySQL.Vectors

/-! Floats that are packed into a text and taken out again. The text has six digits of
each, which is not enough for all of them. -/

namespace OmpMySQL
open Library Precision Decimals

/-! One component. -/

theorem numeric_ne {char other : Char} (numeric : Numeric char) (letter : other.isDigit = false)
    (another : other ∉ ['.', 'e', '+', '-']) : char ≠ other := by
  intro same
  rcases numeric with digit | sign
  · rw [same, letter] at digit
    cases digit
  · exact another (same ▸ sign)

/-- A text that the parser takes for one component, all of it. -/
structure ComponentText (text : List Char) : Prop where
  some : text ≠ []
  numeric : ∀ char ∈ text, Numeric char

theorem percentG_component (number : Binary32.Finite) : ComponentText (percentG (.finite number)) := by
  have printed := printed_general 5 number.magnitude
  obtain ⟨first, rest, same, _⟩ := printed.starts
  refine ⟨by simp [percentG, same], ?_⟩
  intro char inside
  rcases List.mem_append.mp inside with sign | digits
  · split at sign
    next => exact Or.inr (by simp [List.mem_singleton.mp sign])
    next => cases sign
  · exact printed.numeric char digits

theorem toLower_numeric {char : Char} (numeric : Numeric char) : char.toLower = char := by
  rcases numeric with digit | sign
  · have low : ¬ ('A'.val ≤ char.val ∧ char.val ≤ 'Z'.val) := by
      simp only [Char.isDigit, Bool.and_eq_true, decide_eq_true_eq] at digit
      intro upper
      have beyond := UInt32.le_trans upper.1 digit.2
      exact absurd beyond (by decide)
    exact dif_neg low
  · simp only [List.mem_cons, List.not_mem_nil, or_false] at sign
    rcases sign with rfl | rfl | rfl | rfl <;> rfl

/-- A spelled-out word does not start a printed number. -/
theorem not_word {text : List Char} (numeric : ∀ char ∈ text, Numeric char) {word : List Char} {letter : Char}
    (inside : letter ∈ word) (other : letter.isDigit = false) (another : letter ∉ ['.', 'e', '+', '-']) :
    word.isPrefixOf text = false := by
  rw [Bool.eq_false_iff, ne_eq, List.isPrefixOf_iff_prefix]
  intro starts
  exact numeric_ne (numeric letter (starts.subset inside)) other another rfl

theorem unsignedNumber_printed (negative : Bool) {text : List Char} {size : ℚ} (numeric : ∀ char ∈ text, Numeric char)
    (reads : decimal.read text = some size) : unsignedNumber negative text = Binary32.nearest negative size := by
  have small : text.map Char.toLower = text :=
    (List.map_congr_left (fun char inside => toLower_numeric (numeric char inside))).trans (List.map_id text)
  have infinity := @not_word text numeric "inf".toList 'i' (by decide) rfl (by decide)
  have nan := @not_word text numeric "nan".toList 'n' (by decide) rfl (by decide)
  have hexadecimal := @not_word text numeric "0x".toList 'x' (by decide) rfl (by decide)
  rw [unsignedNumber]
  simp only [small, infinity, nan, hexadecimal, Bool.false_eq_true, if_false, Option.none_or, reads]

theorem atof_percentG (number : Binary32.Finite) :
    atof (percentG (.finite number)) =
      Binary32.nearest number.negative ((significant 5).round number.magnitude) := by
  have printed := printed_general 5 number.magnitude
  have reads := @read_general 5 _ number.nonneg
  obtain ⟨first, rest, same, digit⟩ := printed.starts
  cases sign : number.negative with
  | true =>
    have text : percentG (.finite number) = '-' :: general 5 number.magnitude := by
      rw [percentG, sign]
      rfl
    rw [text, atof, List.dropWhile_cons_of_neg (by decide)]
    exact unsignedNumber_printed true printed.numeric reads
  | false =>
    have text : percentG (.finite number) = first :: rest := by
      rw [percentG, sign, ← same]
      rfl
    rw [text, atof, List.dropWhile_cons_of_neg (by simp [solid_of_digit digit])]
    have value := unsignedNumber_printed false printed.numeric reads
    rw [same] at value
    split
    next minus =>
      rw [(List.cons.inj minus).1] at digit
      cases digit
    next plus =>
      rw [(List.cons.inj plus).1] at digit
      cases digit
    next => exact value

theorem printed_power (number : Binary32.Finite) :
    (Int.log 10 ((significant 5).round number.magnitude)).natAbs < 100 := by
  rcases number.nonneg.eq_or_lt with zero | positive
  · rw [← zero, Format.round_zero, Int.log_zero_right]
    decide
  have above := @Format.round_pos (significant 5) _ rfl positive
  have high : (significant 5).round number.magnitude < ((10 : ℕ) : ℚ) ^ (100 : ℤ) := by
    have twice := @Format.round_le_twice (significant 5) _ number.nonneg
    have bounded := number.bounded
    have room : 2 * (2 : ℚ) ^ 128 < ((10 : ℕ) : ℚ) ^ (100 : ℤ) := by norm_num
    linarith
  have low : ((10 : ℕ) : ℚ) ^ (-99 : ℤ) ≤ number.magnitude := by
    refine le_trans ?_ (number.least_le positive)
    norm_num
  have least := (Int.zpow_le_iff_le_log (by decide) positive).mp low
  have greatest := (Int.lt_zpow_iff_log_lt (by decide) above).mp high
  have kept := (Int.zpow_le_iff_le_log (by decide) above).mp (@Format.top_le_round (significant 5) _ rfl positive)
  change Int.log 10 number.magnitude ≤ Int.log 10 _ at kept
  omega

/-- The printed number fits the buffer. -/
theorem numbuf_percentG (number : Binary32.Finite) :
    NativeCall.numbuf (String.ofList (percentG (.finite number))) = percentG (.finite number) := by
  have length := general_length number.nonneg (printed_power number)
  have sign : (if number.negative then ['-'] else []).length ≤ 1 := by
    split
    next => exact Nat.le_refl 1
    next => exact Nat.zero_le 1
  rw [NativeCall.numbuf, String.toList_ofList, List.take_of_length_le]
  rw [percentG, List.length_append]
  omega

/-! The whole text. -/

theorem flushNumber_component {text : List Char} (component : ComponentText text) (out : List Binary32.Number) :
    flushNumber text out = out ++ [atof text] := by
  have solid : ∀ char ∈ text, ¬ isPadding char = true := by
    intro char inside
    have blank := numeric_ne (component.numeric char inside) (show ' '.isDigit = false from rfl) (by decide)
    have tab := numeric_ne (component.numeric char inside) (show '\t'.isDigit = false from rfl) (by decide)
    simp [isPadding, blank, tab]
  have leading : text.dropWhile isPadding = text := by
    obtain ⟨first, rest, rfl⟩ := List.exists_cons_of_ne_nil component.some
    exact List.dropWhile_cons_of_neg (solid first List.mem_cons_self)
  have trailing : text.rdropWhile isPadding = text :=
    List.rdropWhile_eq_self_iff.mpr (fun some => solid _ (List.getLast_mem some))
  rw [flushNumber, leading, trailing, if_neg component.some]

theorem parseComponents_text {text : List Char} (numeric : ∀ char ∈ text, Numeric char) (rest num : List Char)
    (out : List Binary32.Number) :
    parseComponents (text ++ rest) num out = parseComponents rest (num ++ text) out := by
  induction text generalizing num with
  | nil => rw [List.nil_append, List.append_nil]
  | cons char text ih =>
    have here := numeric char List.mem_cons_self
    have close := numeric_ne here (show ']'.isDigit = false from rfl) (by decide)
    have comma := numeric_ne here (show ','.isDigit = false from rfl) (by decide)
    rw [List.cons_append, parseComponents, if_neg close, if_neg comma,
      ih (fun other inside => numeric other (List.mem_cons_of_mem _ inside)), List.append_assoc, List.singleton_append]

/-- Commas part the components, and the last one ends at the bracket. -/
theorem parseComponents_list {texts : List (List Char)} (components : ∀ text ∈ texts, ComponentText text)
    (out : List Binary32.Number) :
    parseComponents ([','].intercalate texts ++ [']']) [] out = out ++ texts.map atof := by
  induction texts generalizing out with
  | nil =>
    rw [List.map_nil, List.append_nil]
    rfl
  | cons text texts ih =>
    have first := components text List.mem_cons_self
    cases texts with
    | nil =>
      rw [List.intercalate_singleton, parseComponents_text first.numeric, List.nil_append, parseComponents, if_pos rfl,
        if_neg first.some, flushNumber_component first]
      rfl
    | cons next texts =>
      have later := ih (fun text inside => components text (List.mem_cons_of_mem _ inside))
      rw [List.intercalate_cons_cons, List.append_assoc, List.append_assoc, parseComponents_text first.numeric,
        List.nil_append, List.singleton_append, parseComponents, if_neg (by decide), if_pos rfl, flushNumber_component first,
        later, List.append_assoc]
      rfl

theorem parseVectorString_vectorText {values : List Binary32.Finite} :
    parseVectorString (String.ofList (vectorText (values.map .finite))) =
      values.map fun number => Binary32.nearest number.negative ((significant 5).round number.magnitude) := by
  have texts : ((values.map Binary32.Number.finite).map fun value => NativeCall.numbuf (String.ofList (percentG value))) =
      values.map fun number => percentG (.finite number) := by
    rw [List.map_map]
    exact List.map_congr_left (fun number _ => numbuf_percentG number)
  have components : ∀ text ∈ values.map fun number => percentG (.finite number), ComponentText text := by
    intro text inside
    obtain ⟨number, _, rfl⟩ := List.mem_map.mp inside
    exact percentG_component number
  have parsed := parseComponents_list components []
  rw [List.nil_append, List.map_map] at parsed
  rw [parseVectorString, String.toList_ofList, vectorText, texts, List.cons_append, List.dropWhile_cons_of_neg (by decide),
    List.drop_succ_cons, List.drop_zero, parsed]
  exact List.map_congr_left (fun number _ => atof_percentG number)

/-! Which floats come back. -/

/-- The float that is nearest to a number of at most six digits. -/
def SixDigits (number : Binary32.Finite) : Prop :=
  ∃ (digits : ℕ) (exponent : ℤ), digits < 10 ^ 6 ∧
    Binary32.format.round (digits * (10 : ℚ) ^ exponent) = number.magnitude

theorem sixDigits_iff (number : Binary32.Finite) :
    SixDigits number ↔ Binary32.format.round ((significant 5).round number.magnitude) = number.magnitude := by
  constructor
  · rintro ⟨digits, exponent, six, same⟩
    have exact : (significant 5).Exact (digits * (10 : ℚ) ^ exponent) := by
      refine ⟨digits, exponent, six, ?_, rfl⟩
      intro least none
      cases none
    have nonneg : (0 : ℚ) ≤ digits * (10 : ℚ) ^ exponent :=
      mul_nonneg (Nat.cast_nonneg digits) (zpow_nonneg (by norm_num) exponent)
    rw [← same]
    exact Format.round_coarse_round rfl (by decide) nonneg exact
  · intro same
    obtain ⟨digits, exponent, six, _, value⟩ := @Format.round_exact (significant 5) _ number.nonneg
    refine ⟨digits, exponent, six, ?_⟩
    rw [← same, value]
    rfl

theorem nearest_value (number : Binary32.Finite) :
    (Binary32.nearest number.negative ((significant 5).round number.magnitude)).value = some number.value ↔
      SixDigits number := by
  have size : |(significant 5).round number.magnitude| = (significant 5).round number.magnitude :=
    abs_of_nonneg (Format.round_nonneg number.nonneg)
  rw [sixDigits_iff, Binary32.nearest]
  simp only [size]
  split
  next bounded =>
    rw [Binary32.Number.value, Option.some.injEq, Binary32.Finite.value, Binary32.Finite.value]
    cases number.negative with
    | true => exact neg_inj
    | false => exact Iff.rfl
  next large =>
    constructor
    · intro none
      cases none
    · intro same
      rw [same] at large
      exact absurd number.bounded large

theorem floatOfCell_cellOfFloat (number : Binary32.Number) :
    floatOfCell (cellOfFloat number) = Binary32.ofBits number.toBits := by
  have wrapped : toCell number.toBits % (0x100000000 : ℕ) = number.toBits % (0x100000000 : ℕ) := Int.bmod_emod
  have bits : (toCell number.toBits % 0x100000000).toNat = number.toBits % 2 ^ 32 := congrArg Int.toNat wrapped
  rw [floatOfCell, cellOfFloat, bits, Binary32.ofBits_mod]

theorem stored_nearest (negative : Bool) (size : ℚ) :
    floatOfCell (cellOfFloat (Binary32.nearest negative size)) = Binary32.nearest negative size := by
  rw [floatOfCell_cellOfFloat, Binary32.nearest]
  split
  next => exact Binary32.ofBits_toBits _
  next => exact Binary32.ofBits_infinite negative

/-- A script packs floats into a text that has room for them. Later on it unpacks the same
text, and measures it. -/
structure VectorTrip (packed unpacked measured : NativeCall) (values text dest : Nat) : Prop where
  source : packed.getAddr (packed.param 1) = some values
  counted : toCell (packed.param 2) = packed.param 2
  finite : ∀ i < (packed.param 2).toNat, ∃ number, floatOfCell (packed.memory (values + i)) = .finite number
  target : packed.getAddr (packed.param 3) = some text
  fits : (vectorText (packed.floats values (packed.param 2))).length < packed.param 4
  unpacks : unpacked.getAddr (unpacked.param 1) = some text
  kept : ∀ cell, text ≤ cell → cell ≤ text + (vectorText (packed.floats values (packed.param 2))).length →
    unpacked.memory cell = packed.mysqlVectorToString.1 cell
  destination : unpacked.getAddr (unpacked.param 2) = some dest
  room : packed.param 2 ≤ unpacked.param 3
  measures : measured.getAddr (measured.param 1) = some text
  same : ∀ cell, text ≤ cell → cell ≤ text + (vectorText (packed.floats values (packed.param 2))).length →
    measured.memory cell = packed.mysqlVectorToString.1 cell

/-- As many floats come back as were packed, each with its value. -/
structure VectorBack (reader : ScriptReader) (packed unpacked measured : NativeCall) (values dest : Nat) : Prop where
  count : (unpacked.mysqlStringToVector reader).2 = (packed.param 2).toNat
  floats : ∀ i < (packed.param 2).toNat,
    (floatOfCell ((unpacked.mysqlStringToVector reader).1 (dest + i))).value =
      (floatOfCell (packed.memory (values + i))).value
  dim : measured.mysqlVectorDim reader = (packed.param 2).toNat

theorem numeric_pawn {char : Char} (numeric : Numeric char) : 0 < char.toNat ∧ char.toNat < 256 := by
  rcases numeric with digit | sign
  · simp only [Char.isDigit, Bool.and_eq_true, decide_eq_true_eq, ge_iff_le, UInt32.le_iff_toNat_le] at digit
    have low : 48 ≤ char.toNat := digit.1
    have high : char.toNat ≤ 57 := digit.2
    omega
  · simp only [List.mem_cons, List.not_mem_nil, or_false] at sign
    rcases sign with rfl | rfl | rfl | rfl <;> decide

theorem vectorText_pawn (numbers : List Binary32.Finite) : PawnText (vectorText (numbers.map .finite)) := by
  intro char inside
  rcases List.mem_append.mp inside with front | bracket
  · rcases List.mem_cons.mp front with rfl | list
    · decide
    rcases mem_intercalate list with rfl | ⟨text, member, inside⟩
    · decide
    · rw [List.map_map] at member
      obtain ⟨number, _, rfl⟩ := List.mem_map.mp member
      rw [Function.comp_apply, numbuf_percentG] at inside
      exact numeric_pawn ((percentG_component number).numeric char inside)
  · rw [List.mem_singleton.mp bracket]
    decide

namespace NativeCall
variable (call : NativeCall)

theorem mysqlVectorToString_memory {values : Nat} (source : call.getAddr (call.param 1) = some values) :
    call.mysqlVectorToString.1 =
      call.writeAmxString (call.param 3) (String.ofList (vectorText (call.floats values (call.param 2)))) (call.param 4) := by
  rw [mysqlVectorToString, source]

end NativeCall

namespace VectorTrip
variable {reader : ScriptReader} {packed unpacked measured : NativeCall} {values text dest : Nat}
  (trip : VectorTrip packed unpacked measured values text dest)
include trip

theorem numbers : ∃ numbers : List Binary32.Finite,
    packed.floats values (packed.param 2) = numbers.map .finite ∧ numbers.length = (packed.param 2).toNat := by
  have each : packed.floats values (packed.param 2) ∈ Set.range (List.map Binary32.Number.finite) := by
    rw [Set.range_list_map]
    intro item inside
    obtain ⟨i, below, rfl⟩ := List.mem_map.mp inside
    obtain ⟨number, held⟩ := trip.finite i (List.mem_range.mp below)
    exact ⟨number, held.symm⟩
  obtain ⟨numbers, same⟩ := each
  refine ⟨numbers, same.symm, ?_⟩
  have length := congrArg List.length same
  rwa [NativeCall.floats, List.length_map, List.length_map, List.length_range] at length

/-- The text is in memory, whole. -/
theorem holds :
    HoldsText packed.mysqlVectorToString.1 text (vectorText (packed.floats values (packed.param 2))) := by
  obtain ⟨numbers, same, _⟩ := trip.numbers
  have pawn := vectorText_pawn numbers
  rw [← same] at pawn
  rw [packed.mysqlVectorToString_memory trip.source]
  have whole := pawn.nulFree
  rw [NulFree, String.toList_ofList] at whole
  exact writeAmxString_holds trip.target ⟨trip.fits, whole⟩

theorem text_read (reads : reader.ReadsText) {call : NativeCall} (addr : call.getAddr (call.param 1) = some text)
    (same : ∀ cell, text ≤ cell → cell ≤ text + (vectorText (packed.floats values (packed.param 2))).length →
      call.memory cell = packed.mysqlVectorToString.1 cell) :
    call.amxStringParam reader (call.param 1) =
      String.ofList (vectorText (packed.floats values (packed.param 2))) := by
  obtain ⟨numbers, list, _⟩ := trip.numbers
  have pawn := vectorText_pawn numbers
  rw [← list] at pawn
  rw [NativeCall.amxStringParam, addr, Option.map_some, Option.getD_some]
  exact reads _ _ _ pawn (trip.holds.congr same)

theorem count_cell : toCell (packed.param 2).toNat = (packed.param 2).toNat := by
  by_cases negative : packed.param 2 ≤ 0
  · rw [Int.toNat_of_nonpos negative]
    rfl
  · rw [Int.toNat_of_nonneg (Int.le_of_lt (Int.not_le.mp negative))]
    exact trip.counted

/-- What the other two natives make of the text. -/
theorem results (reads : reader.ReadsText) {numbers : List Binary32.Finite}
    (list : packed.floats values (packed.param 2) = numbers.map .finite) (length : numbers.length = (packed.param 2).toNat) :
    (unpacked.mysqlStringToVector reader).1 =
        unpacked.storeFloats dest (numbers.map fun number =>
          Binary32.nearest number.negative ((significant 5).round number.magnitude)) ∧
      (unpacked.mysqlStringToVector reader).2 = (packed.param 2).toNat ∧
      measured.mysqlVectorDim reader = (packed.param 2).toNat := by
  have unpackedText := trip.text_read reads trip.unpacks trip.kept
  have measuredText := trip.text_read reads trip.measures trip.same
  have parsed := @parseVectorString_vectorText numbers
  rw [list] at unpackedText measuredText
  have room : (packed.param 2).toNat ≤ (unpacked.param 3).toNat := Int.toNat_le_toNat trip.room
  have whole : (numbers.map fun number =>
      Binary32.nearest number.negative ((significant 5).round number.magnitude)).length ≤ (unpacked.param 3).toNat := by
    rwa [List.length_map, length]
  have stored : unpacked.mysqlStringToVector reader =
      (unpacked.storeFloats dest (numbers.map fun number =>
        Binary32.nearest number.negative ((significant 5).round number.magnitude)), toCell numbers.length) := by
    rw [NativeCall.mysqlStringToVector, trip.destination]
    dsimp only
    rw [unpackedText, parsed, List.take_of_length_le whole, List.length_map]
  refine ⟨congrArg Prod.fst stored, ?_, ?_⟩
  · have returned := congrArg Prod.snd stored
    dsimp only at returned
    rw [length] at returned
    exact returned.trans trip.count_cell
  · rw [NativeCall.mysqlVectorDim, measuredText, parsed, List.length_map, length]
    exact trip.count_cell

end VectorTrip

theorem NativeCall.floats_at (call : NativeCall) (values : Nat) (count : Cell) {i : Nat} (below : i < count.toNat) :
    (call.floats values count)[i]? = some (floatOfCell (call.memory (values + i))) := by
  rw [floats, List.getElem?_map, List.getElem?_range below, Option.map_some]

theorem NativeCall.storeFloats_at (call : NativeCall) (dest : Nat) {values : List Binary32.Number} {i : Nat}
    {value : Binary32.Number} (held : values[i]? = some value) :
    call.storeFloats dest values (dest + i) = cellOfFloat value := by
  rw [storeFloats, if_pos (Nat.le_add_right dest i), Nat.add_sub_cancel_left, held, Option.map_some, Option.getD_some]

/-- A float comes back exactly when six digits are enough for it. -/
theorem VectorTrip.float_back {reader : ScriptReader} (reads : reader.ReadsText) {packed unpacked measured : NativeCall}
    {values text dest : Nat} (trip : VectorTrip packed unpacked measured values text dest) {i : Nat}
    (below : i < (packed.param 2).toNat) {number : Binary32.Finite}
    (held : floatOfCell (packed.memory (values + i)) = .finite number) :
    (floatOfCell ((unpacked.mysqlStringToVector reader).1 (dest + i))).value =
      (floatOfCell (packed.memory (values + i))).value ↔ SixDigits number := by
  obtain ⟨numbers, list, length⟩ := trip.numbers
  obtain ⟨stored, _⟩ := trip.results reads list length
  have place := packed.floats_at values _ below
  rw [list, held, List.getElem?_map] at place
  obtain ⟨same, found, equal⟩ := Option.map_eq_some_iff.mp place
  cases equal
  have kept : (numbers.map fun number =>
      Binary32.nearest number.negative ((significant 5).round number.magnitude))[i]? =
      some (Binary32.nearest number.negative ((significant 5).round number.magnitude)) := by
    rw [List.getElem?_map, found, Option.map_some]
  rw [stored, unpacked.storeFloats_at dest kept, stored_nearest, held]
  exact nearest_value number

/-- The floats come back exactly when six digits are enough for each of them. -/
theorem vector_back_iff {reader : ScriptReader} (reads : reader.ReadsText) {packed unpacked measured : NativeCall}
    {values text dest : Nat} (trip : VectorTrip packed unpacked measured values text dest) :
    VectorBack reader packed unpacked measured values dest ↔
      ∀ i < (packed.param 2).toNat, ∀ number,
        floatOfCell (packed.memory (values + i)) = .finite number → SixDigits number := by
  constructor
  · intro right i below number held
    exact (trip.float_back reads below held).mp (right.floats i below)
  · intro six
    obtain ⟨numbers, list, length⟩ := trip.numbers
    obtain ⟨_, counted, measured⟩ := trip.results reads list length
    refine ⟨counted, ?_, measured⟩
    intro i below
    obtain ⟨number, held⟩ := trip.finite i below
    exact (trip.float_back reads below held).mpr (six i below number held)

/-- A script with 1.5 and 16777216.0 at 100. -/
def packedFloats : NativeCall where
  params := [100, 2, 200, 64]
  getAddr cell := some cell.toNat
  memory addr := if addr = 100 then 1069547520 else if addr = 101 then 1266679808 else 0
  cells _ := by
    split
    next => rfl
    split
    next => rfl
    next => rfl

/-- The same script with the text of them at 200. -/
def unpackedFloats : NativeCall where
  params := [200, 300, 2]
  getAddr cell := some cell.toNat
  memory addr := toCell (packedFloats.mysqlVectorToString.1 addr)
  cells _ := Int.bmod_bmod

theorem finite_of_value {number : Binary32.Number} (some : number.value.isSome = true) : ∃ held, number = .finite held := by
  cases number with
  | finite held => exact ⟨held, rfl⟩
  | infinite | nan => cases some

theorem packedFloats_trip : VectorTrip packedFloats unpackedFloats unpackedFloats 100 200 300 where
  source := rfl
  counted := rfl
  finite := by
    have values : ∀ i < 2, (floatOfCell (packedFloats.memory (100 + i))).value.isSome = true := by decide +kernel
    exact fun i below => finite_of_value (values i below)
  target := rfl
  fits := by decide +kernel
  unpacks := rfl
  kept := by decide +kernel
  destination := rfl
  room := by decide
  measures := rfl
  same := by decide +kernel

theorem vector_back_large :
    VectorBack textReader packedFloats unpackedFloats unpackedFloats 100 300 ↔
      ∀ i < (packedFloats.param 2).toNat, ∀ number,
        floatOfCell (packedFloats.memory (100 + i)) = .finite number → SixDigits number :=
  vector_back_iff textReader_reads packedFloats_trip

/-- 16777216.0 is written 1.67772e+07. -/
theorem large_component_changed : ¬ ∀ (packed unpacked measured : NativeCall) (values text dest : Nat),
    VectorTrip packed unpacked measured values text dest → VectorBack textReader packed unpacked measured values dest := by
  intro all
  obtain ⟨number, held⟩ := packedFloats_trip.finite 1 (by decide)
  have back := (all _ _ _ _ _ _ packedFloats_trip).floats 1 (by decide)
  have six := (sixDigits_iff number).mp ((packedFloats_trip.float_back textReader_reads (by decide) held).mp back)
  have value : (floatOfCell (packedFloats.memory (100 + 1))).value = some 16777216 := by decide +kernel
  rw [held] at value
  have size : number.magnitude = 16777216 := by
    rw [← number.abs_value, Option.some.inj value]
    rfl
  rw [size] at six
  exact absurd six (by decide +kernel)

end OmpMySQL
