import OmpMySQL.ConfigFile
import OmpMySQL.Library.ShiftRegister

/-! The keystream that obfuscates a configuration file. It never runs dry, and a file that
was obfuscated is read as the text it was made from. -/

namespace OmpMySQL
open Library ShiftRegister

private theorem xorshift_bits (s : UInt32) :
    (xorshift s).toBitVec = left 5 (right 17 (left 13 s.toBitVec)) := by
  simp only [xorshift, left, right, UInt32.toBitVec_xor, UInt32.toBitVec_shiftLeft, UInt32.toBitVec_shiftRight]
  rfl

theorem xorshift_injective : Function.Injective xorshift := by
  intro s t same
  have bits := congrArg UInt32.toBitVec same
  rw [xorshift_bits, xorshift_bits] at bits
  have middle := right_injective (by decide) (left_injective (by decide) bits)
  exact UInt32.toBitVec_inj.mp (left_injective (by decide) middle)

theorem xorshift_zero : xorshift 0 = 0 := by decide

theorem xorshift_eq_zero {s : UInt32} : xorshift s = 0 ↔ s = 0 := by
  rw [← xorshift_zero, xorshift_injective.eq_iff, xorshift_zero]

theorem cfgKeySeed_ne_zero (env : Environment) : cfgKeySeed env ≠ 0 := by
  rw [cfgKeySeed]
  split
  next => decide
  next =>
    intro zero
    simp only at zero
    split at zero
    next => contradiction
    next alive => exact alive zero

/-- The state of the generator for a byte of the file. -/
def cfgState (env : Environment) (index : Nat) : UInt32 := xorshift^[index + 1] (cfgKeySeed env)

/-- One byte of the file under one state of the generator. -/
def cfgByte (s : UInt32) (char : Char) : Char := Char.ofNat ((char.toNat % 256) ^^^ (s.toNat % 256))

theorem cfgXor_mask (s : UInt32) (text : List Char) : cfgXor s text = mask xorshift cfgByte s text := by
  induction text generalizing s with
  | nil => rfl
  | cons char rest ih => rw [cfgXor, mask, ih, cfgByte]

/-- No file and no key take the generator to the state that would leave the rest in the clear. -/
theorem keystream_alive (env : Environment) :
    (∀ index, cfgState env index ≠ 0) ∧
      Function.Injective xorshift ∧ (∀ s, xorshift s = 0 ↔ s = 0) ∧
      ∀ body index, (cfgXor (cfgKeySeed env) body)[index]? = body[index]?.map (cfgByte (cfgState env index)) := by
  refine ⟨?_, xorshift_injective, fun _ => xorshift_eq_zero, ?_⟩
  · intro index
    exact iterate_ne (cfgKeySeed_ne_zero env) (fun _ => xorshift_eq_zero.mp) (index + 1)
  · intro body index
    rw [cfgXor_mask, mask_getElem?, cfgState]

/-- A file's contents, one character for each byte. -/
structure FileText where
  text : String
  bytes : ∀ char ∈ text.toList, char.toNat < 256

private theorem toNat_ofNat_byte {n : Nat} (byte : n < 256) : (Char.ofNat n).toNat = n := by
  have valid : n.isValidChar := Or.inl (by omega)
  rw [Char.ofNat, dif_pos valid]
  rfl

theorem cfgByte_cfgByte (s : UInt32) {char : Char} (byte : char.toNat < 256) :
    cfgByte s (cfgByte s char) = char := by
  have key : s.toNat % 256 < 2 ^ 8 := Nat.mod_lt _ (by decide)
  have masked : (char.toNat ^^^ (s.toNat % 256)) < 256 := Nat.xor_lt_two_pow (n := 8) byte key
  rw [cfgByte, cfgByte, Nat.mod_eq_of_lt byte, toNat_ofNat_byte masked, Nat.mod_eq_of_lt masked, Nat.xor_assoc,
    Nat.xor_self, Nat.xor_zero, Char.ofNat_toNat]

theorem cfgXor_cfgXor (s : UInt32) (file : FileText) :
    cfgXor s (cfgXor s file.text.toList) = file.text.toList := by
  rw [cfgXor_mask, cfgXor_mask]
  exact mask_mask xorshift cfgByte (fun state char inside => cfgByte_cfgByte state (file.bytes char inside)) s

theorem cfgDecodeIfNeeded_magic (env : Environment) (body : List Char) :
    cfgDecodeIfNeeded env (cfgMagic ++ String.ofList body) = String.ofList (cfgXor (cfgKeySeed env) body) := by
  have header : (cfgMagic ++ String.ofList body).toList = cfgMagic.toList ++ body := by simp
  rw [cfgDecodeIfNeeded, header, if_pos (List.prefix_append ..)]
  rfl

theorem cfgDecodeIfNeeded_plain (env : Environment) {raw : String} (plain : ¬ cfgMagic.toList <+: raw.toList) :
    cfgDecodeIfNeeded env raw = raw := by
  rw [cfgDecodeIfNeeded, if_neg plain]

theorem configObfuscate_eq_none {env : Environment} {raw : String} :
    configObfuscate env raw = none ↔ cfgMagic.toList <+: raw.toList := by
  simp [configObfuscate]

/-- What is written is read back, and read as the plain file would be. -/
theorem obfuscated_file_read_back (env : Environment) (file : FileText) :
    (configObfuscate env file.text = none ↔ cfgMagic.toList <+: file.text.toList) ∧
      (∀ written, configObfuscate env file.text = some written →
        cfgMagic.toList <+: written.toList ∧ cfgDecodeIfNeeded env written = file.text ∧
          cfgDecodeIfNeeded env written = cfgDecodeIfNeeded env file.text ∧
          readConfig env written = readConfig env file.text) ∧
      ∀ text : String, ¬ cfgMagic.toList <+: text.toList → cfgDecodeIfNeeded env text = text := by
  refine ⟨configObfuscate_eq_none, ?_, fun _ => cfgDecodeIfNeeded_plain env⟩
  intro written wrote
  rw [configObfuscate] at wrote
  split at wrote
  next => contradiction
  next plain =>
    cases wrote
    have back : cfgDecodeIfNeeded env (cfgMagic ++ String.ofList (cfgXor (cfgKeySeed env) file.text.toList)) = file.text := by
      rw [cfgDecodeIfNeeded_magic, cfgXor_cfgXor, String.ofList_toList]
    have same := back.trans (cfgDecodeIfNeeded_plain env plain).symm
    refine ⟨by simp, back, same, ?_⟩
    rw [readConfig, readConfig, configEntries, configEntries, same]

end OmpMySQL
