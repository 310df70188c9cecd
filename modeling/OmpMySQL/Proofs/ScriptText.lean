import Mathlib.Data.Nat.Find
import OmpMySQL.Proofs.HookConvention
import OmpMySQL.Proofs.ModelWrites

/-! Texts in a script's memory: a cell for each character and a zero after the last. -/

namespace OmpMySQL

/-- A string variable's cells, the terminator included. -/
def HoldsText (memory : Nat → Cell) (addr : Nat) : List Char → Prop
  | [] => memory addr = 0
  | char :: rest => memory addr = char.toNat ∧ HoldsText memory (addr + 1) rest

instance (memory : Nat → Cell) : (addr : Nat) → (text : List Char) → Decidable (HoldsText memory addr text)
  | addr, [] => inferInstanceAs (Decidable (memory addr = 0))
  | addr, char :: rest =>
    have := instDecidableHoldsText memory (addr + 1) rest
    inferInstanceAs (Decidable (memory addr = char.toNat ∧ HoldsText memory (addr + 1) rest))

/-- A text that an unpacked string can hold. -/
def PawnText (text : List Char) : Prop := ∀ char ∈ text, 0 < char.toNat ∧ char.toNat < 256

instance (text : List Char) : Decidable (PawnText text) :=
  List.decidableBAll (fun char : Char => 0 < char.toNat ∧ char.toNat < 256) text

/-- `amx_StrLen` and `amx_GetString` give the characters up to the terminator. -/
def ScriptReader.ReadsText (reader : ScriptReader) : Prop :=
  ∀ memory addr text, PawnText text → HoldsText memory addr text → reader.getString memory addr = String.ofList text

/-- What stands in a list of items is a separator or in one of them. -/
theorem mem_intercalate {α : Type} {one separator : α} {items : List (List α)}
    (inside : one ∈ [separator].intercalate items) : one = separator ∨ ∃ item ∈ items, one ∈ item := by
  induction items with
  | nil => cases inside
  | cons item items ih =>
    cases items with
    | nil => exact Or.inr ⟨item, List.mem_cons_self, by simpa using inside⟩
    | cons next items =>
      rw [List.intercalate_cons_cons, List.mem_append, List.mem_append] at inside
      rcases inside with (here | between) | later
      · exact Or.inr ⟨item, List.mem_cons_self, here⟩
      · exact Or.inl (List.mem_singleton.mp between)
      · refine (ih later).imp_right ?_
        intro ⟨found, member, inside⟩
        exact ⟨found, List.mem_cons_of_mem _ member, inside⟩

section
variable {memory : Nat → Cell} {addr : Nat} {text other : List Char}

theorem toNat_ne_zero {char : Char} (some : char ≠ Char.ofNat 0) : char.toNat ≠ 0 := by
  intro zero
  have same := Char.ofNat_toNat char
  rw [zero] at same
  exact some same.symm

/-- A variable holds one text only. -/
theorem HoldsText.unique (holds : HoldsText memory addr text) (also : HoldsText memory addr other)
    (whole : Char.ofNat 0 ∉ text) (total : Char.ofNat 0 ∉ other) : text = other := by
  induction text generalizing addr other with
  | nil =>
    cases other with
    | nil => rfl
    | cons char rest =>
      rw [HoldsText] at holds
      rw [HoldsText, holds] at also
      have zero : char.toNat = 0 := (Int.ofNat_inj.mp also.1).symm
      exact absurd zero (toNat_ne_zero (fun same => total (same ▸ List.mem_cons_self)))
  | cons char rest ih =>
    cases other with
    | nil =>
      rw [HoldsText] at also
      rw [HoldsText, also] at holds
      have zero : char.toNat = 0 := (Int.ofNat_inj.mp holds.1).symm
      exact absurd zero (toNat_ne_zero (fun same => whole (same ▸ List.mem_cons_self)))
    | cons second tail =>
      have here : char.toNat = second.toNat := Int.ofNat_inj.mp (holds.1.symm.trans also.1)
      have same : char = second := Char.toNat_inj.mp here
      have more := ih holds.2 also.2 (fun inside => whole (List.mem_cons_of_mem _ inside))
        (fun inside => total (List.mem_cons_of_mem _ inside))
      rw [same, more]

theorem Component.storeString_holds (component : Component) (addr : Nat) (text : List Char) :
    HoldsText (component.storeString addr text).memory addr text := by
  induction text generalizing component addr with
  | nil => exact if_pos rfl
  | cons char rest ih =>
    refine ⟨?_, ih _ (addr + 1)⟩
    rw [Component.storeString, Component.storeString_frame rest _ (addr + 1) (Or.inl (Nat.lt_succ_self addr))]
    exact if_pos rfl

theorem PawnText.nulFree (pawn : PawnText text) : NulFree (String.ofList text) := by
  rw [NulFree, String.toList_ofList]
  exact fun inside => absurd (pawn _ inside).1 (by decide)

theorem HoldsText.cell (holds : HoldsText memory addr text) {i : Nat} (inside : i < text.length) :
    memory (addr + i) = text[i].toNat := by
  induction text generalizing addr i with
  | nil => cases inside
  | cons char rest ih =>
    cases i with
    | zero => exact holds.1
    | succ i =>
      have next := ih holds.2 (Nat.lt_of_succ_lt_succ inside)
      rw [List.getElem_cons_succ, ← next, Nat.add_assoc, Nat.add_comm 1 i]

theorem HoldsText.ends (holds : HoldsText memory addr text) : memory (addr + text.length) = 0 := by
  induction text generalizing addr with
  | nil => exact holds
  | cons char rest ih =>
    have last := ih holds.2
    rwa [Nat.add_assoc, Nat.add_comm 1] at last

theorem HoldsText.congr {changed : Nat → Cell} (holds : HoldsText memory addr text)
    (same : ∀ cell, addr ≤ cell → cell ≤ addr + text.length → changed cell = memory cell) : HoldsText changed addr text := by
  induction text generalizing addr with
  | nil => exact (same addr (Nat.le_refl _) (Nat.le_add_right _ _)).trans holds
  | cons char rest ih =>
    refine ⟨(same addr (Nat.le_refl _) (Nat.le_add_right _ _)).trans holds.1, ih holds.2 ?_⟩
    intro cell low high
    rw [List.length_cons] at same
    exact same cell (by omega) (by omega)

end

theorem cString_sublist (text : String) : (cString text).toList.Sublist text.toList := by
  rw [cString, String.toList_ofList]
  exact List.takeWhile_sublist _

theorem Component.setString_holds (component : Component) (addr : Nat) {text : String} {maxlen : Nat}
    (room : text.length < maxlen) : HoldsText (component.setString addr text maxlen).memory addr (cString text).toList := by
  have shorter := (cString_sublist text).length_le
  rw [String.length_toList, String.length_toList] at shorter
  rw [setString, List.take_of_length_le (by rw [String.length_toList]; omega)]
  exact component.storeString_holds addr (cString text).toList

/-- A gamemode without callbacks of its own. -/
def silentGamemode : Pawn := { mainScript := some { script := 1, publics := [] }, distinct := by decide }

/-- Texts are read up to the terminator, twenty characters at most; floats are left blank. -/
def shortReader : ScriptReader where
  getString memory addr :=
    String.ofList (((List.range 20).map fun i => Char.ofNat (memory (addr + i)).toNat).takeWhile (· ≠ Char.ofNat 0))
  floatText _ := ""

open Classical in
/-- Texts are read up to the terminator, however far it is; floats are left blank. -/
noncomputable def textReader : ScriptReader where
  getString memory addr :=
    if ends : ∃ n, memory (addr + n) = 0 then
      String.ofList ((List.range (Nat.find ends)).map fun i => Char.ofNat (memory (addr + i) % 256).toNat)
    else ""
  floatText _ := ""

theorem textReader_reads : textReader.ReadsText := by
  intro memory addr text pawn holds
  have ends : ∃ n, memory (addr + n) = 0 := ⟨text.length, holds.ends⟩
  have length : Nat.find ends = text.length := by
    rw [Nat.find_eq_iff]
    refine ⟨holds.ends, ?_⟩
    intro i inside zero
    rw [holds.cell inside] at zero
    have positive := (pawn _ (List.getElem_mem inside)).1
    exact absurd (Int.natCast_eq_zero.mp zero) (Nat.ne_of_gt positive)
  rw [textReader]
  simp only [dif_pos ends]
  congr 1
  refine List.ext_getElem (by simp [length]) ?_
  intro i inside also
  have bounded := (pawn _ (List.getElem_mem also)).2
  have byte : ((text[i].toNat : Int) % 256).toNat = text[i].toNat := by omega
  rw [List.getElem_map, List.getElem_range, holds.cell also, byte, Char.ofNat_toNat]

end OmpMySQL
