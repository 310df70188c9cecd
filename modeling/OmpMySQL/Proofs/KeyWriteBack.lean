import OmpMySQL.Proofs.ScriptText

/-! The key of a model after an INSERT of it. The insert id is written over the key's first
cell whatever that cell holds and whether or not the server made an id. -/

namespace OmpMySQL

/-- A variable that holds an id in the representation of its type. -/
def ModelField.HoldsId (field : ModelField) (memory : Nat → Cell) (addr id : Nat) : Prop :=
  if field.type = .string then HoldsText memory addr (Nat.toDigits 10 id) else memory addr = id

/-- A successful INSERT of a model with a bound key. -/
structure Inserted (component : Component) (job : QueryJob) (m : Model) (key : ModelField) (addr : Nat)
    (set : ResultSet) : Prop where
  positive : 0 < job.modelHandle
  model : component.models job.modelHandle = some m
  insert : job.modelOp = Model.opInsert
  succeeded : job.succeeded = true
  result : ∃ result rest, job.result = some result ∧ result.sets = set :: rest
  keyed : m.keyField = some key
  bound : key.addr = some addr
  typed : key.type = .int ∨ key.type = .string

/-- The key identifies the row that was inserted. -/
structure KeyRight (reader : ScriptReader) (before after : Component) (handle : Int) (m : Model) (key : ModelField)
    (addr id : Nat) : Prop where
  generated : id ≠ 0 → id ≤ 0x7fffffff → key.HoldsId after.memory addr id
  explicit : id = 0 → ∀ cell, key.Covers addr cell → after.memory cell = before.memory cell
  saved : id = 0 → reader.saveOp before.memory m = Model.opUpdate →
    ∃ now, after.models handle = some now ∧ now.keyField = some key ∧ reader.saveOp after.memory now = Model.opUpdate ∧
      ∀ escape, reader.modelFieldLiteral after.memory escape key = reader.modelFieldLiteral before.memory escape key

/-- The key has room for the raw id, or holds what the id would be. -/
def WritesKeyRight (component : Component) (job : QueryJob) (key : ModelField) (addr id : Nat) : Prop :=
  if (component.resolveScript job).isSome then
    if id = 0 then component.memory addr = 0
    else 0x7fffffff < id ∨ key.type = .int ∨ id = 53 ∧ component.memory (addr + 1) = 51 ∧ component.memory (addr + 2) = 0
  else id = 0 ∨ 0x7fffffff < id ∨ key.HoldsId component.memory addr id

namespace Component
variable {strtof : String → Cell} {component : Component} {job : QueryJob}

theorem dispatchJob_unresolved (resolved : component.resolveScript job = none) :
    (component.dispatchJob strtof job).component = component := by
  rw [dispatchJob, resolved]

theorem dispatchJob_written (strtof : String → Cell) {amx : AMX} (resolved : component.resolveScript job = some amx) :
    (component.dispatchJob strtof job).component.memory = (component.writeBack strtof job).memory ∧
      (component.dispatchJob strtof job).component.models = (component.writeBack strtof job).models := by
  rw [dispatchJob, resolved]
  dsimp only
  rw [← writeBack]
  split
  next => exact ⟨rfl, rfl⟩
  split
  next => exact ⟨rfl, rfl⟩
  split
  next => exact ⟨rfl, rfl⟩
  next =>
    rw [runCallback]
    split
    next => exact ⟨rfl, rfl⟩
    next => exact ⟨rfl, rfl⟩

end Component

section
variable {strtof : String → Cell} {component : Component} {job : QueryJob} {m : Model} {key : ModelField} {addr : Nat}
  {set : ResultSet}

theorem Inserted.writeBack (inserted : Inserted component job m key addr set) :
    component.writeBack strtof job =
      (component.store addr (toCell set.insertId)).setModel job.modelHandle (m.setError .ok) := by
  obtain ⟨result, rest, present, sets⟩ := inserted.result
  have bound : m.keyField.bind (·.addr) = some addr := by rw [inserted.keyed, Option.bind_some, inserted.bound]
  rw [Component.writeBack, if_pos inserted.positive, Component.applyModelResult]
  simp only [inserted.model, inserted.succeeded, if_true, present, Option.map_some, Option.getD_some, sets,
    inserted.insert, bound]

theorem store_same (component : Component) (addr : Nat) (value : Cell) :
    (component.store addr value).memory addr = value := if_pos rfl

/-- Nothing changes where the value is stored already. -/
theorem store_memory_self {addr : Nat} {value : Cell} (held : component.memory addr = value) :
    (component.store addr value).memory = component.memory := by
  funext cell
  by_cases same : cell = addr
  · rw [same, store_same, held]
  · exact component.store_frame same value

theorem toDigits_two {tens units : Nat} (positive : 0 < tens) (high : tens < 10) (low : units < 10) :
    Nat.toDigits 10 (10 * tens + units) = [tens.digitChar, units.digitChar] := by
  rw [← Nat.toDigits_append_toDigits (by decide) positive low, Nat.toDigits_of_lt_base high,
    Nat.toDigits_of_lt_base low, List.singleton_append]

/-- A raw id is the code of its own first digit only if it is 53. -/
theorem holdsText_raw {memory : Nat → Cell} {id : Nat} (raw : memory addr = id) :
    HoldsText memory addr (Nat.toDigits 10 id) ↔ id = 53 ∧ memory (addr + 1) = 51 ∧ memory (addr + 2) = 0 := by
  constructor
  · intro holds
    cases shape : Nat.toDigits 10 id with
    | nil => exact absurd shape Nat.toDigits_ne_nil
    | cons char rest =>
      have digit : char.isDigit = true := toDigits_numeric id char (shape ▸ List.mem_cons_self)
      simp only [Char.isDigit, Bool.and_eq_true, decide_eq_true_eq, UInt32.le_iff_toNat_le] at digit
      have first : id = char.toNat := by
        rw [shape, HoldsText, raw] at holds
        exact Int.ofNat_inj.mp holds.1
      have low : 48 ≤ id := first ▸ digit.1
      have high : id ≤ 57 := first ▸ digit.2
      have parts : id = 10 * (id / 10) + id % 10 := (Nat.div_add_mod id 10).symm
      rw [parts, toDigits_two (by omega) (by omega) (by omega)] at holds
      simp only [HoldsText, raw, Nat.toNat_digitChar_of_lt_ten (show id / 10 < 10 by omega),
        Nat.toNat_digitChar_of_lt_ten (show id % 10 < 10 by omega)] at holds
      have tens : id = 48 + id / 10 := Int.ofNat_inj.mp holds.1
      have same : id = 53 := by omega
      subst same
      exact ⟨rfl, holds.2.1, holds.2.2⟩
  · rintro ⟨rfl, second, third⟩
    exact ⟨raw, second, third⟩

theorem holdsId_stored (typed : key.type = .int ∨ key.type = .string) {id : Nat} (fits : id ≤ 0x7fffffff) :
    key.HoldsId (component.store addr (toCell id)).memory addr id ↔
      key.type = .int ∨ id = 53 ∧ component.memory (addr + 1) = 51 ∧ component.memory (addr + 2) = 0 := by
  have raw : (component.store addr (toCell id)).memory addr = id := by
    rw [store_same, toCell]
    exact Int.bmod_eq_of_le (by omega) (by omega)
  rcases typed with int | string
  · simp only [ModelField.HoldsId, int, reduceCtorEq, if_false, raw, true_or]
  · simp only [ModelField.HoldsId, string, if_true, holdsText_raw raw, reduceCtorEq, false_or]
    rw [component.store_frame (by omega), component.store_frame (by omega)]

theorem keyRight_unchanged (reader : ScriptReader) (inserted : Inserted component job m key addr set) {after : Component}
    {id : Nat} (memory : after.memory = component.memory) (same : ∃ now, after.models job.modelHandle = some now ∧
      now.key = m.key ∧ now.fields = m.fields) (generated : id ≠ 0 → id ≤ 0x7fffffff → key.HoldsId component.memory addr id) :
    KeyRight reader component after job.modelHandle m key addr id := by
  obtain ⟨now, found, named, fields⟩ := same
  have keyed : now.keyField = m.keyField := by rw [Model.keyField, named, fields]; rfl
  refine ⟨memory ▸ generated, fun _ _ _ => by rw [memory], ?_⟩
  intro _ set
  refine ⟨now, found, keyed.trans inserted.keyed, ?_, fun _ => by rw [memory]⟩
  rw [ScriptReader.saveOp, keyed, memory]
  exact set

/-- Without a script to start from nothing is written. -/
theorem keyRight_unresolved (reader : ScriptReader) (inserted : Inserted component job m key addr set)
    (resolved : component.resolveScript job = none) :
    KeyRight reader component (component.dispatchJob strtof job).component job.modelHandle m key addr set.insertId ↔
      WritesKeyRight component job key addr set.insertId := by
  rw [Component.dispatchJob_unresolved resolved, WritesKeyRight, resolved, if_neg (by decide)]
  constructor
  · intro right
    by_cases none : set.insertId = 0
    · exact Or.inl none
    · by_cases large : 0x7fffffff < set.insertId
      · exact Or.inr (Or.inl large)
      · exact Or.inr (Or.inr (right.generated none (Nat.le_of_not_lt large)))
  · intro holds
    refine keyRight_unchanged reader inserted rfl ⟨m, inserted.model, rfl, rfl⟩ ?_
    intro some fits
    rcases holds with none | large | held
    · contradiction
    · omega
    · exact held

/-- Otherwise the first cell of the key is overwritten, whatever it is. -/
theorem keyRight_resolved (reader : ScriptReader) (inserted : Inserted component job m key addr set) {amx : AMX}
    (resolved : component.resolveScript job = some amx) :
    KeyRight reader component (component.dispatchJob strtof job).component job.modelHandle m key addr set.insertId ↔
      WritesKeyRight component job key addr set.insertId := by
  obtain ⟨memory, models⟩ := Component.dispatchJob_written strtof resolved
  rw [inserted.writeBack] at memory models
  have stored : (component.dispatchJob strtof job).component.memory =
      (component.store addr (toCell set.insertId)).memory := memory
  have found : (component.dispatchJob strtof job).component.models job.modelHandle = some (m.setError .ok) := by
    rw [models]
    exact if_pos rfl
  rw [WritesKeyRight, resolved, if_pos Option.isSome_some]
  constructor
  · intro right
    split
    next none =>
      have kept := right.explicit none addr ⟨Nat.le_refl addr, by omega⟩
      rw [stored, store_same, none] at kept
      exact kept.symm
    next some =>
      by_cases large : 0x7fffffff < set.insertId
      · exact Or.inl large
      · have held := right.generated some (Nat.le_of_not_lt large)
        rw [stored, holdsId_stored inserted.typed (Nat.le_of_not_lt large)] at held
        exact Or.inr held
  · intro holds
    split at holds
    next none =>
      have same : (component.dispatchJob strtof job).component.memory = component.memory := by
        rw [stored, none]
        exact store_memory_self holds
      exact keyRight_unchanged reader inserted same ⟨_, found, rfl, rfl⟩ (fun some => absurd none some)
    next some =>
      refine ⟨?_, fun none => absurd none some, fun none => absurd none some⟩
      intro _ fits
      rw [stored, holdsId_stored inserted.typed fits]
      rcases holds with large | held
      · omega
      · exact held

/-- The key is right after a dispatch exactly when overwriting its first cell makes it so. -/
theorem key_right_iff (reader : ScriptReader) (inserted : Inserted component job m key addr set) :
    KeyRight reader component (component.dispatchJob strtof job).component job.modelHandle m key addr set.insertId ↔
      WritesKeyRight component job key addr set.insertId := by
  cases resolved : component.resolveScript job with
  | none => exact keyRight_unresolved reader inserted resolved
  | some amx => exact keyRight_resolved reader inserted resolved

end

section
variable (type : FieldType) (value : Cell) (id : Nat)

def playerId : ModelField := { column := "id", type, addr := some 10, maxlen := 8 }

def player : Model := { connectionHandle := 1, table := "players", key := "id", fields := [playerId type] }

/-- A gamemode whose model of one column has its key variable at address 10. -/
def keyedPlayer : Component where
  pawn := some silentGamemode
  models handle := if handle = 1 then some (player type) else none
  memory addr := if addr = 10 then value else 0

def insertedPlayer : QueryJob :=
  { modelHandle := 1, modelOp := Model.opInsert, succeeded := true, result := some { sets := [{ insertId := id }] } }

theorem inserted_player (typed : type = .int ∨ type = .string) :
    Inserted (keyedPlayer type value) (insertedPlayer id) (player type) (playerId type) 10 { insertId := id } where
  positive := Int.one_pos
  model := rfl
  insert := rfl
  succeeded := rfl
  result := ⟨_, [], rfl, rfl⟩
  keyed := rfl
  bound := rfl
  typed := typed

end

theorem key_right_generated :
    KeyRight shortReader (keyedPlayer .int 0)
        ((keyedPlayer .int 0).dispatchJob (fun _ => 0) (insertedPlayer 5)).component 1 (player .int)
        (playerId .int) 10 5 ↔
      WritesKeyRight (keyedPlayer .int 0) (insertedPlayer 5) (playerId .int) 10 5 :=
  key_right_iff shortReader (inserted_player .int 0 5 (Or.inl rfl))

/-- A key of 7 that the script chose is gone after the insert. -/
theorem explicit_key_lost : ¬ ∀ (component : Component) (job : QueryJob) (m : Model) (key : ModelField) (addr : Nat)
    (set : ResultSet), Inserted component job m key addr set →
      KeyRight shortReader component (component.dispatchJob (fun _ => 0) job).component job.modelHandle m key addr
        set.insertId := by
  intro right
  have kept := (right _ _ _ _ _ _ (inserted_player .int 7 0 (Or.inl rfl))).explicit rfl 10 ⟨Nat.le_refl 10, by decide⟩
  exact absurd kept (by decide)

end OmpMySQL
