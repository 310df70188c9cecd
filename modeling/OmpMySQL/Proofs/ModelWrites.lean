import OmpMySQL.ModelVariables
import OmpMySQL.Proofs.Upcalls

/-! Which script variables a model operation reads and its result is written to. -/

namespace OmpMySQL
open Library

namespace Pawn
variable {pawn : Pawn} {script : Nat}

theorem loaded_load (amx : AMX) (gamemode : Bool) (fresh : amx.script ∉ pawn.loaded.map AMX.script)
    (present : script ∈ pawn.loaded.map AMX.script) : script ∈ (pawn.load amx gamemode fresh).loaded.map AMX.script := by
  rw [load]
  split
  next main =>
    simp only [loaded, main.2, Option.toList_none, List.nil_append] at present
    exact List.mem_cons_of_mem _ present
  next =>
    rw [loaded] at present
    rw [loaded, List.filterMap_append, ← List.append_assoc, List.map_append]
    exact List.mem_append_left _ present

theorem loaded_unload {gone : Nat} (apart : script ≠ gone) (present : script ∈ pawn.loaded.map AMX.script) :
    script ∈ (pawn.unload gone).loaded.map AMX.script := by
  obtain ⟨amx, member, rfl⟩ := List.mem_map.mp present
  apply List.mem_map_of_mem
  rw [loaded, unload, filter_loaded]
  exact List.mem_filter.mpr ⟨member, decide_eq_true apart⟩

end Pawn

namespace Model
variable {m : Model} {owned : Nat → Prop}

/-- Every bound variable is in owned memory. -/
def Within (m : Model) (owned : Nat → Prop) : Prop := ∀ field ∈ m.fields, ∀ addr, field.addr = some addr → owned addr

theorem Within.mono {more : Nat → Prop} (within : m.Within owned) (grows : ∀ addr, owned addr → more addr) :
    m.Within more :=
  fun field present addr bound => grows addr (within field present addr bound)

theorem Within.upsertField (within : m.Within owned) {field : ModelField}
    (own : ∀ addr, field.addr = some addr → owned addr) : (m.upsertField field).Within owned := by
  intro other present addr bound
  unfold Model.upsertField at present
  split at present
  next =>
    rcases List.mem_or_eq_of_mem_set present with old | rfl
    · exact within other old addr bound
    · exact own addr bound
  next =>
    rcases List.mem_append.mp present with old | new
    · exact within other old addr bound
    · rw [List.mem_singleton.mp new] at bound
      exact own addr bound

theorem Within.apply (within : m.Within owned) {call : ModelCall} (own : ∀ addr, call.addr = some addr → owned addr) :
    (call.apply m).1.Within owned := by
  cases call with
  | bindInt addr column | bindFloat addr column | bindString addr maxlen column =>
    simp only [ModelCall.apply]
    split
    next => exact within
    next => exact within.upsertField own
  | unbind column => exact fun field present => within field (List.mem_of_mem_eraseP present)
  | clear => exact nofun
  | setKey column =>
    simp only [ModelCall.apply]
    split
    next => exact within
    next => exact within

theorem mem_of_keyField {field : ModelField} (found : m.keyField = some field) : field ∈ m.fields := by
  unfold keyField at found
  split at found
  next => cases found
  next => exact List.mem_of_find?_eq_some found

theorem Within.keyField (within : m.Within owned) {addr : Nat} (bound : m.keyField.bind (·.addr) = some addr) :
    owned addr := by
  obtain ⟨field, found, bound⟩ := Option.bind_eq_some_iff.mp bound
  exact within field (mem_of_keyField found) addr bound

theorem Within.reads (within : m.Within owned) : ∀ addr ∈ m.reads, owned addr := by
  intro addr present
  rcases List.mem_append.mp present with plain | key
  · obtain ⟨field, member, bound⟩ := List.mem_filterMap.mp plain
    exact within field member addr bound
  · exact within.keyField (Option.mem_toList.mp key)

end Model

theorem ModelField.addr_of_target {field : ModelField} {set : ResultSet} {row : List ResultValue} {addr : Nat}
    (stored : field.target set row = some addr) : field.addr = some addr := by
  unfold ModelField.target at stored
  split at stored
  next bound _ =>
    simp only [Option.ite_none_left_eq_some, Option.some.injEq] at stored
    exact stored.2 ▸ bound
  next => cases stored

namespace Component
variable {component : Component} {owned : Nat → Prop}

theorem writes_within {job : QueryJob}
    (within : ∀ m, component.models job.modelHandle = some m → m.Within owned) :
    ∀ addr ∈ component.writes job, owned addr := by
  intro addr present
  unfold writes at present
  cases found : component.models job.modelHandle with
  | none => simp [found] at present
  | some m =>
    have own := within m found
    simp only [found] at present
    split at present
    next =>
      split at present
      next key _ => exact own.keyField (List.mem_singleton.mp present ▸ key)
      next => cases present
    split at present
    next => cases present
    split at present
    next =>
      split at present
      next =>
        obtain ⟨field, member, stored⟩ := List.mem_filterMap.mp present
        exact own field member addr (ModelField.addr_of_target stored)
      next => cases present
    next => cases present

end Component

/-- The cells of a variable bound at an address. -/
def ModelField.Covers (field : ModelField) (addr cell : Nat) : Prop := addr ≤ cell ∧ cell < addr + max 1 field.maxlen.toNat

namespace Component
variable {component : Component} {cell : Nat}

theorem store_frame {addr : Nat} (apart : cell ≠ addr) (component : Component) (value : Cell) :
    (component.store addr value).memory cell = component.memory cell := if_neg apart

theorem storeString_frame (chars : List Char) (component : Component) (addr : Nat)
    (apart : cell < addr ∨ addr + chars.length < cell) :
    (component.storeString addr chars).memory cell = component.memory cell := by
  induction chars generalizing component addr with
  | nil =>
    rw [List.length_nil] at apart
    exact store_frame (by omega) component 0
  | cons char rest ih =>
    rw [List.length_cons] at apart
    rw [storeString, ih _ _ (by omega)]
    exact store_frame (by omega) component _

theorem applyField_frame (strtof : String → Cell) (component : Component) (set : ResultSet) (row : List ResultValue)
    (field : ModelField) (apart : ∀ addr, field.target set row = some addr → ¬ field.Covers addr cell) :
    (component.applyField strtof set row field).memory cell = component.memory cell := by
  unfold applyField ModelField.target at *
  cases bound : field.addr with
  | none => rfl
  | some addr =>
    cases value : (set.fieldIndex field.column).bind (row[·]?) with
    | none => rfl
    | some v =>
      simp only [bound, value] at apart
      cases kind : field.type with
      | int | float =>
        have outside := apart addr (by simp [kind])
        exact store_frame (fun same => outside ⟨by omega, by omega⟩) component _
      | string =>
        dsimp only
        split
        next positive =>
          have outside := apart addr (if_neg (fun short => by omega))
          rw [ModelField.Covers] at outside
          apply storeString_frame
          rw [List.length_take]
          omega
        next => rfl

theorem applyFields_frame (strtof : String → Cell) (set : ResultSet) (row : List ResultValue) (fields : List ModelField)
    (component : Component)
    (apart : ∀ field ∈ fields, ∀ addr, field.target set row = some addr → ¬ field.Covers addr cell) :
    (fields.foldl (fun c field => c.applyField strtof set row field) component).memory cell = component.memory cell := by
  induction fields generalizing component with
  | nil => rfl
  | cons field rest ih =>
    rw [List.foldl_cons, ih _ (fun other present => apart other (List.mem_cons_of_mem _ present))]
    exact applyField_frame strtof component set row field (apart field List.mem_cons_self)

/-- A step that binds nothing: scripts and bindings are as before. -/
structure SameBindings (before after : Component) : Prop where
  pawn : after.pawn = before.pawn
  models : ∀ handle m, after.models handle = some m →
    ∃ old, before.models handle = some old ∧ m.fields = old.fields

theorem SameBindings.refl (component : Component) : SameBindings component component where
  pawn := rfl
  models _ m found := ⟨m, found, rfl⟩

theorem sameBindings_setError {handle : Int} {m : Model} (found : component.models handle = some m)
    (memory : Nat → Cell) (error : ModelError) :
    SameBindings component ({ component with memory }.setModel handle (m.setError error)) where
  pawn := rfl
  models other updated held := by
    simp only [setModel] at held
    split at held
    next same =>
      cases held
      exact ⟨m, same ▸ found, rfl⟩
    next => exact ⟨updated, held, rfl⟩

theorem sameBindings_writeBack (strtof : String → Cell) (component : Component) (job : QueryJob) :
    SameBindings component (component.writeBack strtof job) := by
  rw [writeBack]
  split
  next =>
    rcases component.applyModelResult_forms strtof job with ⟨_, same⟩ | ⟨m, memory, error, found, same⟩
    · rw [same]
      exact .refl component
    · rw [same]
      exact sameBindings_setError found memory error
  next => exact .refl component

theorem sameBindings_dispatchJob (strtof : String → Cell) (component : Component) (job : QueryJob) :
    SameBindings component (component.dispatchJob strtof job).component := by
  obtain ⟨written, kept, same⟩ : ∃ written, SameBindings component written ∧
      (if 0 < job.modelHandle then component.applyModelResult strtof job else component) = written :=
    ⟨_, component.sameBindings_writeBack strtof job, rfl⟩
  rw [dispatchJob]
  cases component.resolveScript job with
  | none => exact .refl component
  | some amx =>
    dsimp only
    rw [same]
    split
    next => exact kept
    split
    next => exact kept
    split
    next => exact kept
    next =>
      rw [runCallback]
      split
      next => exact ⟨kept.pawn, kept.models⟩
      next => exact kept

end Component

theorem sameBindings_modelExecute (reader : ScriptReader) (escape : Nat → String → String) (component : Component)
    (registry : Connections) (model op : Int) (callback : String) (args : List CallbackArg) :
    component.SameBindings (modelExecute reader escape component registry model op callback args).1 := by
  rw [modelExecute]
  cases found : component.models model with
  | none => exact .refl component
  | some m =>
    dsimp only
    cases registry.getConnection m.connectionHandle with
    | none => exact Component.sameBindings_setError found component.memory .invalid
    | some conn =>
      dsimp only
      split
      next => exact Component.sameBindings_setError found component.memory .invalid
      next => exact .refl component

end OmpMySQL
