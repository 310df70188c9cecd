import Mathlib.Data.List.Induction
import OmpMySQL.Library.OrderedMap
import OmpMySQL.Proofs.ModelText

/-! The columns a model is bound to. Whatever is bound, unbound and bound again, they are a
map from names to variables in the order in which the names came in. -/

namespace OmpMySQL
open Library

/-- The calls that change what a model is bound to. -/
inductive ModelEdit where
  | bindInt (column : String) (addr : Option Nat)
  | bindFloat (column : String) (addr : Option Nat)
  | bindString (column : String) (addr : Option Nat) (maxlen : Int)
  | unbind (column : String)
  | clear
  | setKey (column : String)

namespace ModelEdit

def apply (model : Model) : ModelEdit → Model
  | .bindInt column addr => model.bindInt column addr
  | .bindFloat column addr => model.bindFloat column addr
  | .bindString column addr maxlen => model.bindString column addr maxlen
  | .unbind column => (model.unbind column).1
  | .clear => model.clear
  | .setKey column => model.setKey column

def binding : ModelEdit → Option (OrderedMap.Edit String ModelField)
  | .bindInt column addr => some (.put { column, type := .int, addr })
  | .bindFloat column addr => some (.put { column, type := .float, addr })
  | .bindString column addr maxlen => some (.put { column, type := .string, addr, maxlen })
  | .unbind column => some (.remove column)
  | .clear => some .clear
  | .setKey _ => none

def key : ModelEdit → Option String
  | .setKey column => some column
  | .bindInt .. | .bindFloat .. | .bindString .. | .unbind _ | .clear => none

/-- What is done to the bindings, the last first. -/
def bindings (edits : List ModelEdit) : List (OrderedMap.Edit String ModelField) := (edits.filterMap binding).reverse

def lastKey (edits : List ModelEdit) : String := (edits.filterMap key).getLast?.getD ""

/-- The most recent bind of a column that is bound. -/
def lastBind (edits : List ModelEdit) (column : String) : Option ModelField :=
  OrderedMap.latest (·.column) column (bindings edits)

/-- The first column has been bound for longer than the second. -/
def Before (edits : List ModelEdit) (first second : String) : Prop :=
  OrderedMap.Earlier (fun field : ModelField => field.column) (bindings edits) first second

end ModelEdit

namespace Model

theorem upsertField_fields (model : Model) (field : ModelField) :
    (model.upsertField field).fields = OrderedMap.put (·.column) field model.fields := by
  rw [upsertField, OrderedMap.put]
  split <;> rfl

theorem upsertField_key (model : Model) (field : ModelField) : (model.upsertField field).key = model.key := by
  rw [upsertField]
  split <;> rfl

/-- A model after some calls, from one that was bound to nothing. -/
def edited (connectionHandle : Int) (table : String) (edits : List ModelEdit) : Model :=
  edits.foldl ModelEdit.apply { connectionHandle, table }

end Model

open ModelEdit Model

theorem ModelEdit.apply_fields (model : Model) (edit : ModelEdit) :
    (edit.apply model).fields = (edit.binding.map (·.apply (·.column) model.fields)).getD model.fields := by
  cases edit with
  | bindInt | bindFloat | bindString => exact upsertField_fields ..
  | unbind | clear | setKey => rfl

theorem ModelEdit.apply_key (model : Model) (edit : ModelEdit) :
    (edit.apply model).key = edit.key.getD model.key := by
  cases edit with
  | bindInt | bindFloat | bindString => exact upsertField_key ..
  | unbind | clear | setKey => rfl

variable (connectionHandle : Int) (table : String) (edits : List ModelEdit)

theorem Model.edited_records :
    OrderedMap.Records (fun field : ModelField => field.column) (bindings edits)
      (edited connectionHandle table edits).fields := by
  induction edits using List.reverseRecOn with
  | nil => exact OrderedMap.Records.empty
  | append_singleton earlier edit ih =>
    rw [edited] at ih
    rw [edited, List.foldl_append, List.foldl_cons, List.foldl_nil, apply_fields]
    cases binds : edit.binding with
    | none => simpa [bindings, binds] using ih
    | some change => simpa [bindings, binds] using ih.apply change

theorem Model.edited_key : (edited connectionHandle table edits).key = lastKey edits := by
  induction edits using List.reverseRecOn with
  | nil => rfl
  | append_singleton earlier edit ih =>
    rw [edited] at ih
    rw [edited, List.foldl_append, List.foldl_cons, List.foldl_nil, apply_key, ih]
    cases sets : edit.key with
    | none => simp [lastKey, sets]
    | some column => simp [lastKey, sets]

/-- Columns of different names are written differently. -/
theorem ident_injective : Function.Injective ident := by
  intro name other same
  have read := (spells_ident name).reads.tokens
  rw [same, (spells_ident other).reads.tokens] at read
  exact String.toList_inj.mp (by simpa [nameOf, eq_comm] using read)

namespace Model

/-- The columns an update writes, each with its value. -/
def written (model : Model) (values : List String) : List (String × String) :=
  ((model.fields.zip values).filter (·.1.column ≠ model.key)).map fun pair => (pair.1.column, pair.2)

variable {model : Model} {values : List String}

theorem buildInsert_cases :
    model.buildInsert values = "" ∨
      values.length = model.fields.length ∧
        model.buildInsert values =
          "INSERT INTO " ++ ident model.table ++ " (" ++ ", ".intercalate (model.fields.map (ident ·.column)) ++
            ") VALUES (" ++ ", ".intercalate values ++ ")" := by
  rw [buildInsert]
  split
  next => exact Or.inl rfl
  next builds =>
    rw [not_or, Classical.not_not] at builds
    exact Or.inr ⟨builds.2, rfl⟩

theorem buildUpdate_cases (keyValue : String) :
    model.buildUpdate values keyValue = "" ∨
      values.length = model.fields.length ∧
        model.buildUpdate values keyValue =
          "UPDATE " ++ ident model.table ++ " SET " ++
            ", ".intercalate ((model.written values).map fun pair => ident pair.1 ++ " = " ++ pair.2) ++
            " WHERE " ++ ident model.key ++ " = " ++ keyValue := by
  rw [buildUpdate]
  split
  next => exact Or.inl rfl
  next builds =>
    simp only [not_or, Classical.not_not] at builds
    simp only [written, List.map_map, Function.comp_def]
    split
    next => exact Or.inl rfl
    next => exact Or.inr ⟨builds.2.2, rfl⟩

theorem written_names_sublist (count : values.length = model.fields.length) :
    ((model.written values).map Prod.fst).Sublist (model.fields.map (·.column)) := by
  have names : (model.written values).map Prod.fst =
      (((model.fields.zip values).filter (·.1.column ≠ model.key)).map Prod.fst).map (·.column) := by
    simp only [written, List.map_map, Function.comp_def]
  have kept := (List.filter_sublist (p := fun pair : ModelField × String => pair.1.column ≠ model.key)
    (l := model.fields.zip values)).map Prod.fst
  rw [List.map_fst_zip (Nat.le_of_eq count.symm)] at kept
  rw [names]
  exact kept.map _

theorem key_not_written (model : Model) (values : List String) : model.key ∉ (model.written values).map Prod.fst := by
  simp [written]

end Model

theorem key_of_empty_name : ¬ ∀ edits : List ModelEdit,
    (edited 1 "players" edits).keyField = lastBind edits (lastKey edits) := by
  intro all
  exact absurd (all [.bindInt "" none, .setKey ""]) (by decide)

/-- What a model is bound to after any calls. A key column of empty name is no key. -/
theorem bindings_form_ordered_map :
    ((edited connectionHandle table edits).fields.map (·.column)).Nodup ∧
      (∀ field, field ∈ (edited connectionHandle table edits).fields ↔ lastBind edits field.column = some field) ∧
      ((edited connectionHandle table edits).fields.map (·.column)).Pairwise (Before edits) ∧
      (∀ column,
        ((edited connectionHandle table edits).unbind column).2 = (lastBind edits column).isSome ∧
          ((edited connectionHandle table edits).unbind column).1.fields =
            (edited connectionHandle table edits).fields.filter (·.column ≠ column)) ∧
      (edited connectionHandle table edits).keyField =
        (if lastKey edits = "" then none else lastBind edits (lastKey edits)) ∧
      (∀ values,
        (edited connectionHandle table edits).buildInsert values = "" ∨
          values.length = (edited connectionHandle table edits).fields.length ∧
            ((edited connectionHandle table edits).fields.map (ident ·.column)).Nodup ∧
            (edited connectionHandle table edits).buildInsert values =
              "INSERT INTO " ++ ident (edited connectionHandle table edits).table ++ " (" ++
                ", ".intercalate ((edited connectionHandle table edits).fields.map (ident ·.column)) ++
                ") VALUES (" ++ ", ".intercalate values ++ ")") ∧
      ∀ values keyValue,
        (edited connectionHandle table edits).buildUpdate values keyValue = "" ∨
          values.length = (edited connectionHandle table edits).fields.length ∧
            ((lastKey edits :: ((edited connectionHandle table edits).written values).map Prod.fst).map ident).Nodup ∧
            (edited connectionHandle table edits).buildUpdate values keyValue =
              "UPDATE " ++ ident (edited connectionHandle table edits).table ++ " SET " ++
                ", ".intercalate (((edited connectionHandle table edits).written values).map fun pair =>
                  ident pair.1 ++ " = " ++ pair.2) ++
                " WHERE " ++ ident (lastKey edits) ++ " = " ++ keyValue := by
  have records := edited_records connectionHandle table edits
  have key := edited_key connectionHandle table edits
  refine ⟨records.distinct, fun _ => records.mem, records.ordered, ?_, ?_, ?_, ?_⟩
  · intro column
    refine ⟨?_, OrderedMap.remove_eq_filter records.distinct⟩
    rw [lastBind, ← records.holds, Model.unbind, List.isSome_find?]
  · rw [keyField, key, records.holds, lastBind]
  · intro values
    refine buildInsert_cases.imp_right ?_
    intro ⟨count, text⟩
    refine ⟨count, ?_, text⟩
    simpa only [List.map_map, Function.comp_def] using records.distinct.map ident_injective
  · intro values keyValue
    refine (buildUpdate_cases keyValue).imp_right ?_
    intro ⟨count, text⟩
    refine ⟨count, ?_, key ▸ text⟩
    refine List.Nodup.map ident_injective (List.nodup_cons.mpr ⟨?_, ?_⟩)
    · have absent := key_not_written (edited connectionHandle table edits) values
      rwa [key] at absent
    · exact records.distinct.sublist (written_names_sublist count)

end OmpMySQL
