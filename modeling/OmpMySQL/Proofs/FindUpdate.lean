import OmpMySQL.Proofs.KeyWriteBack
import OmpMySQL.Proofs.SqlMeaning
import OmpMySQL.Proofs.WholeResults

/-! A find fills the bound variables from a row, and an update fills the row from the
variables. A variable has no way to say NULL. -/

namespace OmpMySQL
open Library.SqlTokens

theorem cString_toString (value : Int) : cString (toString value) = toString value := by
  rw [cString_eq_iff, NulFree, toString_toList]
  have digits : Char.ofNat 0 ∉ Nat.toDigits 10 value.natAbs :=
    fun inside => absurd (toDigits_numeric _ _ inside) (by decide)
  split
  next => exact List.not_mem_cons_of_ne_of_not_mem (by decide) digits
  next => exact digits

/-- A field as the natives bind it, a float aside. -/
structure ModelField.Bound (field : ModelField) : Prop where
  addressed : ∃ addr, field.addr = some addr
  whole : field.type ≠ .float
  roomy : field.type = .string → 0 < field.maxlen

/-- Characters stand for bytes. -/
def Bytes (text : List Char) : Prop := ∀ char ∈ text, char.toNat < 256

instance (text : List Char) : Decidable (Bytes text) := List.decidableBAll (fun char : Char => char.toNat < 256) text

/-- A value that the variable of a field is made for. -/
def ModelField.Fits (field : ModelField) : Value → Prop
  | .null => True
  | .int value => field.type = .int ∧ -0x80000000 ≤ value ∧ value ≤ 0x7fffffff
  | .text value => field.type = .string ∧ value.length < field.maxlen ∧ Bytes value.toList

/-- What is left of a value that has been in a variable. -/
def FieldType.kept : FieldType → Value → Value
  | .int, .null => .int 0
  | .string, .null => .text ""
  | .string, .text value => .text (cString value)
  | _, value => value

/-- The variable of a field has this value. -/
def ModelField.Holds (field : ModelField) (memory : Nat → Cell) : Value → Prop
  | .null => False
  | .int value => field.type = .int ∧ ∃ addr, field.addr = some addr ∧ memory addr = value
  | .text value =>
    field.type = .string ∧ value.length < field.maxlen ∧ PawnText value.toList ∧
      ∃ addr, field.addr = some addr ∧ HoldsText memory addr value.toList

section
variable {memory other : Nat → Cell} {field : ModelField} {value : Value}

theorem ModelField.Holds.congr (holds : field.Holds memory value)
    (same : ∀ addr, field.addr = some addr → ∀ cell, field.Covers addr cell → other cell = memory cell) :
    field.Holds other value := by
  cases value with
  | null => exact holds
  | int size =>
    obtain ⟨type, addr, bound, held⟩ := holds
    exact ⟨type, addr, bound, (same addr bound addr ⟨Nat.le_refl _, by omega⟩).trans held⟩
  | text text =>
    obtain ⟨type, room, pawn, addr, bound, held⟩ := holds
    refine ⟨type, room, pawn, addr, bound, held.congr ?_⟩
    intro cell low high
    rw [String.length_toList] at high
    exact same addr bound cell ⟨low, by omega⟩

theorem ModelField.Holds.boundValue {reader : ScriptReader} (reads : reader.ReadsText) (holds : field.Holds memory value) :
    reader.boundValue memory field = value := by
  cases value with
  | null => exact absurd holds id
  | int size =>
    obtain ⟨type, addr, bound, held⟩ := holds
    simp only [ScriptReader.boundValue, bound, type, held]
  | text text =>
    obtain ⟨type, _, pawn, addr, bound, held⟩ := holds
    simp only [ScriptReader.boundValue, bound, type, reads memory addr text.toList pawn held, String.ofList_toList]

theorem pawnText_cString {text : String} (bytes : Bytes text.toList) :
    PawnText (cString text).toList := by
  intro char inside
  refine ⟨?_, bytes char ((cString_sublist text).subset inside)⟩
  rw [cString, String.toList_ofList] at inside
  have other := List.mem_takeWhile_imp inside
  exact Nat.pos_of_ne_zero (toNat_ne_zero (of_decide_eq_true other))

/-- A find puts into a variable what it can hold of the column. -/
theorem Component.applyField_holds (strtof : String → Cell) (component : Component) (bound : field.Bound)
    (fits : field.Fits value) {set : ResultSet} {row : List ResultValue}
    (shown : (set.fieldIndex field.column).bind (row[·]?) = some (shownValue value.sent)) :
    field.Holds (component.applyField strtof set row field).memory (field.type.kept value) := by
  obtain ⟨addr, addressed⟩ := bound.addressed
  simp only [applyField, addressed, shown]
  cases type : field.type with
  | float => exact absurd type bound.whole
  | int =>
    cases value with
    | null => exact ⟨type, addr, addressed, store_same component addr 0⟩
    | text text => cases type.symm.trans fits.1
    | int size =>
      obtain ⟨_, low, high⟩ := fits
      refine ⟨type, addr, addressed, ?_⟩
      rw [store_same]
      simp only [Value.sent, shownValue, cString_toString, strtol_toString low high, Bool.false_eq_true, if_false]
      exact Int.bmod_eq_of_le (by omega) (by omega)
  | string =>
    have roomy := bound.roomy type
    dsimp only
    rw [if_pos roomy]
    cases value with
    | int size => cases type.symm.trans fits.1
    | null =>
      refine ⟨type, roomy, fun _ inside => absurd inside List.not_mem_nil, addr, addressed, ?_⟩
      exact @setString_holds component addr "" _ (Int.lt_toNat.mpr roomy)
    | text text =>
      obtain ⟨_, room, bytes⟩ := fits
      have shorter := (cString_sublist text).length_le
      rw [String.length_toList, String.length_toList] at shorter
      refine ⟨type, by omega, pawnText_cString bytes, addr, addressed, ?_⟩
      exact component.setString_holds addr (Int.lt_toNat.mpr room)

end

theorem ModelField.apart_of_le {field other : ModelField} {addr place : Nat}
    (ends : addr + max 1 field.maxlen.toNat ≤ place) (cell : Nat) (covers : field.Covers addr cell) :
    ¬ other.Covers place cell :=
  fun also => absurd (Nat.lt_of_lt_of_le covers.2 ends) (Nat.not_lt.mpr also.1)

/-- A model as the natives let a script bind it, without floats and with its variables apart. -/
structure Model.Plain (m : Model) : Prop where
  distinct : (m.fields.map (·.column)).Nodup
  bound : ∀ field ∈ m.fields, field.Bound
  apart : m.fields.Pairwise fun field other =>
    ∀ addr place, field.addr = some addr → other.addr = some place →
      ∀ cell, field.Covers addr cell → ¬ other.Covers place cell

/-- Every bound column has its value in the set's row. -/
def Shows (fields : List ModelField) (columns : String → Value) (set : ResultSet) (row : List ResultValue) : Prop :=
  ∀ field ∈ fields,
    (set.fieldIndex field.column).bind (row[·]?) = some (shownValue (columns field.column).sent)

theorem Component.applyFields_holds (strtof : String → Cell) {fields : List ModelField} {columns : String → Value}
    {set : ResultSet} {row : List ResultValue} (bound : ∀ field ∈ fields, field.Bound)
    (apart : fields.Pairwise fun field other =>
      ∀ addr place, field.addr = some addr → other.addr = some place →
        ∀ cell, field.Covers addr cell → ¬ other.Covers place cell)
    (fits : ∀ field ∈ fields, field.Fits (columns field.column)) (shows : Shows fields columns set row)
    (component : Component) :
    ∀ field ∈ fields, field.Holds (fields.foldl (fun c field => c.applyField strtof set row field) component).memory
      (field.type.kept (columns field.column)) := by
  induction fields generalizing component with
  | nil => exact fun _ inside => absurd inside List.not_mem_nil
  | cons first rest ih =>
    obtain ⟨clear, later⟩ := List.pairwise_cons.mp apart
    intro field member
    rw [List.foldl_cons]
    rcases List.mem_cons.mp member with rfl | member
    · have held := component.applyField_holds strtof (bound field List.mem_cons_self) (fits field List.mem_cons_self)
        (shows field List.mem_cons_self)
      refine held.congr ?_
      intro addr addressed cell covers
      apply applyFields_frame strtof set row rest
      intro other present place stored
      exact clear other present addr place addressed (ModelField.addr_of_target stored) cell covers
    · exact ih (fun other present => bound other (List.mem_cons_of_mem _ present)) later
        (fun other present => fits other (List.mem_cons_of_mem _ present))
        (fun other present => shows other (List.mem_cons_of_mem _ present)) _ field member

theorem TableRow.meets_iff {row : TableRow} {table : String} {condition : String × Value} :
    row.meets table condition = true ↔
      row.table = table ∧ condition.2 ≠ .null ∧ row.columns condition.1 = condition.2 := by
  simp [meets, and_assoc]

theorem TableRow.answer_rows (row : TableRow) (selection : Selection) :
    (row.answer selection).rows =
      if row.meets selection.table selection.condition then
        [selection.columns.map fun column => (row.columns column).sent]
      else [] := rfl

/-- Fields are found by name, whatever order they are in. -/
theorem answer_shows (m : Model) (row : TableRow) {set : ResultSet} {table : String} {condition : String × Value}
    (fields : set.fields = (row.answer ⟨m.fields.map (·.column), table, condition⟩).fields) :
    Shows m.fields row.columns set (m.fields.map fun field => shownValue (row.columns field.column).sent) := by
  intro field member
  have named : set.fieldIndex field.column = m.fields.findIdx? (·.column == field.column) := by
    rw [ResultSet.fieldIndex, fields, TableRow.answer]
    simp [List.findIdx?_map, Function.comp_def]
  rw [named]
  have present : (m.fields.findIdx? (·.column == field.column)).isSome = true := by
    rw [List.findIdx?_isSome]
    exact List.any_eq_true.mpr ⟨field, member, beq_self_eq_true field.column⟩
  obtain ⟨i, found⟩ := Option.isSome_iff_exists.mp present
  rw [found, Option.bind_some, List.getElem?_map]
  obtain ⟨inside, same, _⟩ := List.findIdx?_eq_some_iff_getElem.mp found
  rw [List.getElem?_eq_getElem inside, Option.map_some, eq_of_beq same]

theorem TableRow.foldl_assign {sets : List (String × Value)} (distinct : (sets.map Prod.fst).Nodup)
    (columns : String → Value) :
    (∀ set ∈ sets, sets.foldl assign columns set.1 = set.2) ∧
      ∀ column, column ∉ sets.map Prod.fst → sets.foldl assign columns column = columns column := by
  induction sets generalizing columns with
  | nil => exact ⟨fun _ inside => absurd inside List.not_mem_nil, fun _ _ => rfl⟩
  | cons first rest ih =>
    obtain ⟨fresh, distinct⟩ := List.nodup_cons.mp distinct
    obtain ⟨given, others⟩ := ih distinct (assign columns first)
    constructor
    · intro set member
      rcases List.mem_cons.mp member with rfl | member
      · exact (others set.1 fresh).trans (if_pos rfl)
      · exact given set member
    · intro column other
      obtain ⟨apart, absent⟩ := not_or.mp (fun inside => other (List.mem_cons.mpr inside))
      exact (others column absent).trans (if_neg apart)

section
variable {reader : ScriptReader} {escape : String → String} {m : Model}

theorem Model.keyField_column {field : ModelField} (found : m.keyField = some field) : field.column = m.key := by
  unfold keyField at found
  split at found
  next => cases found
  next =>
    have matched := List.find?_some found
    exact of_decide_eq_true matched

/-- What a model has the server look for. -/
def Model.condition (m : Model) (reader : ScriptReader) (memory : Nat → Cell) : String × Value :=
  (m.key, (m.keyField.map (reader.boundValue memory)).getD .null)

theorem select_modelSql (escapes : Escapes escape) (memory : Nat → Cell) (whole : ∀ f ∈ m.fields, f.type ≠ .float)
    (able : m.builds Model.opFind = true) (row : TableRow) :
    row.select (reader.modelSql memory (some escape) m Model.opFind) =
      some (row.answer ⟨m.fields.map (·.column), m.table, m.condition reader memory⟩) := by
  have text := @spells_modelSql reader escape escapes memory m whole Model.opFind
  rw [if_pos able] at text
  have bound : m.fields ≠ [] := by
    rw [Model.builds, if_pos rfl, Bool.and_eq_true, bne_iff_ne, bne_iff_ne] at able
    exact able.2
  have pattern := m.readSelect_pattern bound (m.condition reader memory).2
  rw [TableRow.select, text.reads.tokens, Option.bind_some, Model.pattern, if_pos rfl]
  exact congrArg (Option.map row.answer) pattern

theorem update_modelSql (escapes : Escapes escape) (memory : Nat → Cell) (whole : ∀ f ∈ m.fields, f.type ≠ .float)
    (able : m.builds Model.opUpdate = true) (row : TableRow) :
    row.update (reader.modelSql memory (some escape) m Model.opUpdate) =
      some (row.write
        ⟨m.table, m.updated.map fun f => (f.column, reader.boundValue memory f), m.condition reader memory⟩) := by
  have text := @spells_modelSql reader escape escapes memory m whole Model.opUpdate
  rw [if_pos able] at text
  have written : m.updated ≠ [] := by
    rw [Model.builds, if_neg (by decide), if_neg (by decide), if_pos rfl, Bool.and_eq_true, bne_iff_ne, bne_iff_ne] at able
    exact able.2
  have pattern := m.readUpdate_pattern written (reader.boundValue memory) (m.condition reader memory).2
  rw [TableRow.update, text.reads.tokens, Option.bind_some, Model.pattern, if_neg (by decide), if_neg (by decide), if_pos rfl]
  exact congrArg (Option.map row.write) pattern

end

/-- A find of a model that succeeds on a row and is dispatched. The model stays as it is
bound while the job is away. -/
structure Find (reader : ScriptReader) (escape : Nat → String → String) (m : Model) (row : TableRow) where
  handle : Int
  positive : 0 < handle
  asked : Component
  found : asked.models handle = some m
  registry : Connections
  conn : Nat
  live : registry.getConnection m.connectionHandle = some conn
  callback : String
  args : List CallbackArg
  job : QueryJob
  sends : (modelExecute reader escape asked registry handle Model.opFind callback args).2 = some job
  outcome : StatementOutcome
  set : ServerSet
  answered : outcome.retrieval = .complete set
  selected : row.select job.sql = some set
  matched : set.rows ≠ []
  execTimeMicros : Int
  told : Component
  status : ModelError
  waiting : told.models handle = some (m.setError status)
  resolved : (told.resolveScript job).isSome = true

namespace Find
variable {reader : ScriptReader} {escape : Nat → String → String} {m : Model} {row : TableRow}

def finished (find : Find reader escape m row) : QueryJob :=
  find.job.complete
    ((Performance.plain true (some (TextOutcome.last find.outcome).replies) find.execTimeMicros 0 "").outcome find.job)

def delivered (find : Find reader escape m row) (strtof : String → Cell) : Component :=
  (find.told.dispatchJob strtof find.finished).component

variable (find : Find reader escape m row) (escapes : ∀ conn, Escapes (escape conn))
  (whole : ∀ field ∈ m.fields, field.type ≠ .float)
include escapes whole

theorem job_eq :
    m.builds Model.opFind = true ∧
      find.job = { connectionHandle := m.connectionHandle
                   sql := reader.modelSql find.asked.memory (some (escape find.conn)) m Model.opFind
                   modelHandle := find.handle, modelOp := Model.opFind, callback := find.callback, args := find.args } := by
  have sent := find.sends
  rw [modelExecute_sent escapes find.found find.live whole] at sent
  split at sent
  next able => exact ⟨able, (Option.some.inj sent).symm⟩
  next => cases sent

theorem set_eq : find.set = row.answer ⟨m.fields.map (·.column), m.table, m.condition reader find.asked.memory⟩ := by
  obtain ⟨able, job⟩ := find.job_eq escapes whole
  have selected := find.selected
  rw [job, select_modelSql (escapes find.conn) find.asked.memory whole able row] at selected
  exact (Option.some.inj selected).symm

theorem meets : row.meets m.table (m.condition reader find.asked.memory) = true := by
  have matched := find.matched
  rw [find.set_eq escapes whole, TableRow.answer_rows] at matched
  by_contra other
  exact matched (if_neg other)

theorem set_rows :
    find.outcome.reply.buffer.fields = find.set.fields ∧
      find.outcome.reply.buffer.rows = [m.fields.map fun field => shownValue (row.columns field.column).sent] := by
  have shown := find.outcome.shown_eq
  rw [if_neg (by rw [find.answered]; simp), StatementOutcome.shown, find.answered] at shown
  have buffer := Option.some.inj shown
  have rows : find.set.rows = [m.fields.map fun field => (row.columns field.column).sent] := by
    rw [find.set_eq escapes whole, TableRow.answer_rows, if_pos (find.meets escapes whole), List.map_map]
    rfl
  rw [← buffer]
  refine ⟨rfl, ?_⟩
  simp [ServerSet.shownRows, rows]

theorem delivered_memory (strtof : String → Cell) :
    (find.delivered strtof).memory =
      (m.fields.foldl
        (fun c field => c.applyField strtof find.outcome.reply.buffer
          (m.fields.map fun field => shownValue (row.columns field.column).sent) field) find.told).memory := by
  obtain ⟨_, job⟩ := find.job_eq escapes whole
  obtain ⟨_, rows⟩ := find.set_rows escapes whole
  have resolved : (find.told.resolveScript find.finished).isSome = true := find.resolved
  obtain ⟨amx, resolved⟩ := Option.isSome_iff_exists.mp resolved
  rw [delivered, (Component.dispatchJob_written strtof resolved).1, Component.writeBack]
  have handle : find.finished.modelHandle = find.handle := by rw [finished, QueryJob.complete_modelHandle, job]
  have op : find.finished.modelOp = Model.opFind := by rw [finished, QueryJob.complete_modelOp, job]
  have succeeded : find.finished.succeeded = true := rfl
  have sets : (find.finished.result.map (·.sets)).getD [] = [find.outcome.reply.buffer] := rfl
  rw [if_pos (by rw [handle]; exact find.positive), Component.applyModelResult]
  simp only [handle, find.waiting, op, succeeded, if_true, sets, rows, if_neg (show ¬ Model.opFind = Model.opInsert by decide),
    if_neg (show ¬ Model.opFind ≠ Model.opFind by decide)]
  rfl

end Find

/-- After a find the script updates the model. No cell of a bound variable has changed. -/
structure FindThenUpdate (reader : ScriptReader) (escape : Nat → String → String) (strtof : String → Cell) (m : Model)
    (row : TableRow) extends Find reader escape m row where
  saved : Component
  unchanged : ∀ field ∈ m.fields, ∀ addr, field.addr = some addr → ∀ cell, field.Covers addr cell →
    saved.memory cell = (toFind.delivered strtof).memory cell
  lastStatus : ModelError
  kept : saved.models handle = some (m.setError lastStatus)
  lastRegistry : Connections
  lastConn : Nat
  lastLive : lastRegistry.getConnection m.connectionHandle = some lastConn
  lastCallback : String
  lastArgs : List CallbackArg

/-- The row after what a native sends, if it sends anything. -/
def TableRow.receive (row : TableRow) : Option QueryJob → Option TableRow
  | none => some row
  | some job => row.update job.sql

namespace FindThenUpdate
variable {reader : ScriptReader} {escape : Nat → String → String} {strtof : String → Cell} {m : Model} {row : TableRow}

def sent (run : FindThenUpdate reader escape strtof m row) : Option QueryJob :=
  (modelExecute reader escape run.saved run.lastRegistry run.handle Model.opUpdate run.lastCallback run.lastArgs).2

/-- The row after the update. -/
def after (run : FindThenUpdate reader escape strtof m row) : Option TableRow := row.receive run.sent

variable (run : FindThenUpdate reader escape strtof m row) (escapes : ∀ conn, Escapes (escape conn))

include escapes in
/-- The update writes what the variables hold by then. -/
theorem after_eq (whole : ∀ field ∈ m.fields, field.type ≠ .float) :
    run.after =
      if m.builds Model.opUpdate then
        some (row.write ⟨m.table, m.updated.map fun f => (f.column, reader.boundValue run.saved.memory f),
          m.condition reader run.saved.memory⟩)
      else some row := by
  have sent := @modelExecute_sent reader _ escapes _ _ _ _ _ run.kept run.lastLive whole Model.opUpdate run.lastCallback
    run.lastArgs
  have builds : (m.setError run.lastStatus).builds Model.opUpdate = m.builds Model.opUpdate := rfl
  rw [after, FindThenUpdate.sent, sent, builds]
  by_cases able : m.builds Model.opUpdate = true
  · rw [if_pos able, if_pos able]
    exact update_modelSql (escapes run.lastConn) run.saved.memory whole able row
  · rw [if_neg able, if_neg able]
    rfl

variable (reads : reader.ReadsText) (plain : m.Plain) (fits : ∀ field ∈ m.fields, field.Fits (row.columns field.column))
include escapes reads plain fits

theorem values : ∀ field ∈ m.fields,
    reader.boundValue run.saved.memory field = field.type.kept (row.columns field.column) := by
  have whole : ∀ field ∈ m.fields, field.type ≠ .float := fun field member => (plain.bound field member).whole
  intro field member
  apply ModelField.Holds.boundValue reads
  have held : field.Holds (run.delivered strtof).memory (field.type.kept (row.columns field.column)) := by
    rw [run.delivered_memory escapes whole strtof]
    have fields : run.outcome.reply.buffer.fields =
        (row.answer ⟨m.fields.map (·.column), m.table, m.condition reader run.asked.memory⟩).fields := by
      rw [(run.set_rows escapes whole).1, run.set_eq escapes whole]
    exact Component.applyFields_holds strtof plain.bound plain.apart fits (answer_shows m row fields) run.told field member
  exact held.congr (run.unchanged field member)

end FindThenUpdate

/-- Only NULL and what follows a NUL character get lost. -/
theorem FieldType.kept_self (type : FieldType) {value : Value} (some : value ≠ .null)
    (whole : ∀ text, value = .text text → NulFree text) : type.kept value = value := by
  cases value with
  | null => exact absurd rfl some
  | int size => cases type <;> rfl
  | text text =>
    have same := (cString_eq_iff text).mpr (whole text rfl)
    cases type with
    | int | float => rfl
    | string => rw [FieldType.kept, same]

namespace FindThenUpdate
variable {reader : ScriptReader} {escape : Nat → String → String} {strtof : String → Cell} {m : Model} {row : TableRow}
  (run : FindThenUpdate reader escape strtof m row) (escapes : ∀ conn, Escapes (escape conn))
  (reads : reader.ReadsText) (plain : m.Plain) (fits : ∀ field ∈ m.fields, field.Fits (row.columns field.column))
  (whole : ∀ text, row.columns m.key = .text text → NulFree text)
include escapes reads plain fits whole

/-- The update is of the row that was found. -/
theorem meets : row.columns m.key ≠ .null ∧ row.meets m.table (m.condition reader run.saved.memory) = true := by
  have found := run.toFind.meets escapes (fun field member => (plain.bound field member).whole)
  obtain ⟨table, some, same⟩ := TableRow.meets_iff.mp found
  have keyed : row.columns m.key ≠ .null := same.trans_ne some
  refine ⟨keyed, TableRow.meets_iff.mpr ?_⟩
  cases key : m.keyField with
  | none =>
    rw [Model.condition, key] at some
    exact absurd rfl some
  | some field =>
    have member := Model.mem_of_keyField key
    have column := Model.keyField_column key
    have value := run.values escapes reads plain fits field member
    rw [column, field.type.kept_self keyed whole] at value
    have wanted : (m.condition reader run.saved.memory).2 = row.columns m.key := by
      rw [← value, Model.condition, key]
      rfl
    exact ⟨table, wanted ▸ keyed, wanted.symm⟩

end FindThenUpdate

/-- The list of an update gives every bound column its value, but for the key. -/
theorem Model.assigned {m : Model} (distinct : (m.fields.map (·.column)).Nodup) (value : ModelField → Value)
    (columns : String → Value) :
    (∀ field ∈ m.fields, field.column ≠ m.key →
        (m.updated.map fun f => (f.column, value f)).foldl TableRow.assign columns field.column = value field) ∧
      ∀ column, column = m.key ∨ column ∉ m.fields.map (·.column) →
        (m.updated.map fun f => (f.column, value f)).foldl TableRow.assign columns column = columns column := by
  have names : (m.updated.map fun f => (f.column, value f)).map Prod.fst = m.updated.map (·.column) := by
    simp only [List.map_map, Function.comp_def]
  have apart : (m.updated.map (·.column)).Nodup := distinct.sublist (List.filter_sublist.map _)
  obtain ⟨given, others⟩ := TableRow.foldl_assign (names ▸ apart) columns
  rw [names] at others
  constructor
  · intro field member other
    have updated : field ∈ m.updated := List.mem_filter.mpr ⟨member, decide_eq_true other⟩
    exact given _ (List.mem_map.mpr ⟨field, updated, rfl⟩)
  · intro column untouched
    apply others
    intro inside
    obtain ⟨field, updated, rfl⟩ := List.mem_map.mp inside
    obtain ⟨member, other⟩ := List.mem_filter.mp updated
    rcases untouched with same | unbound
    · exact absurd same (of_decide_eq_true other)
    · exact unbound (List.mem_map_of_mem member)

/-- A model that can be looked for but not updated has its key alone. -/
theorem Model.only_key_bound {m : Model} (found : m.builds Model.opFind = true) (able : m.builds Model.opUpdate ≠ true) :
    ∀ field ∈ m.fields, field.column = m.key := by
  rw [Model.builds, if_pos rfl, Bool.and_eq_true] at found
  have nothing : m.updated = [] := by
    by_contra some
    apply able
    rw [Model.builds, if_neg (by decide), if_neg (by decide), if_pos rfl, Bool.and_eq_true]
    exact ⟨found.1, bne_iff_ne.mpr some⟩
  intro field member
  have alone := List.filter_eq_nil_iff.mp nothing field member
  simpa using alone

/-- After a find and an update each bound column is what its variable could hold of it. -/
theorem found_row_kept {reader : ScriptReader} {escape : Nat → String → String} {strtof : String → Cell} {m : Model}
    {row : TableRow} (run : FindThenUpdate reader escape strtof m row) (escapes : ∀ conn, Escapes (escape conn))
    (reads : reader.ReadsText) (plain : m.Plain) (fits : ∀ field ∈ m.fields, field.Fits (row.columns field.column))
    (whole : ∀ text, row.columns m.key = .text text → NulFree text) :
    ∃ after, run.after = some after ∧
      (∀ field ∈ m.fields, after.columns field.column = field.type.kept (row.columns field.column)) ∧
      ∀ column, column ∉ m.fields.map (·.column) → after.columns column = row.columns column := by
  obtain ⟨keyed, meets⟩ := run.meets escapes reads plain fits whole
  have after := run.after_eq escapes (fun field member => (plain.bound field member).whole)
  have key : ∀ field ∈ m.fields, field.column = m.key →
      row.columns field.column = field.type.kept (row.columns field.column) := by
    intro field _ same
    rw [same, field.type.kept_self keyed whole]
  by_cases able : m.builds Model.opUpdate = true
  · rw [if_pos able, TableRow.write, if_pos meets] at after
    obtain ⟨given, others⟩ := Model.assigned plain.distinct (reader.boundValue run.saved.memory) row.columns
    refine ⟨_, after, ?_, fun column unbound => others column (Or.inr unbound)⟩
    intro field member
    by_cases same : field.column = m.key
    · exact (others field.column (Or.inl same)).trans (key field member same)
    · exact (given field member same).trans (run.values escapes reads plain fits field member)
  · rw [if_neg able] at after
    -- Nothing but the key is bound, so that nothing was sent.
    obtain ⟨found, _⟩ := run.job_eq escapes (fun field member => (plain.bound field member).whole)
    have alone := Model.only_key_bound found able
    exact ⟨row, after, fun field member => key field member (alone field member), fun _ _ => rfl⟩

/-- The script updates the model as soon as it is filled. -/
def Find.updated {reader : ScriptReader} {escape : Nat → String → String} {m : Model} {row : TableRow}
    (find : Find reader escape m row) (strtof : String → Cell) : FindThenUpdate reader escape strtof m row where
  toFind := find
  saved := { find.told with memory := (find.delivered strtof).memory }
  unchanged _ _ _ _ _ _ := rfl
  lastStatus := find.status
  kept := find.waiting
  lastRegistry := find.registry
  lastConn := find.conn
  lastLive := find.live
  lastCallback := find.callback
  lastArgs := find.args

/-- No bound column is changed. -/
def FindThenUpdate.Keeps {reader : ScriptReader} {escape : Nat → String → String} {strtof : String → Cell} {m : Model}
    {row : TableRow} (run : FindThenUpdate reader escape strtof m row) : Prop :=
  ∃ after, run.after = some after ∧ ∀ field ∈ m.fields, after.columns field.column = row.columns field.column

def accountName : ModelField := { column := "name", type := .string, addr := some 10, maxlen := 8 }

section
variable (coinsAddr : Nat) (name coins : Value)

def accountCoins : ModelField := { column := "coins", addr := some coinsAddr }

def account : Model where
  connectionHandle := 1
  table := "accounts"
  key := "id"
  fields := [{ column := "id", addr := some 8 }, accountName, accountCoins coinsAddr]

def storedAccount : TableRow where
  table := "accounts"
  columns column :=
    if column = "id" then .int 5 else if column = "name" then name else if column = "coins" then coins else .null

/-- A gamemode that looks for the account 5. -/
def accountHost : Component where
  pawn := some silentGamemode
  models handle := if handle = 1 then some (account coinsAddr) else none
  memory addr := if addr = 8 then 5 else 0

def accountConnections : Connections := (({} : Connections).addConnection (some 3) false).1

theorem account_bound : ∀ field ∈ (account coinsAddr).fields, field.Bound := by
  simp only [account, List.forall_mem_cons]
  refine ⟨⟨⟨8, rfl⟩, by simp, by simp⟩, ⟨⟨10, rfl⟩, by simp [accountName], by simp [accountName]⟩, ?_, by simp⟩
  exact ⟨⟨coinsAddr, rfl⟩, by simp [accountCoins], by simp [accountCoins]⟩

theorem account_whole : ∀ field ∈ (account coinsAddr).fields, field.type ≠ .float :=
  fun field member => (account_bound coinsAddr field member).whole

theorem backslashes_escape (conn : Nat) : Escapes ((fun _ => backslashes : Nat → String → String) conn) := literal_backslashes

noncomputable def accountFind : Find textReader (fun _ => backslashes) (account coinsAddr) (storedAccount name coins) where
  handle := 1
  positive := Int.one_pos
  asked := accountHost coinsAddr
  found := rfl
  registry := accountConnections
  conn := 3
  live := rfl
  callback := ""
  args := []
  job :=
    { connectionHandle := 1
      sql := textReader.modelSql (accountHost coinsAddr).memory (some backslashes) (account coinsAddr) Model.opFind
      modelHandle := 1, modelOp := Model.opFind }
  sends := modelExecute_sent backslashes_escape rfl rfl (account_whole coinsAddr) Model.opFind "" []
  outcome :=
    { retrieval := .complete ((storedAccount name coins).answer ⟨["id", "name", "coins"], "accounts", ("id", .int 5)⟩) }
  set := (storedAccount name coins).answer ⟨["id", "name", "coins"], "accounts", ("id", .int 5)⟩
  answered := rfl
  selected :=
    select_modelSql (backslashes_escape 3) (accountHost coinsAddr).memory (account_whole coinsAddr) rfl (storedAccount name coins)
  matched := by
    have meets : (storedAccount name coins).meets "accounts" ("id", .int 5) = true :=
      TableRow.meets_iff.mpr ⟨rfl, by decide, rfl⟩
    rw [TableRow.answer_rows, if_pos meets]
    exact List.cons_ne_nil _ _
  execTimeMicros := 12
  told := accountHost coinsAddr
  status := .ok
  waiting := rfl
  resolved := rfl

noncomputable def accountRun :
    FindThenUpdate textReader (fun _ => backslashes) (fun _ => 0) (account coinsAddr) (storedAccount name coins) :=
  (accountFind coinsAddr name coins).updated _

theorem accountRun_after (key : (accountRun coinsAddr name coins).saved.memory 8 = 5) :
    ∃ after, (accountRun coinsAddr name coins).after = some after ∧
      after.columns "name" = textReader.boundValue (accountRun coinsAddr name coins).saved.memory accountName ∧
      after.columns "coins" = .int ((accountRun coinsAddr name coins).saved.memory coinsAddr) := by
  have after := (accountRun coinsAddr name coins).after_eq backslashes_escape (account_whole coinsAddr)
  have condition : (account coinsAddr).condition textReader (accountRun coinsAddr name coins).saved.memory =
      ("id", .int 5) := by
    rw [← key]
    rfl
  have meets : (storedAccount name coins).meets "accounts" ("id", .int 5) = true :=
    TableRow.meets_iff.mpr ⟨rfl, by decide, rfl⟩
  have able : (account coinsAddr).builds Model.opUpdate = true := rfl
  rw [if_pos able, condition] at after
  exact ⟨_, after.trans (congrArg some (if_pos meets)), rfl, rfl⟩

theorem accountRun_keeps (key : (accountRun coinsAddr name coins).saved.memory 8 = 5)
    (keeps : (accountRun coinsAddr name coins).Keeps) :
    textReader.boundValue (accountRun coinsAddr name coins).saved.memory accountName = name ∧
      .int ((accountRun coinsAddr name coins).saved.memory coinsAddr) = coins := by
  obtain ⟨after, ran, written, counted⟩ := accountRun_after coinsAddr name coins key
  obtain ⟨same, also, kept⟩ := keeps
  rw [ran] at also
  cases also
  have nameKept := kept accountName (by simp [account])
  have coinsKept := kept (accountCoins coinsAddr) (by simp [account])
  exact ⟨written.symm.trans nameKept, counted.symm.trans coinsKept⟩

variable {name coins}

theorem account_columns {P : ModelField → Value → Prop} (id : P { column := "id", addr := some 8 } (.int 5))
    (named : P accountName name) (counted : P (accountCoins coinsAddr) coins) :
    ∀ field ∈ (account coinsAddr).fields, P field ((storedAccount name coins).columns field.column) := by
  simp only [account, List.forall_mem_cons]
  exact ⟨id, named, counted, by simp⟩

theorem account_fits (named : accountName.Fits name) (counted : (accountCoins coinsAddr).Fits coins) :
    ∀ field ∈ (account coinsAddr).fields, field.Bound ∧ field.Fits ((storedAccount name coins).columns field.column) := by
  have fits := @account_columns coinsAddr name coins ModelField.Fits ⟨rfl, by decide, by decide⟩ named counted
  exact fun field member => ⟨account_bound coinsAddr field member, fits field member⟩

/-- Away from the other two variables. -/
theorem account_plain (clear : 18 ≤ coinsAddr) : (account coinsAddr).Plain where
  distinct := by simp [account, accountName, accountCoins]
  bound := account_bound coinsAddr
  apart := by
    simp only [account, List.pairwise_cons, List.forall_mem_cons, accountCoins, Option.some.injEq]
    refine ⟨⟨?_, ?_, by simp⟩, ⟨?_, by simp⟩, by simp, List.Pairwise.nil⟩
    · rintro _ _ rfl ⟨⟩
      exact ModelField.apart_of_le (by decide)
    · rintro _ _ rfl rfl
      exact ModelField.apart_of_le (Nat.le_trans (by decide) clear)
    · rintro _ _ ⟨⟩ rfl
      exact ModelField.apart_of_le clear

end

/-- A column that is NULL, a text with a NUL character in it, a variable for two columns. -/
theorem found_row_changed :
    (¬ ∀ (m : Model) (row : TableRow) (run : FindThenUpdate textReader (fun _ => backslashes) (fun _ => 0) m row),
      (∀ field ∈ m.fields, field.Bound ∧ field.Fits (row.columns field.column)) → run.Keeps) ∧
    (¬ ∀ (m : Model) (row : TableRow) (run : FindThenUpdate textReader (fun _ => backslashes) (fun _ => 0) m row),
      (∀ field ∈ m.fields, field.Bound ∧ field.Fits (row.columns field.column)) →
      (∀ field ∈ m.fields, row.columns field.column ≠ .null) → m.Plain → run.Keeps) ∧
    ¬ ∀ (m : Model) (row : TableRow) (run : FindThenUpdate textReader (fun _ => backslashes) (fun _ => 0) m row),
      (∀ field ∈ m.fields, field.Bound ∧ field.Fits (row.columns field.column)) →
      (∀ field ∈ m.fields, row.columns field.column ≠ .null) →
      (∀ field ∈ m.fields, ∀ text, row.columns field.column = .text text → NulFree text) → run.Keeps := by
  refine ⟨?_, ?_, ?_⟩
  · intro all
    have keeps := all _ _ (accountRun 30 (.text "Bob") .null) (account_fits 30 ⟨rfl, by decide, by decide⟩ trivial)
    cases (accountRun_keeps 30 (.text "Bob") .null rfl keeps).2
  · intro all
    have keeps := all _ _ (accountRun 30 (.text "a\x00b") (.int 65))
      (account_fits 30 ⟨rfl, by decide, by decide⟩ ⟨rfl, by decide, by decide⟩)
      (@account_columns 30 (.text "a\x00b") (.int 65) (fun _ value => value ≠ .null) (by simp) (by simp) (by simp))
      (account_plain 30 (by decide))
    have held : accountName.Holds (accountRun 30 (.text "a\x00b") (.int 65)).saved.memory (.text "a") :=
      ⟨rfl, by decide, by decide, 10, rfl, by decide⟩
    have value := (accountRun_keeps 30 (.text "a\x00b") (.int 65) rfl keeps).1
    rw [held.boundValue textReader_reads] at value
    exact absurd value (by decide)
  · intro all
    have keeps := all _ _ (accountRun 10 (.text "Bob") (.int 65))
      (account_fits 10 ⟨rfl, by decide, by decide⟩ ⟨rfl, by decide, by decide⟩)
      (@account_columns 10 (.text "Bob") (.int 65) (fun _ value => value ≠ .null) (by simp) (by simp) (by simp))
      (@account_columns 10 (.text "Bob") (.int 65) (fun _ value => ∀ text, value = .text text → NulFree text)
        (by simp) (by rintro _ ⟨⟩; decide) (by simp))
    have held : accountName.Holds (accountRun 10 (.text "Bob") (.int 65)).saved.memory (.text "Aob") :=
      ⟨rfl, by decide, by decide, 10, rfl, by decide⟩
    have value := (accountRun_keeps 10 (.text "Bob") (.int 65) rfl keeps).1
    rw [held.boundValue textReader_reads] at value
    exact absurd value (by decide)

theorem found_row_kept_null :
    ∃ after, (accountRun 30 (.text "Bob") .null).after = some after ∧
      (∀ field ∈ (account 30).fields,
        after.columns field.column = field.type.kept ((storedAccount (.text "Bob") .null).columns field.column)) ∧
      ∀ column, column ∉ (account 30).fields.map (·.column) →
        after.columns column = (storedAccount (.text "Bob") .null).columns column :=
  found_row_kept (accountRun 30 (.text "Bob") .null) backslashes_escape textReader_reads (account_plain 30 (by decide))
    (fun field member =>
      (@account_fits 30 (.text "Bob") .null ⟨rfl, by decide, by decide⟩ trivial field member).2)
    (by simp [storedAccount, account])

end OmpMySQL
