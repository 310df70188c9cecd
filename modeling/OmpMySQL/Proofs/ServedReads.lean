import OmpMySQL.Proofs.ResultBounds
import OmpMySQL.Proofs.WholeResults

/-! What scripts read of a query's result, in terms of what the server produced. The copy in
between drops nothing, and every native finds in it what the server has. -/

namespace OmpMySQL

namespace StatementOutcome
variable (outcome : StatementOutcome)

def set : Option ServerSet :=
  match outcome.retrieval with
  | .complete set => some set
  | .noResultSet | .failed => none

def fields : List ResultField := outcome.set.elim [] ServerSet.fields

def rows : List (List (Option String)) := outcome.set.elim [] ServerSet.rows

end StatementOutcome

/-- The element at an index that comes from a script. -/
def atIndex {α : Type} (items : List α) (index : Int) : Option α := if index < 0 then none else items[index.toNat]?

/-- What a native says of what it finds, if it finds anything. -/
def told {α : Type} (missing : NativeValue) (tell : α → NativeValue) : Option α → Reply
  | none => ⟨missing, false⟩
  | some item => ⟨tell item, true⟩

/-! A value of the server, or a NULL. -/

def stringReply : Option (Option String) → Reply := told (.text "") fun value => .text (value.getD "")

def intReply : Option (Option String) → Reply := told (.cell 0) fun value => .cell (value.elim 0 atoi)

def floatReply (atof : String → Cell) : Option (Option String) → Reply :=
  told (.float 0) fun value => .float (value.elim 0 fun text => atof (cString text))

def boolReply : Option (Option String) → Reply :=
  told (.bool false) fun value => .bool (value.elim false fun text => atoi text != 0)

def nullReply : Option (Option String) → Reply := told (.bool true) fun value => .bool value.isNone

/-- What a query text came to: its statements' outcomes, in order, and the time it took. -/
structure Response where
  sql : String
  outcomes : List StatementOutcome
  execTimeMicros : Int

namespace Response
variable (response : Response) (index : Int)

/-- The statement whose result is selected. -/
def selected : Option StatementOutcome := atIndex response.outcomes index

def field (fieldIndex : Int) : Option ResultField :=
  (response.selected index).bind fun outcome => atIndex outcome.fields fieldIndex

def value (row column : Int) : Option (Option String) :=
  (response.selected index).bind fun outcome => (atIndex outcome.rows row).bind (atIndex · column)

/-- The value in the first column of the name. -/
def valueBy (row : Int) (name : String) : Option (Option String) :=
  (response.selected index).bind fun outcome =>
    (outcome.fields.findIdx? (·.name == name)).bind fun column : Nat => response.value index row column

/-- What each native says while the result of this statement is selected. -/
def read (atof : String → Cell) : RsNative → Reply
  | .rowCount => told (.cell 0) (fun outcome => .cell outcome.rows.length) (response.selected index)
  | .fieldCount => told (.cell 0) (fun outcome => .cell outcome.fields.length) (response.selected index)
  | .setCount => ⟨.cell response.outcomes.length, true⟩
  | .fieldName fieldIndex => told (.text "") (fun field => .text field.name) (response.field index fieldIndex)
  | .fieldType fieldIndex => told (.cell (-1)) (fun field => .cell field.type) (response.field index fieldIndex)
  | .getString row column => stringReply (response.value index row column)
  | .getInt row column => intReply (response.value index row column)
  | .getFloat row column => floatReply atof (response.value index row column)
  | .getBool row column => boolReply (response.value index row column)
  | .isNull row column => nullReply (response.value index row column)
  | .getStringBy row name => stringReply (response.valueBy index row name)
  | .getIntBy row name => intReply (response.valueBy index row name)
  | .getFloatBy row name => floatReply atof (response.valueBy index row name)
  | .getBoolBy row name => boolReply (response.valueBy index row name)
  | .isNullBy row name => nullReply (response.valueBy index row name)
  | .affectedRows => told (.cell 0) (fun outcome => .cell (toCell outcome.affectedRows)) (response.selected index)
  | .insertId => told (.cell 0) (fun outcome => .cell (toCell outcome.insertId)) (response.selected index)
  | .warningCount => told (.cell 0) (fun outcome => .cell (toCell outcome.warningCount)) (response.selected index)
  | .execTime unit =>
    ⟨.cell (toCell (if unit = 1 then response.execTimeMicros.tdiv 1000 else response.execTimeMicros)), true⟩
  | .query => ⟨.text response.sql, true⟩
  | .count what =>
    if what = 2 then ⟨.cell response.outcomes.length, true⟩
    else told (.cell 0) (fun outcome => .cell (if what = 1 then outcome.fields.length else outcome.rows.length))
      (response.selected index)

/-- Every number of rows, fields and statements fits in a cell. -/
structure Countable : Prop where
  outcomes : response.outcomes.length < 0x80000000
  rows : ∀ outcome ∈ response.outcomes, outcome.rows.length < 0x80000000
  fields : ∀ outcome ∈ response.outcomes, outcome.fields.length < 0x80000000

/-- The result is the copy of all of the response. -/
structure Shown (result : QueryResult) : Prop where
  sets : response.outcomes.map StatementOutcome.shown = result.sets.map some
  sql : result.queryString = response.sql
  execTimeMicros : result.execTimeMicros = response.execTimeMicros

end Response

theorem toCell_count {count : Nat} (small : count < 0x80000000) : toCell count = count := by
  have same : Int.bmod (count : Int) 0x100000000 = count := by
    apply Int.bmod_eq_of_le <;> omega
  exact same

section Shown
variable {outcome : StatementOutcome} {set : ResultSet}

theorem shown_set (shown : outcome.shown = some set) :
    set.fields = outcome.fields ∧ set.rows = outcome.rows.map (List.map shownValue) ∧
      set.affectedRows = outcome.affectedRows ∧ set.insertId = outcome.insertId ∧ set.warningCount = outcome.warningCount := by
  cases retrieval : outcome.retrieval with
  | noResultSet =>
    simp only [StatementOutcome.shown, retrieval, Option.some.injEq] at shown
    subst shown
    simp [StatementOutcome.fields, StatementOutcome.rows, StatementOutcome.set, retrieval]
  | complete server =>
    simp only [StatementOutcome.shown, retrieval, Option.some.injEq] at shown
    subst shown
    simp [StatementOutcome.fields, StatementOutcome.rows, StatementOutcome.set, retrieval, ServerSet.shownRows]
  | failed => simp [StatementOutcome.shown, retrieval] at shown

theorem rows_width (outcome : StatementOutcome) : ∀ row ∈ outcome.rows, row.length = outcome.fields.length := by
  intro row inside
  cases present : outcome.set with
  | none => simp [StatementOutcome.rows, present] at inside
  | some server =>
    rw [StatementOutcome.rows, present] at inside
    rw [StatementOutcome.fields, present]
    exact server.width row inside

theorem atIndex_map {α β : Type} (f : α → β) (items : List α) (index : Int) :
    atIndex (items.map f) index = (atIndex items index).map f := by
  unfold atIndex
  split
  next => rfl
  next => rw [List.getElem?_map]

theorem atIndex_mem {α : Type} {items : List α} {index : Int} {item : α} (found : atIndex items index = some item) :
    item ∈ items := by
  unfold atIndex at found
  split at found
  next => cases found
  next => exact List.mem_of_getElem? found

/-- The bounds check and the subscript find what is there. -/
theorem subscript_checked {α : Type} {items : List α} (small : items.length < 0x80000000) (index : Int) :
    (if index < 0 ∨ toCell items.length ≤ index then Pointer.null else subscript items index) =
      Pointer.ofOption (atIndex items index) := by
  rw [toCell_count small, atIndex]
  by_cases negative : index < 0
  · rw [if_pos (Or.inl negative), if_pos negative]
    rfl
  · rw [if_neg negative]
    by_cases beyond : (items.length : Int) ≤ index
    · have outside : items.length ≤ index.toNat := by omega
      rw [if_pos (Or.inr beyond), List.getElem?_eq_none outside]
      rfl
    · have inside : index.toNat < items.length := by omega
      rw [if_neg (by simp [negative, beyond]), subscript, if_pos (by omega), List.getElem?_eq_getElem inside]
      rfl

end Shown

section Reads
variable {response : Response} {result : QueryResult} {component : Component}

/-- The active set is the copy of the selected outcome. -/
theorem activeSet_response (shown : response.Shown result) (countable : response.Countable)
    (active : component.activeCache = some result) :
    response.selected component.activeResultIndex = none ∧ component.activeSet = .null ∨
      ∃ outcome set, response.selected component.activeResultIndex = some outcome ∧ outcome ∈ response.outcomes ∧
        outcome.shown = some set ∧ component.activeSet = .element set := by
  have lengths := congrArg List.length shown.sets
  rw [List.length_map, List.length_map] at lengths
  have checked := subscript_checked (lengths ▸ countable.outcomes) component.activeResultIndex
  have found : component.activeSet = Pointer.ofOption (atIndex result.sets component.activeResultIndex) := by
    rw [← checked, Component.activeSet, active]
    rfl
  rw [found, Response.selected, atIndex, atIndex]
  by_cases negative : component.activeResultIndex < 0
  · rw [if_pos negative, if_pos negative]
    exact Or.inl ⟨rfl, rfl⟩
  · rw [if_neg negative, if_neg negative]
    have same := congrArg (·[component.activeResultIndex.toNat]?) shown.sets
    simp only [List.getElem?_map] at same
    cases here : response.outcomes[component.activeResultIndex.toNat]? with
    | none =>
      rw [here, Option.map_none, eq_comm, Option.map_eq_none_iff] at same
      rw [same]
      exact Or.inl ⟨rfl, rfl⟩
    | some outcome =>
      rw [here, Option.map_some, eq_comm, Option.map_eq_some_iff] at same
      obtain ⟨set, there, own⟩ := same
      rw [there]
      exact Or.inr ⟨outcome, set, rfl, List.mem_of_getElem? here, own.symm, rfl⟩

theorem fieldAt_response (shown : response.Shown result) (countable : response.Countable)
    (active : component.activeCache = some result) (fieldIndex : Int) :
    component.fieldAt fieldIndex = Pointer.ofOption (response.field component.activeResultIndex fieldIndex) := by
  rw [Component.fieldAt, Response.field]
  rcases activeSet_response shown countable active with ⟨none, null⟩ | ⟨outcome, set, selected, member, own, element⟩
  · rw [none, null]
    rfl
  · have checked := subscript_checked (countable.fields outcome member) fieldIndex
    rw [selected, element, Option.bind_some, Pointer.bind, ResultSet.fieldCount, (shown_set own).1, checked]

theorem cellAt_response (shown : response.Shown result) (countable : response.Countable)
    (active : component.activeCache = some result) (row column : Int) :
    component.cellAt row column =
      Pointer.ofOption ((response.value component.activeResultIndex row column).map shownValue) := by
  rw [Component.cellAt, Response.value]
  rcases activeSet_response shown countable active with ⟨none, null⟩ | ⟨outcome, set, selected, member, own, element⟩
  · rw [none, null]
    rfl
  · obtain ⟨fields, rows, _⟩ := shown_set own
    have small : (outcome.rows.map (List.map shownValue)).length < 0x80000000 := by
      rw [List.length_map]
      exact countable.rows outcome member
    have checked := subscript_checked small row
    rw [selected, element, Option.bind_some, Pointer.bind, ResultSet.rowCount, ResultSet.fieldCount, fields, rows]
    by_cases outside : row < 0 ∨ toCell (outcome.rows.map (List.map shownValue)).length ≤ row
    · rw [if_pos outside, atIndex_map] at checked
      rw [if_pos (or_assoc.mp (Or.inl outside))]
      cases here : atIndex outcome.rows row with
      | none => rfl
      | some cells =>
        rw [here] at checked
        cases checked
    · rw [if_neg outside, atIndex_map] at checked
      rw [checked]
      cases here : atIndex outcome.rows row with
      | none =>
        rw [Option.map_none, Option.bind_none, Option.map_none]
        split <;> rfl
      | some cells =>
        have width : (cells.map shownValue).length = outcome.fields.length := by
          rw [List.length_map]
          exact rows_width outcome cells (atIndex_mem here)
        have within := @subscript_checked _ (cells.map shownValue) (width ▸ countable.fields outcome member) column
        rw [width, atIndex_map] at within
        rw [Option.bind_some, ← within, Option.map_some]
        by_cases beside : column < 0 ∨ toCell outcome.fields.length ≤ column
        · rw [if_pos beside, if_pos (Or.inr (Or.inr beside))]
        · have inside : ¬ (row < 0 ∨ toCell (outcome.rows.map (List.map shownValue)).length ≤ row ∨ column < 0 ∨
              toCell outcome.fields.length ≤ column) := by
            rw [← or_assoc]
            exact not_or.mpr ⟨outside, beside⟩
          rw [if_neg beside, if_neg inside]
          rfl

theorem cellByName_element {set : ResultSet} (element : component.activeSet = .element set) (row : Int) (name : String) :
    component.cellByName row name =
      if (set.fieldIndex name).elim (-1) (fun i : Nat => toCell i) < 0 then .null
      else component.cellAt row ((set.fieldIndex name).elim (-1) fun i : Nat => toCell i) := by
  rw [Component.cellByName, element]
  rfl

theorem cellByName_response (shown : response.Shown result) (countable : response.Countable)
    (active : component.activeCache = some result) (row : Int) (name : String) :
    component.cellByName row name =
      Pointer.ofOption ((response.valueBy component.activeResultIndex row name).map shownValue) := by
  rw [Response.valueBy]
  rcases activeSet_response shown countable active with ⟨none, null⟩ | ⟨outcome, set, selected, member, own, element⟩
  · rw [none, Component.cellByName, null]
    rfl
  · have index : set.fieldIndex name = outcome.fields.findIdx? (·.name == name) := by
      rw [ResultSet.fieldIndex, (shown_set own).1]
    rw [cellByName_element element, selected, Option.bind_some, index]
    cases found : outcome.fields.findIdx? (·.name == name) with
    | none => rfl
    | some column =>
      have inside : column < outcome.fields.length := (List.findIdx?_eq_some_iff_getElem.mp found).1
      have within := countable.fields outcome member
      have counted : (some column).elim (-1) (fun i : Nat => toCell i) = (column : Int) := by
        rw [Option.elim_some]
        exact @toCell_count column (by omega)
      have forward : ¬ (column : Int) < 0 := by omega
      rw [counted, if_neg forward, Option.bind_some]
      exact cellAt_response shown countable active row column

/-! Each native says of the copy what it says of the server's value. -/

theorem getString_shown (value : Option (Option String)) :
    getString (Pointer.ofOption (value.map shownValue)) = some (stringReply value) := by
  rcases value with _ | _ | text <;> rfl

theorem getInt_shown (value : Option (Option String)) :
    getInt (Pointer.ofOption (value.map shownValue)) = some (intReply value) := by
  rcases value with _ | _ | text <;> rfl

theorem getFloat_shown (atof : String → Cell) (value : Option (Option String)) :
    getFloat atof (Pointer.ofOption (value.map shownValue)) = some (floatReply atof value) := by
  rcases value with _ | _ | text <;> rfl

theorem getBool_shown (value : Option (Option String)) :
    getBool (Pointer.ofOption (value.map shownValue)) = some (boolReply value) := by
  rcases value with _ | _ | text <;> rfl

theorem isNull_shown (value : Option (Option String)) :
    isNull (Pointer.ofOption (value.map shownValue)) = some (nullReply value) := by
  rcases value with _ | _ | text <;> rfl

/-- While the copy of a response is active, every native reads the response. -/
theorem call_response (shown : response.Shown result) (countable : response.Countable)
    (active : component.activeCache = some result) (atof : String → Cell) (native : RsNative) :
    native.call atof component = some (response.read component.activeResultIndex atof native) := by
  have counted : result.resultCount = response.outcomes.length := by
    have lengths := congrArg List.length shown.sets
    rw [List.length_map, List.length_map] at lengths
    rw [QueryResult.resultCount, ← lengths, toCell_count countable.outcomes]
  have statement {tell : ResultSet → NativeValue} {server : StatementOutcome → NativeValue}
      (same : ∀ outcome ∈ response.outcomes, ∀ set, outcome.shown = some set → tell set = server outcome) :
      component.activeSet.read tell (.cell 0) =
        some (told (.cell 0) server (response.selected component.activeResultIndex)) := by
    rcases activeSet_response shown countable active with ⟨none, null⟩ | ⟨outcome, set, selected, member, own, element⟩
    · rw [none, null]
      rfl
    · rw [selected, element, Pointer.read, told, same outcome member set own]
  have rows (outcome : StatementOutcome) (member : outcome ∈ response.outcomes) (set : ResultSet)
      (own : outcome.shown = some set) : set.rowCount = outcome.rows.length := by
    rw [ResultSet.rowCount, (shown_set own).2.1, List.length_map, toCell_count (countable.rows outcome member)]
  have fields (outcome : StatementOutcome) (member : outcome ∈ response.outcomes) (set : ResultSet)
      (own : outcome.shown = some set) : set.fieldCount = outcome.fields.length := by
    rw [ResultSet.fieldCount, (shown_set own).1, toCell_count (countable.fields outcome member)]
  cases native with
  | rowCount => exact statement fun outcome member set own => by rw [rows outcome member set own]
  | fieldCount => exact statement fun outcome member set own => by rw [fields outcome member set own]
  | setCount =>
    rw [RsNative.call, active, Pointer.ofOption, Pointer.read, counted]
    rfl
  | fieldName fieldIndex =>
    rw [RsNative.call, fieldAt_response shown countable active, Response.read]
    cases response.field component.activeResultIndex fieldIndex <;> rfl
  | fieldType fieldIndex =>
    rw [RsNative.call, fieldAt_response shown countable active, Response.read]
    cases response.field component.activeResultIndex fieldIndex <;> rfl
  | getString row column => rw [RsNative.call, cellAt_response shown countable active, getString_shown, Response.read]
  | getInt row column => rw [RsNative.call, cellAt_response shown countable active, getInt_shown, Response.read]
  | getFloat row column => rw [RsNative.call, cellAt_response shown countable active, getFloat_shown, Response.read]
  | getBool row column => rw [RsNative.call, cellAt_response shown countable active, getBool_shown, Response.read]
  | isNull row column => rw [RsNative.call, cellAt_response shown countable active, isNull_shown, Response.read]
  | getStringBy row name => rw [RsNative.call, cellByName_response shown countable active, getString_shown, Response.read]
  | getIntBy row name => rw [RsNative.call, cellByName_response shown countable active, getInt_shown, Response.read]
  | getFloatBy row name => rw [RsNative.call, cellByName_response shown countable active, getFloat_shown, Response.read]
  | getBoolBy row name => rw [RsNative.call, cellByName_response shown countable active, getBool_shown, Response.read]
  | isNullBy row name => rw [RsNative.call, cellByName_response shown countable active, isNull_shown, Response.read]
  | affectedRows => exact statement fun outcome _ set own => by rw [(shown_set own).2.2.1]
  | insertId => exact statement fun outcome _ set own => by rw [(shown_set own).2.2.2.1]
  | warningCount => exact statement fun outcome _ set own => by rw [(shown_set own).2.2.2.2]
  | execTime unit =>
    rw [RsNative.call, active, Pointer.ofOption, Pointer.read, shown.execTimeMicros]
    rfl
  | query =>
    rw [RsNative.call, active, Pointer.ofOption, Pointer.read, shown.sql]
    rfl
  | count what =>
    rw [RsNative.call, Response.read]
    by_cases sets : what = 2
    · rw [if_pos sets, if_pos sets, active, Pointer.ofOption, Pointer.read, counted]
    · rw [if_neg sets, if_neg sets]
      apply statement
      intro outcome member set own
      rw [rows outcome member set own, fields outcome member set own]

end Reads

section Performed
variable {job : QueryJob} {performance : Performance} {response : Response}

/-- What an executed statement came to. Nothing counts its warnings. -/
def StatementReply.statementOutcome (reply : StatementReply) (fetching : Option Fetching) : StatementOutcome where
  affectedRows := reply.affectedRows
  insertId := reply.insertId
  retrieval := fetching.elim .noResultSet (.complete ·.set)

/-- All of what the server responds reaches the worker that performs the query. -/
inductive Performance.Responds (sql : String) : Performance → Response → Prop where
  | plain {isOpen text micros errno error} (retrieved : RetrievesAll text) :
      Responds sql (.plain isOpen (some text.replies) micros errno error) ⟨sql, text.outcomes, micros⟩
  | prepared {statement serverParams} {reply : StatementReply} {fetching : Option Fetching}
      (delivers : ∀ result, fetching = some result → result.Delivers) :
      Responds sql (.prepared statement serverParams (reply.fetching fetching))
        ⟨sql, [reply.statementOutcome fetching], reply.execTimeMicros⟩

/-- The one set of a successful execution shows what the statement came to. -/
theorem resultSet_shown {reply : StatementReply} {fetching : Option Fetching} {set : ResultSet}
    (delivers : ∀ result, fetching = some result → result.Delivers)
    (produced : PreparedStatement.resultSet (reply.fetching fetching) = some set) :
    (reply.statementOutcome fetching).shown = some set := by
  cases fetching with
  | none =>
    cases produced
    rfl
  | some result =>
    obtain ⟨_, rfl⟩ := (PreparedStatement.resultSet_some rfl _).mp produced
    obtain ⟨_, rows⟩ := result.delivers_iff.mpr (delivers result rfl)
    rw [StatementReply.fetching, Option.elim_some, rows]
    rfl

/-- What a performance that succeeds leaves is the copy of the response. -/
theorem Performance.Responds.shown (responds : performance.Responds job.sql response)
    (answered : (performance.outcome job).succeeded = true) : response.Shown (performance.outcome job).result := by
  cases responds with
  | @plain isOpen text micros errno error retrieved =>
    have opened : isOpen = true := ((queryBuffered_succeeds isOpen job.sql (some text)).mp answered).1
    subst opened
    exact ⟨(shows_all_iff text).mpr retrieved, rfl, rfl⟩
  | @prepared statement serverParams reply fetching delivers =>
    obtain ⟨sets, executed⟩ := Option.isSome_iff_exists.mp answered
    obtain ⟨_, set, produced, rfl⟩ := (PreparedStatement.sets_execute ..).mp executed
    refine ⟨?_, rfl, rfl⟩
    rw [Performance.outcome, PreparedStatement.outcome, executed, Option.getD_some]
    rw [List.map_singleton, List.map_singleton, resultSet_shown delivers produced]

end Performed
end OmpMySQL
