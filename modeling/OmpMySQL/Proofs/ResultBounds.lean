import OmpMySQL.Library.Transition
import OmpMySQL.Proofs.Upcalls
import OmpMySQL.ResultCache
import Mathlib.Data.List.Basic

/-! No read of a result leaves it: its rows are as wide as their set, and the chosen
set is one of its sets. -/

namespace OmpMySQL
open Library

namespace QueryResult

def Rectangular (result : QueryResult) : Prop :=
  ∀ set ∈ result.sets, ∀ row ∈ set.rows, row.length = set.fields.length

/-- What a query that succeeded leaves behind. -/
structure Buffered (result : QueryResult) : Prop where
  answered : result.sets ≠ []
  rectangular : result.Rectangular

end QueryResult

theorem buffer_rectangular (reply : SetReply) : ∀ row ∈ reply.buffer.rows, row.length = reply.buffer.fields.length := by
  intro row present
  cases stored : reply.stored with
  | none => simp [SetReply.buffer, stored] at present
  | some res =>
    simp only [SetReply.buffer, stored, List.mem_map] at present ⊢
    obtain ⟨source, _, rfl⟩ := present
    simp only [StoredRow.cells, List.length_map, List.length_range]

theorem replies_buffered (replies : QueryReplies) :
    replies.buffer.1 ≠ [] ∧ ∀ set ∈ replies.buffer.1, ∀ row ∈ set.rows, row.length = set.fields.length := by
  induction replies with
  | last set status =>
    refine ⟨List.cons_ne_nil _ _, ?_⟩
    intro buffered present
    rw [List.mem_singleton.mp present]
    exact buffer_rectangular set
  | more set rest ih =>
    refine ⟨List.cons_ne_nil _ _, ?_⟩
    intro buffered present
    rcases List.mem_cons.mp present with rfl | later
    · exact buffer_rectangular set
    · exact ih.2 buffered later

theorem resultSet_rectangular {reply : StatementReply} {set : ResultSet}
    (fetched : PreparedStatement.resultSet reply = some set) : ∀ row ∈ set.rows, row.length = set.fields.length := by
  intro row present
  unfold PreparedStatement.resultSet at fetched
  cases metadata : reply.metadata with
  | none =>
    simp only [metadata, Option.some.injEq] at fetched
    subst fetched
    cases present
  | some fields =>
    simp only [metadata, Option.ite_none_right_eq_some, Option.some.injEq] at fetched
    obtain ⟨_, rfl⟩ := fetched
    simp only [List.mem_map] at present
    obtain ⟨source, _, rfl⟩ := present
    simp only [fetchRow, List.length_map, List.length_range]

theorem execute_sets {statement : PreparedStatement} {serverParams : Nat} {reply : StatementReply}
    {sets : List ResultSet} (executed : (statement.execute serverParams reply).sets = some sets) :
    ∃ set, PreparedStatement.resultSet reply = some set ∧ sets = [set] := by
  unfold PreparedStatement.execute at executed
  split at executed
  next => cases executed
  next =>
    split at executed
    next => cases executed
    next statement prepared =>
      dsimp only at executed
      split_ifs at executed
      obtain ⟨set, fetched, rfl⟩ := Option.map_eq_some_iff.mp executed
      exact ⟨set, fetched, rfl⟩

/-- Whatever the server answers, a performed job keeps only a whole result. -/
theorem performed_buffered {job : QueryJob} {performance : Performance} {result : QueryResult}
    (kept : (job.complete (performance.outcome job)).result = some result) : result.Buffered := by
  simp only [QueryJob.complete, Option.ite_none_right_eq_some, Option.some.injEq] at kept
  obtain ⟨succeeded, rfl⟩ := kept
  cases performance with
  | disconnected => cases succeeded
  | prepared statement serverParams reply =>
    simp only [Performance.outcome, PreparedStatement.outcome] at succeeded ⊢
    obtain ⟨sets, executed⟩ := Option.isSome_iff_exists.mp succeeded
    obtain ⟨set, fetched, rfl⟩ := execute_sets executed
    simp only [executed, Option.getD_some]
    refine ⟨List.cons_ne_nil _ _, ?_⟩
    intro other present
    rw [List.mem_singleton.mp present]
    exact resultSet_rectangular fetched
  | plain isOpen answer execTimeMicros errno error =>
    cases isOpen with
    | false => simp [Performance.outcome, queryBuffered] at succeeded
    | true =>
      cases answer with
      | none => simp [Performance.outcome, queryBuffered] at succeeded
      | some replies => exact ⟨(replies_buffered replies).1, (replies_buffered replies).2⟩

/-- Counting in a cell never counts too many. -/
theorem toCell_le (count : Nat) : toCell count ≤ count := by
  have bound : Int.bmod (count : Int) 0x100000000 ≤ (count : Int) := by
    rw [Int.bmod]
    split <;> omega
  exact bound

section Pointer
variable {α β : Type}

theorem subscript_inside {items : List α} {index : Int} (low : 0 ≤ index) (high : index < items.length) :
    ∃ value, items[index.toNat]? = some value ∧ subscript items index = .element value := by
  have inside : index.toNat < items.length := by omega
  refine ⟨items[index.toNat], List.getElem?_eq_getElem inside, ?_⟩
  simp only [subscript, if_pos low, List.getElem?_eq_getElem inside]

theorem Pointer.ofOption_ne_stray (found : Option α) : Pointer.ofOption found ≠ .stray := by
  cases found <;> nofun

theorem Pointer.read_isSome {pointer : Pointer α} (value : α → NativeValue) (missing : NativeValue)
    (within : pointer ≠ .stray) : (pointer.read value missing).isSome := by
  cases pointer with
  | stray => exact absurd rfl within
  | null | element => rfl

end Pointer

namespace ResultCache

def Holds (cache : ResultCache) (result : QueryResult) : Prop :=
  cache.component.activeCache = some result ∨ ∃ cacheId, cache.savedCaches cacheId = some result

/-- The cell that a row and a column number stand for. -/
def HasCell (component : Component) (row column : Int) (v : ResultValue) : Prop :=
  ∃ result set cells, component.activeCache = some result ∧
    0 ≤ component.activeResultIndex ∧ result.sets[component.activeResultIndex.toNat]? = some set ∧
    0 ≤ row ∧ set.rows[row.toNat]? = some cells ∧ 0 ≤ column ∧ cells[column.toNat]? = some v

structure InBounds (cache : ResultCache) : Prop where
  rectangular : ∀ result, cache.Holds result → result.Rectangular
  selected : ∀ result, cache.component.activeCache = some result →
    0 ≤ cache.component.activeResultIndex ∧ cache.component.activeResultIndex < result.sets.length
  cells : ∀ row column, cache.component.cellAt row column ≠ .null →
    ∃ v, cache.component.cellAt row column = .element v ∧ HasCell cache.component row column v
  named : ∀ row name, cache.component.cellByName row name ≠ .null →
    ∃ column v, cache.component.cellByName row name = .element v ∧ HasCell cache.component row column v
  reads : ∀ (atof : String → Cell) (native : RsNative), (native.call atof cache.component).isSome

structure Steady (cache : ResultCache) : Prop where
  buffered : ∀ result, cache.Holds result → result.Buffered
  selected : ∀ result, cache.component.activeCache = some result →
    0 ≤ cache.component.activeResultIndex ∧ cache.component.activeResultIndex < result.sets.length

section Reads
variable {cache : ResultCache}

theorem Steady.activeSet (steady : Steady cache) : cache.component.activeSet = .null ∨
    ∃ result set, cache.component.activeCache = some result ∧ 0 ≤ cache.component.activeResultIndex ∧
      result.sets[cache.component.activeResultIndex.toNat]? = some set ∧
      cache.component.activeSet = .element set := by
  cases active : cache.component.activeCache with
  | none => exact Or.inl (by simp only [Component.activeSet, active, Pointer.ofOption, Pointer.bind])
  | some result =>
    obtain ⟨low, high⟩ := steady.selected result active
    obtain ⟨set, found, pointed⟩ := subscript_inside low high
    simp only [Component.activeSet, active, Pointer.ofOption, Pointer.bind, pointed]
    split
    next => exact Or.inl rfl
    next => exact Or.inr ⟨result, set, rfl, low, found, rfl⟩

theorem Steady.fieldAt (steady : Steady cache) (fieldIndex : Int) : cache.component.fieldAt fieldIndex ≠ .stray := by
  rcases steady.activeSet with none | ⟨_, set, _, _, _, active⟩
  · simp only [Component.fieldAt, none, Pointer.bind, ne_eq, reduceCtorEq, not_false_eq_true]
  · simp only [Component.fieldAt, active, Pointer.bind]
    split
    next => nofun
    next known =>
      simp only [not_or, not_lt, not_le] at known
      obtain ⟨field, _, pointed⟩ := subscript_inside known.1 (lt_of_lt_of_le known.2 (toCell_le _))
      rw [pointed]
      nofun

theorem Steady.cellAt (steady : Steady cache) (row column : Int) : cache.component.cellAt row column = .null ∨
    ∃ v, cache.component.cellAt row column = .element v ∧ HasCell cache.component row column v := by
  rcases steady.activeSet with none | ⟨result, set, shown, chosen, at_index, active⟩
  · exact Or.inl (by simp only [Component.cellAt, none, Pointer.bind])
  · simp only [Component.cellAt, active, Pointer.bind]
    split
    next => exact Or.inl rfl
    next known =>
      simp only [not_or, not_lt, not_le] at known
      obtain ⟨row_low, row_high, column_low, column_high⟩ := known
      obtain ⟨cells, found, line⟩ := subscript_inside row_low (lt_of_lt_of_le row_high (toCell_le _))
      -- The check was against the number of fields, the access is into the row.
      have width : cells.length = set.fields.length :=
        (steady.buffered result (Or.inl shown)).rectangular set (List.mem_of_getElem? at_index) cells
          (List.mem_of_getElem? found)
      have inside : column < cells.length := width ▸ lt_of_lt_of_le column_high (toCell_le _)
      obtain ⟨v, there, cell⟩ := subscript_inside column_low inside
      simp only [line, cell]
      exact Or.inr ⟨v, rfl, result, set, cells, shown, chosen, at_index, row_low, found, column_low, there⟩

theorem Steady.cellByName (steady : Steady cache) (row : Int) (name : String) :
    cache.component.cellByName row name = .null ∨
      ∃ column v, cache.component.cellByName row name = .element v ∧ HasCell cache.component row column v := by
  rcases steady.activeSet with none | ⟨result, set, _, _, _, active⟩
  · exact Or.inl (by simp only [Component.cellByName, none, Pointer.bind])
  · simp only [Component.cellByName, active, Pointer.bind]
    split
    next => exact Or.inl rfl
    next => exact (steady.cellAt row _).imp_right (fun found => ⟨_, found⟩)

theorem Steady.reads (steady : Steady cache) (atof : String → Cell) (native : RsNative) :
    (native.call atof cache.component).isSome := by
  have result := Pointer.ofOption_ne_stray cache.component.activeCache
  have set : cache.component.activeSet ≠ .stray := by
    rcases steady.activeSet with none | ⟨_, _, _, _, _, active⟩
    · simp [none]
    · simp [active]
  have cell (row column : Int) : cache.component.cellAt row column ≠ .stray := by
    rcases steady.cellAt row column with none | ⟨_, found, _⟩
    · simp [none]
    · simp [found]
  have named (row : Int) (name : String) : cache.component.cellByName row name ≠ .stray := by
    rcases steady.cellByName row name with none | ⟨_, _, found, _⟩
    · simp [none]
    · simp [found]
  cases native with
  | rowCount | fieldCount | affectedRows | insertId | warningCount => exact Pointer.read_isSome _ _ set
  | setCount | execTime | query => exact Pointer.read_isSome _ _ result
  | fieldName fieldIndex | fieldType fieldIndex => exact Pointer.read_isSome _ _ (steady.fieldAt fieldIndex)
  | getString row column | getInt row column | getFloat row column | getBool row column | isNull row column =>
    exact Pointer.read_isSome _ _ (cell row column)
  | getStringBy row name | getIntBy row name | getFloatBy row name | getBoolBy row name | isNullBy row name =>
    exact Pointer.read_isSome _ _ (named row name)
  | count what =>
    simp only [RsNative.call]
    split
    next => exact Pointer.read_isSome _ _ result
    next => exact Pointer.read_isSome _ _ set

theorem Steady.inBounds (steady : Steady cache) : InBounds cache where
  rectangular result held := (steady.buffered result held).rectangular
  selected := steady.selected
  cells row column found := (steady.cellAt row column).resolve_left found
  named row name found := (steady.cellByName row name).resolve_left found
  reads := steady.reads

end Reads

section Changes
variable {cache : ResultCache}

/-- Scripts and players come and go without a change to any result. -/
theorem Steady.load (steady : Steady cache) (pawn : Option Pawn) (core : Option (Int → Option Nat)) :
    Steady { cache with component := { cache.component with pawn, core } } where
  buffered := steady.buffered
  selected := steady.selected

theorem Steady.show (steady : Steady cache) {result : QueryResult} (buffered : result.Buffered) :
    Steady { cache with component := cache.component.setActiveCache result 0 } where
  buffered other held := by
    rcases held with active | saved
    · cases active
      exact buffered
    · exact steady.buffered other (Or.inr saved)
  selected other active := by
    cases active
    have answered := List.length_pos_iff.mpr buffered.answered
    refine ⟨le_refl _, ?_⟩
    simpa only [Component.setActiveCache, Int.natCast_pos] using answered

theorem Steady.hide (steady : Steady cache) : Steady { cache with component := cache.component.clearActiveCache } where
  buffered other held := by
    rcases held with active | saved
    · cases active
    · exact steady.buffered other (Or.inr saved)
  selected other active := by cases active

theorem Steady.saveActiveCache (steady : Steady cache) : Steady cache.saveActiveCache.1 := by
  rw [ResultCache.saveActiveCache]
  cases active : cache.component.activeCache with
  | none => exact steady
  | some result =>
    refine ⟨?_, ?_⟩
    · intro other held
      rcases held with shown | ⟨cacheId, saved⟩
      · exact steady.buffered other (Or.inl shown)
      · rcases Table.emplace_eq_some saved with old | rfl
        · exact steady.buffered other (Or.inr ⟨cacheId, old⟩)
        · exact steady.buffered other (Or.inl active)
    · exact fun other shown => steady.selected other shown

theorem Steady.activateSavedCache (steady : Steady cache) (cacheId : Int) : Steady (cache.activateSavedCache cacheId).1 := by
  rw [ResultCache.activateSavedCache]
  cases saved : cache.savedCaches cacheId with
  | none => exact steady
  | some result => exact steady.show (steady.buffered result (Or.inr ⟨cacheId, saved⟩))

theorem Steady.deleteSavedCache (steady : Steady cache) (cacheId : Int) : Steady (cache.deleteSavedCache cacheId).1 where
  buffered other held := by
    rcases held with active | ⟨otherId, saved⟩
    · exact steady.buffered other (Or.inl active)
    · by_cases same : otherId = cacheId
      · subst same
        simp only [ResultCache.deleteSavedCache, Table.erase_same, reduceCtorEq] at saved
      · simp only [ResultCache.deleteSavedCache, Table.erase_other _ _ _ same] at saved
        exact steady.buffered other (Or.inr ⟨otherId, saved⟩)
  selected := steady.selected

theorem Steady.setActiveResultIndex (steady : Steady cache) (index : Int) :
    Steady { cache with component := (cache.component.setActiveResultIndex index).1 } := by
  rw [Component.setActiveResultIndex]
  cases active : cache.component.activeCache with
  | none => exact steady
  | some result =>
    dsimp only
    split
    next => exact steady
    next known =>
      simp only [not_or, not_lt, not_le] at known
      refine ⟨?_, ?_⟩
      · intro other held
        rcases held with shown | saved
        · exact steady.buffered other (Or.inl (active.trans shown))
        · exact steady.buffered other (Or.inr saved)
      · intro other shown
        cases shown
        exact ⟨known.1, lt_of_lt_of_le known.2 (toCell_le _)⟩

theorem steady_reset (cache : ResultCache) : Steady cache.reset where
  buffered other held := by
    rcases held with active | ⟨_, saved⟩
    · cases active
    · cases saved
  selected other active := by cases active

theorem Steady.syncQuery (steady : Steady cache) {done : QueryJob}
    (buffered : ∀ result, done.result = some result → result.Buffered) (useCache : Bool) :
    Steady (cache.syncQuery done useCache).1 := by
  rw [ResultCache.syncQuery]
  split
  next result _ kept =>
    have shown := steady.show (buffered result kept)
    cases useCache with
    | true => exact shown.saveActiveCache
    | false => exact shown
  next => exact steady

theorem Steady.enterCallback (steady : Steady cache) {job : QueryJob}
    (buffered : ∀ result, job.result = some result → result.Buffered) :
    Steady { cache with component := enterCallback cache.component job } := by
  rw [ResultCache.enterCallback]
  split
  next result _ kept => exact steady.show (buffered result kept)
  next => exact steady

end Changes

structure Sound (state : State) : Prop where
  steady : Steady state.cache
  completed : ∀ job ∈ state.completed, ∀ result, job.result = some result → result.Buffered

theorem sound_step {state after : State} {event : Event} (sound : Sound state) (stepped : step state event = some after) :
    Sound after := by
  cases event with
  | load pawn core =>
    cases stepped
    exact ⟨sound.steady.load pawn core, sound.completed⟩
  | perform job performance =>
    cases stepped
    refine ⟨sound.steady, ?_⟩
    intro other present result kept
    rcases List.mem_append.mp present with old | new
    · exact sound.completed other old result kept
    · rw [List.mem_singleton.mp new] at kept
      exact performed_buffered kept
  | dispatch job =>
    simp only [step, Option.ite_none_right_eq_some, Option.some.injEq] at stepped
    obtain ⟨⟨_, head⟩, rfl⟩ := stepped
    refine ⟨sound.steady.enterCallback (sound.completed job (List.mem_of_mem_head? head)), ?_⟩
    exact fun other present => sound.completed other (List.mem_of_mem_tail present)
  | leaveCallback =>
    simp only [step, Option.ite_none_right_eq_some, Option.some.injEq] at stepped
    obtain ⟨_, rfl⟩ := stepped
    exact ⟨sound.steady.hide, sound.completed⟩
  | runSyncQuery connectionHandle sql performance useCache =>
    cases stepped
    exact ⟨sound.steady.syncQuery (fun _ kept => performed_buffered kept) useCache, sound.completed⟩
  | retain =>
    cases stepped
    exact ⟨sound.steady.saveActiveCache, sound.completed⟩
  | activate cacheId =>
    cases stepped
    exact ⟨sound.steady.activateSavedCache cacheId, sound.completed⟩
  | release cacheId =>
    cases stepped
    exact ⟨sound.steady.deleteSavedCache cacheId, sound.completed⟩
  | deactivate =>
    cases stepped
    exact ⟨sound.steady.hide, sound.completed⟩
  | selectSet resultIndex =>
    cases stepped
    exact ⟨sound.steady.setActiveResultIndex resultIndex, sound.completed⟩
  | reset =>
    cases stepped
    exact ⟨steady_reset _, sound.completed⟩

theorem sound_start : Sound {} where
  steady := by
    refine ⟨?_, nofun⟩
    intro result held
    rcases held with active | ⟨_, saved⟩
    · cases active
    · cases saved
  completed _ present := by cases present

theorem reads_in_bounds {events : List Event} {state : State} (run : Run (Steps step) {} events state) :
    InBounds state.cache :=
  have sound : Sound state := run.invariant sound_start (fun _ _ _ held stepped => sound_step held stepped)
  sound.steady.inBounds

section Scripted

private def answers : QueryReplies :=
  let row : StoredRow := { text := fun c => if c = 0 then some "7" else none, lengths := some fun _ => 1 }
  .more { stored := some ⟨[(some "id", 3), (none, 253)], [row]⟩ } (.last { affectedRows := 2 } (-1))

private def listing : QueryJob := { connectionHandle := 1, sql := "SELECT id, NULL; DELETE FROM t", callback := "OnRows" }

private def rows : Performance := .plain true (some answers) 12 0 ""

private def gamemode : Pawn where
  mainScript := some { script := 0, publics := ["OnRows"] }
  distinct := by simp

/-- A callback selects its second set, retains the result, and a sync query replaces it. -/
private def scripted : List Event :=
  [.load (some gamemode) none, .perform listing rows, .dispatch (listing.complete (rows.outcome listing)),
    .selectSet 1, .selectSet 2, .retain, .runSyncQuery 1 "SELECT 1" (.plain true none 5 1064 "syntax") true, .leaveCallback, .activate 1,
    .release 1, .selectSet (-1)]

theorem reads_in_bounds_scripted : ∃ state, exec step {} scripted = some state ∧ InBounds state.cache := by
  have executes : (exec step {} scripted).isSome := by decide
  obtain ⟨state, done⟩ := Option.isSome_iff_exists.mp executes
  exact ⟨state, done, reads_in_bounds (Run.of_exec done)⟩

end Scripted
end ResultCache
end OmpMySQL
