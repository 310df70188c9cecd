import OmpMySQL.ServerResults

/-! A result that is reported as a success is the whole of what the server produced,
unless retrieving it failed where the code does not look. -/

namespace OmpMySQL

theorem shownValue_get (row : List (Option String)) :
    (List.range row.length).map (fun c => shownValue row[c]?.join) = row.map shownValue := by
  apply List.ext_getElem
  · simp
  · intro c inside there
    simp only [List.getElem_map, List.getElem_range]
    rw [List.getElem?_eq_getElem (by simpa using there), Option.join_some]

namespace ServerSet

theorem storedRow_value (row : List (Option String)) (c : Nat) :
    (storedRow row).value c = shownValue row[c]?.join := by
  simp only [StoredRow.value, storedRow]
  cases found : row[c]?.join with
  | none => rfl
  | some value => simp [found, shownValue, ← String.length_toList]

theorem cells_storedRow (row : List (Option String)) :
    (storedRow row).cells row.length = row.map shownValue := by
  rw [← shownValue_get, StoredRow.cells]
  exact List.map_congr_left fun c _ => storedRow_value row c

theorem buffered_rows (set : ServerSet) :
    set.stored.rows.map (StoredRow.cells set.stored.fields.length) = set.shownRows := by
  simp only [stored, shownRows, List.map_map, List.length_map]
  apply List.map_congr_left
  intro row present
  rw [Function.comp_apply, ← set.width row present]
  exact cells_storedRow row

theorem buffered_fields (set : ServerSet) :
    set.stored.fields.map (fun field => ({ name := field.1.getD "", type := field.2 } : ResultField)) = set.fields := by
  simp only [stored, List.map_map]
  exact List.map_id _

end ServerSet

/-! Plain queries. -/

/-- What the buffering makes of an outcome: a failed retrieval leaves an empty set. -/
theorem StatementOutcome.shown_eq (outcome : StatementOutcome) :
    outcome.shown = if outcome.retrieval = .failed then none else some outcome.reply.buffer := by
  cases same : outcome.retrieval with
  | noResultSet => simp [shown, reply, SetReply.buffer, Retrieval.stored, same]
  | failed => simp [shown, same]
  | complete set =>
    have fields := set.buffered_fields
    have rows := set.buffered_rows
    simp only [shown, reply, SetReply.buffer, Retrieval.stored, same, fields, rows, reduceCtorEq, if_false]

theorem TextOutcome.buffer_replies (text : TextOutcome) :
    text.replies.buffer.1 = text.outcomes.map fun outcome => outcome.reply.buffer := by
  induction text with
  | last | refused => rfl
  | more outcome rest ih => simp [replies, QueryReplies.buffer, outcomes, ih]

theorem TextOutcome.status_replies (text : TextOutcome) :
    text.replies.buffer.2 ≤ 0 ↔ text.isRefused = false := by
  induction text with
  | last => simp [replies, QueryReplies.buffer, isRefused]
  | refused =>
    simp only [replies, QueryReplies.buffer, isRefused, reduceCtorEq, iff_false]
    omega
  | more outcome rest ih => simpa [replies, QueryReplies.buffer, isRefused] using ih

/-- Every statement of a text was executed, and every set of its results is shown
whole and in order. -/
def ShowsAll (answer : Option TextOutcome) (result : QueryResult) : Prop :=
  ∃ text, answer = some text ∧ text.isRefused = false ∧
    text.outcomes.map StatementOutcome.shown = result.sets.map some

def RetrievesAll (text : TextOutcome) : Prop := ∀ outcome ∈ text.outcomes, outcome.retrieval ≠ .failed

theorem shows_all_iff (text : TextOutcome) :
    text.outcomes.map StatementOutcome.shown = text.replies.buffer.1.map some ↔ RetrievesAll text := by
  rw [TextOutcome.buffer_replies, List.map_map, List.map_inj_left]
  constructor
  · intro shown outcome present failed
    have missing := shown outcome present
    rw [StatementOutcome.shown_eq, if_pos failed] at missing
    cases missing
  · intro retrieved outcome present
    rw [StatementOutcome.shown_eq, if_neg (retrieved outcome present), Function.comp_apply]

theorem queryBuffered_succeeds (isOpen : Bool) (sql : String) (answer : Option TextOutcome) :
    (queryBuffered isOpen sql (answer.map TextOutcome.replies)).2 = true ↔
      isOpen = true ∧ ∃ text, answer = some text ∧ text.isRefused = false := by
  cases isOpen with
  | false => simp [queryBuffered]
  | true =>
    cases answer with
    | none => simp [queryBuffered]
    | some text => simp [queryBuffered, text.status_replies]

/-- A plain query reports success only with all results exactly when no retrieval
fails in a text that is executed to its end. -/
theorem plain_success_whole_iff (isOpen : Bool) (sql : String) (answer : Option TextOutcome) :
    ((queryBuffered isOpen sql (answer.map TextOutcome.replies)).2 = true →
        ShowsAll answer (queryBuffered isOpen sql (answer.map TextOutcome.replies)).1) ↔
      (isOpen = true → ∀ text, answer = some text → text.isRefused = false → RetrievesAll text) := by
  rw [queryBuffered_succeeds]
  constructor
  · rintro whole rfl text rfl accepted
    obtain ⟨_, same, _, shown⟩ := whole ⟨rfl, text, rfl, accepted⟩
    cases same
    exact (shows_all_iff text).mp shown
  · rintro retrieved ⟨rfl, text, rfl, accepted⟩
    exact ⟨text, rfl, accepted, (shows_all_iff text).mpr (retrieved rfl text rfl accepted)⟩

/-- The connection drops while the rows of a query are being read: it succeeds
without any. -/
theorem plain_success_drops_rows : ¬ ∀ (isOpen : Bool) (sql : String) (answer : Option TextOutcome),
    (queryBuffered isOpen sql (answer.map TextOutcome.replies)).2 = true →
      ShowsAll answer (queryBuffered isOpen sql (answer.map TextOutcome.replies)).1 := by
  intro whole
  obtain ⟨_, same, _, shown⟩ := whole true "SELECT * FROM accounts" (some (.last { retrieval := .failed })) rfl
  cases same
  exact absurd shown (by decide)

/-! Prepared statements. -/

/-- A value that fits the output buffer, or can be asked for again. -/
def FetchedCell.Whole (cell : FetchedCell) : Prop :=
  ∀ value, cell.server = some value → value.length ≤ cellBuf ∨ cell.refetched = true

theorem FetchedCell.value_reply (cell : FetchedCell) : cell.reply.value = shownValue cell.server ↔ cell.Whole := by
  cases null : cell.server with
  | none => simp [Whole, reply, null, CellReply.value, shownValue]
  | some value =>
    simp only [Whole, reply, null, CellReply.value, shownValue, Option.some.injEq, forall_eq']
    by_cases fits : value.length ≤ cellBuf
    · have all : value.toList.length ≤ cellBuf := by
        rw [String.length_toList]
        exact fits
      have cut : (value.toList.take cellBuf).take value.length = value.toList := by
        rw [List.take_of_length_le all, ← String.length_toList, List.take_length]
      simp [fits, cut]
    · cases cell.refetched with
      | true => simp [fits]
      | false =>
        simp only [fits, Bool.false_eq_true, or_self, iff_false]
        intro same
        have empty : value = "" := by simpa using same.symm
        exact fits (by simp [empty])

theorem fetchRow_reply (cells : List FetchedCell) :
    fetchRow cells.length (cells.map FetchedCell.reply) = cells.map fun cell => cell.reply.value := by
  apply List.ext_getElem
  · simp [fetchRow]
  · intro c inside there
    have present : c < cells.length := by simpa using there
    simp [fetchRow, present]

namespace Fetching

def FetchesAll (fetching : Fetching) : Prop :=
  (∀ row ∈ fetching.rows, row.ending ≠ .error) ∧ fetching.endOfData = true

theorem goesOn_row (row : FetchedRow) (cells : List CellReply) :
    FetchCall.goesOn ⟨row.ending.status, cells⟩ = decide (row.ending ≠ .error) := by
  cases same : row.ending <;> simp [FetchCall.goesOn, RowEnd.status]

theorem stops_calls (rows : List FetchedRow) (endOfData : Bool) :
    stopsOn (rows.map (fun row => ⟨row.ending.status, row.cells.map FetchedCell.reply⟩) ++
        [⟨if endOfData then .noData else .error, []⟩]) = some .noData ↔
      (∀ row ∈ rows, row.ending ≠ .error) ∧ endOfData = true := by
  induction rows with
  | nil => cases endOfData <;> simp [stopsOn, FetchCall.goesOn]
  | cons row rest ih =>
    simp only [List.map_cons, List.cons_append, stopsOn, List.forall_mem_cons]
    by_cases failed : row.ending = .error
    · simp [failed, RowEnd.status, FetchCall.goesOn]
    · rw [List.dropWhile_cons_of_pos (by simpa [goesOn_row] using failed)]
      simpa only [stopsOn, failed, ne_eq, not_false_eq_true, true_and] using ih

theorem stopsOn_calls (fetching : Fetching) : stopsOn fetching.calls = some .noData ↔ fetching.FetchesAll :=
  stops_calls fetching.rows fetching.endOfData

theorem fetched_calls {fetching : Fetching} (all : fetching.FetchesAll) :
    fetched fetching.calls = fetching.rows.map fun row => row.cells.map FetchedCell.reply := by
  have going : ∀ call ∈ fetching.rows.map (fun row => (⟨row.ending.status, row.cells.map FetchedCell.reply⟩ : FetchCall)),
      call.goesOn = true := by
    intro call present
    obtain ⟨row, member, rfl⟩ := List.mem_map.mp present
    simpa [goesOn_row] using all.1 row member
  rw [fetched, calls, List.takeWhile_append_of_pos going, all.2]
  simp [FetchCall.goesOn]

theorem fetched_rows {fetching : Fetching} (all : fetching.FetchesAll) :
    (fetched fetching.calls).map (fetchRow fetching.fields.length) =
      fetching.rows.map fun row => row.cells.map fun cell => cell.reply.value := by
  rw [fetched_calls all, List.map_map]
  apply List.map_congr_left
  intro row present
  rw [Function.comp_apply, ← fetching.width row present]
  exact fetchRow_reply row.cells

/-- No fetch fails, and no value that has to be asked for again is refused. -/
structure Delivers (fetching : Fetching) : Prop where
  fetches : fetching.FetchesAll
  whole : ∀ row ∈ fetching.rows, ∀ cell ∈ row.cells, cell.Whole

theorem delivers_iff (fetching : Fetching) :
    stopsOn fetching.calls = some .noData ∧
        (fetched fetching.calls).map (fetchRow fetching.fields.length) = fetching.set.shownRows ↔
      fetching.Delivers := by
  rw [stopsOn_calls]
  have values (all : fetching.FetchesAll) :
      (fetched fetching.calls).map (fetchRow fetching.fields.length) = fetching.set.shownRows ↔
        ∀ row ∈ fetching.rows, ∀ cell ∈ row.cells, cell.Whole := by
    rw [fetched_rows all, ServerSet.shownRows, Fetching.set, List.map_map, List.map_inj_left]
    apply forall₂_congr
    intro row present
    rw [Function.comp_apply, List.map_map, List.map_inj_left]
    exact forall₂_congr fun cell member => cell.value_reply
  constructor
  · exact fun ⟨all, rows⟩ => ⟨all, (values all).mp rows⟩
  · exact fun ⟨all, whole⟩ => ⟨all, (values all).mpr whole⟩

end Fetching

namespace PreparedStatement

/-- The execution gets as far as asking for results. -/
structure Executes (statement : PreparedStatement) (serverParams : Nat) (reply : StatementReply) : Prop where
  valid : statement.valid = true
  prepared : statement.prepared = true ∨ reply.raw = true ∧ reply.init = true ∧ reply.prepare = true
  bound : (if statement.prepared then statement.paramCount else serverParams) = 0 ∨ reply.bindParam = true
  executed : reply.execute = true

theorem prepare_succeeds (statement : PreparedStatement) (serverParams : Nat) (reply : StatementReply) :
    (statement.prepare serverParams reply).2 = true ↔
      statement.prepared = true ∨ reply.raw = true ∧ reply.init = true ∧ reply.prepare = true := by
  rw [prepare]
  by_cases prepared : statement.prepared = true
  · simp [prepared]
  · cases raw : reply.raw <;> cases init : reply.init <;> cases done : reply.prepare <;> simp [prepared]

theorem paramCount_prepare {statement : PreparedStatement} {serverParams : Nat} {reply : StatementReply}
    (succeeds : (statement.prepare serverParams reply).2 = true) :
    (statement.prepare serverParams reply).1.paramCount =
      if statement.prepared then statement.paramCount else serverParams := by
  have done := (prepare_succeeds ..).mp succeeds
  rw [prepare]
  by_cases prepared : statement.prepared = true
  · simp [prepared]
  · obtain ⟨raw, init, done⟩ := done.resolve_left prepared
    have unprepared : statement.prepared = false := by simpa using prepared
    simp only [unprepared, raw, init, done, Bool.false_eq_true, Bool.true_eq_false, if_false]
    by_cases same : serverParams = statement.paramCount
    · rw [if_pos same, same]
    · rw [if_neg same]

theorem executes_iff (statement : PreparedStatement) (serverParams : Nat) (reply : StatementReply) :
    statement.Executes serverParams reply ↔
      statement.valid = true ∧ (statement.prepare serverParams reply).2 = true ∧
        ((statement.prepare serverParams reply).1.paramCount = 0 ∨ reply.bindParam = true) ∧ reply.execute = true := by
  constructor
  · intro ⟨valid, prepared, bound, executed⟩
    have succeeds := (prepare_succeeds statement serverParams reply).mpr prepared
    rw [← paramCount_prepare succeeds] at bound
    exact ⟨valid, succeeds, bound, executed⟩
  · intro ⟨valid, succeeds, bound, executed⟩
    rw [paramCount_prepare succeeds] at bound
    exact ⟨valid, (prepare_succeeds ..).mp succeeds, bound, executed⟩

/-- Every step before the results are asked for has to succeed. -/
theorem sets_reached (statement : PreparedStatement) (serverParams : Nat) (reply : StatementReply) :
    (statement.execute serverParams reply).sets =
      if statement.valid = true ∧ (statement.prepare serverParams reply).2 = true ∧
          ((statement.prepare serverParams reply).1.paramCount = 0 ∨ reply.bindParam = true) ∧ reply.execute = true
      then (resultSet reply).map ([·]) else none := by
  rw [execute]
  cases statement.valid with
  | false => simp
  | true =>
    cases statement.prepare serverParams reply with
    | mk after succeeds =>
      cases succeeds with
      | false => simp
      | true =>
        by_cases unbound : after.paramCount = 0 <;> cases reply.bindParam <;> cases reply.execute <;> simp [unbound]

theorem sets_execute (statement : PreparedStatement) (serverParams : Nat) (reply : StatementReply)
    (sets : List ResultSet) : (statement.execute serverParams reply).sets = some sets ↔
      statement.Executes serverParams reply ∧ ∃ set, resultSet reply = some set ∧ sets = [set] := by
  rw [sets_reached, Option.ite_none_right_eq_some, ← executes_iff, Option.map_eq_some_iff]
  simp only [eq_comm (a := sets)]

/-- Fetching came to the end of the data, and one set shows all of it. -/
def ShowsResult (fetching : Option Fetching) (sets : List ResultSet) : Prop :=
  match fetching with
  | none => ∃ set, sets = [set] ∧ set.fields = [] ∧ set.rows = []
  | some fetching =>
    stopsOn fetching.calls = some .noData ∧
      ∃ set, sets = [set] ∧ set.fields = fetching.set.fields ∧ set.rows = fetching.set.shownRows

/-- The output buffers are bound and the result is stored. -/
def Buffers (reply : StatementReply) : Prop := reply.bindResult = true ∧ reply.storeResult = true

theorem resultSet_some {reply : StatementReply} {fields : List ResultField} (result : reply.metadata = some fields)
    (set : ResultSet) : resultSet reply = some set ↔ Buffers reply ∧
      { fields, rows := reply.rows.map (fetchRow fields.length),
        affectedRows := reply.affectedRows, insertId := reply.insertId } = set := by
  simp only [resultSet, result, Option.ite_none_right_eq_some, Buffers, Option.some.injEq]

/-- An execution reports success only with all of its data exactly when, wherever it
gets to fetching, no fetch fails and no overlong value is refused. -/
theorem execute_success_whole_iff (statement : PreparedStatement) (serverParams : Nat) (reply : StatementReply)
    (fetching : Option Fetching) :
    (∀ sets, (statement.execute serverParams (reply.fetching fetching)).sets = some sets → ShowsResult fetching sets) ↔
      (statement.Executes serverParams reply → Buffers reply →
        ∀ result, fetching = some result → result.Delivers) := by
  have executes : statement.Executes serverParams (reply.fetching fetching) ↔ statement.Executes serverParams reply :=
    ⟨fun ⟨valid, prepared, bound, executed⟩ => ⟨valid, prepared, bound, executed⟩,
      fun ⟨valid, prepared, bound, executed⟩ => ⟨valid, prepared, bound, executed⟩⟩
  simp only [sets_execute, executes]
  cases fetching with
  | none =>
    simp only [reduceCtorEq, false_implies, implies_true, iff_true]
    rintro sets ⟨_, set, produced, rfl⟩
    cases produced
    exact ⟨_, rfl, rfl, rfl⟩
  | some result =>
    simp only [Option.some.injEq, forall_eq']
    constructor
    · intro whole runs buffers
      have produced : resultSet (reply.fetching (some result)) = some _ := (resultSet_some rfl _).mpr ⟨buffers, rfl⟩
      obtain ⟨stops, _, same, _, rows⟩ := whole _ ⟨runs, _, produced, rfl⟩
      cases same
      exact result.delivers_iff.mp ⟨stops, rows⟩
    · rintro delivers sets ⟨runs, set, produced, rfl⟩
      obtain ⟨buffers, rfl⟩ := (resultSet_some rfl _).mp produced
      obtain ⟨stops, rows⟩ := result.delivers_iff.mpr (delivers runs buffers)
      exact ⟨stops, _, rfl, rfl, rows⟩

/-- Two rows; the connection drops before the second. -/
def droppedFetch : Fetching where
  fields := [{ name := "id" }]
  rows := [⟨[⟨some "1", true⟩], .success⟩, ⟨[⟨some "2", true⟩], .error⟩]
  endOfData := false
  width := by decide

theorem execute_success_drops_rows : ¬ ∀ (statement : PreparedStatement) (serverParams : Nat) (reply : StatementReply)
    (fetching : Option Fetching) (sets : List ResultSet),
    (statement.execute serverParams (reply.fetching fetching)).sets = some sets → ShowsResult fetching sets := by
  intro whole
  have shows := whole (make true "SELECT id FROM accounts") 0 {} (some droppedFetch) _ rfl
  exact absurd shows.1 (by decide)

end PreparedStatement

end OmpMySQL
