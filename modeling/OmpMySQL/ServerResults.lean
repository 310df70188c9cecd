import OmpMySQL.Connection

/-! What the server has to say about a query, and how the client library passes it
on. The code that copies results sees only the library's answers. -/

namespace OmpMySQL

/-- Every row of a result set has a value or a NULL for each field. -/
structure ServerSet where
  fields : List ResultField
  rows : List (List (Option String))
  width : ∀ row ∈ rows, row.length = fields.length
  deriving DecidableEq, Repr

/-- What is to be shown for a value of the server. -/
def shownValue : Option String → ResultValue
  | none => { isNull := true }
  | some value => { value }

def ServerSet.shownRows (set : ServerSet) : List (List ResultValue) := set.rows.map (List.map shownValue)

/-- The outcome of retrieving what one statement produced. `mysql_store_result` has
the same answer for the first and the last. -/
inductive Retrieval where
  | noResultSet
  | complete (set : ServerSet)
  | failed
  deriving DecidableEq, Repr

structure StatementOutcome where
  affectedRows : Nat := 0
  insertId : Nat := 0
  warningCount : Nat := 0
  retrieval : Retrieval
  deriving DecidableEq, Repr

/-- The outcomes of the statements of a text, in order. After the last one that was
executed nothing is pending any more, or the server refuses the next statement. -/
inductive TextOutcome where
  | last (outcome : StatementOutcome)
  | refused (outcome : StatementOutcome) (error : Nat)
  | more (outcome : StatementOutcome) (rest : TextOutcome)
  deriving Repr

namespace ServerSet

def storedRow (row : List (Option String)) : StoredRow where
  text c := row[c]?.join
  lengths := some fun c => (row[c]?.join).elim 0 String.length

def stored (set : ServerSet) : StoredResult where
  fields := set.fields.map fun field => (some field.name, field.type)
  rows := set.rows.map storedRow

end ServerSet

def Retrieval.stored : Retrieval → Option StoredResult
  | .complete set => some set.stored
  | .noResultSet | .failed => none

def StatementOutcome.reply (outcome : StatementOutcome) : SetReply where
  affectedRows := outcome.affectedRows
  insertId := outcome.insertId
  warningCount := outcome.warningCount
  stored := outcome.retrieval.stored

/-- `mysql_next_result` is -1 when nothing is pending and positive on an error. -/
def TextOutcome.replies : TextOutcome → QueryReplies
  | .last outcome => .last outcome.reply (-1)
  | .refused outcome error => .last outcome.reply (error + 1)
  | .more outcome rest => .more outcome.reply rest.replies

def TextOutcome.outcomes : TextOutcome → List StatementOutcome
  | .last outcome | .refused outcome _ => [outcome]
  | .more outcome rest => outcome :: rest.outcomes

def TextOutcome.isRefused : TextOutcome → Bool
  | .last _ => false
  | .refused .. => true
  | .more _ rest => rest.isRefused

/-- The set that shows all of an outcome. Nothing shows a failed retrieval. -/
def StatementOutcome.shown (outcome : StatementOutcome) : Option ResultSet :=
  let set : ResultSet :=
    { affectedRows := outcome.affectedRows, insertId := outcome.insertId, warningCount := outcome.warningCount }
  match outcome.retrieval with
  | .noResultSet => some set
  | .complete server => some { set with fields := server.fields, rows := server.shownRows }
  | .failed => none

/-- What `mysql_stmt_fetch` returns. -/
inductive FetchStatus where
  | success
  | truncated
  | noData
  | error
  deriving DecidableEq, Repr

/-- How the fetch of one row of the server ends. -/
inductive RowEnd where
  | success
  | truncated
  | error
  deriving DecidableEq, Repr

/-- A value of the server, and whether `mysql_stmt_fetch_column` would succeed on it. -/
structure FetchedCell where
  server : Option String
  refetched : Bool := true
  deriving DecidableEq, Repr

structure FetchedRow where
  cells : List FetchedCell
  ending : RowEnd
  deriving DecidableEq, Repr

/-- The result set of an executed statement with the outcomes of fetching it: what
each row's fetch would come to, and whether the fetch after them ends the data. -/
structure Fetching where
  fields : List ResultField
  rows : List FetchedRow
  endOfData : Bool
  width : ∀ row ∈ rows, row.cells.length = fields.length
  deriving Repr

/-- One call of `mysql_stmt_fetch`, with what the output buffers hold after it. -/
structure FetchCall where
  status : FetchStatus
  cells : List CellReply
  deriving DecidableEq, Repr

/-- The output buffer gets as much of the value as it has room for, and the length
variable the length of all of it. -/
def FetchedCell.reply (cell : FetchedCell) : CellReply :=
  match cell.server with
  | none => { isNull := true, length := 0, buffer := "", column := none }
  | some value =>
    { isNull := false
      length := value.length
      buffer := String.ofList (value.toList.take cellBuf)
      column := if cell.refetched then some value else none }

def RowEnd.status : RowEnd → FetchStatus
  | .success => .success
  | .truncated => .truncated
  | .error => .error

/-- The answers to the calls, were they all made. -/
def Fetching.calls (fetching : Fetching) : List FetchCall :=
  fetching.rows.map (fun row => ⟨row.ending.status, row.cells.map FetchedCell.reply⟩) ++
    [⟨if fetching.endOfData then .noData else .error, []⟩]

def FetchCall.goesOn (call : FetchCall) : Bool := call.status = .success || call.status = .truncated

/-- The condition of the fetch loop: the rows it gets to copy. -/
def fetched (calls : List FetchCall) : List (List CellReply) := (calls.takeWhile FetchCall.goesOn).map (·.cells)

/-- The status the fetch loop ends on. -/
def stopsOn (calls : List FetchCall) : Option FetchStatus :=
  (calls.dropWhile FetchCall.goesOn).head?.map (·.status)

/-- The answers to an execution whose result set is fetched so, if it has one. -/
def StatementReply.fetching (reply : StatementReply) (fetching : Option Fetching) : StatementReply :=
  { reply with
    metadata := fetching.map (·.fields)
    rows := fetching.elim [] (fetched ·.calls) }

def Fetching.set (fetching : Fetching) : ServerSet where
  fields := fetching.fields
  rows := fetching.rows.map fun row => row.cells.map (·.server)
  width := by
    intro row present
    obtain ⟨original, member, rfl⟩ := List.mem_map.mp present
    rw [List.length_map]
    exact fetching.width original member

end OmpMySQL
