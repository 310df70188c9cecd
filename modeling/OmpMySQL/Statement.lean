import OmpMySQL.Query

/-! Prepared statements. Parameters are staged on the main thread; the worker
prepares the statement on its first execution and sends what is staged then. -/

namespace OmpMySQL

/-- A staged value. The source keeps the values of other kinds next to it and
never reads them. -/
inductive StmtParam where
  | null
  | int (value : Cell)
  | float (bits : Cell)
  | string (value : String)
  deriving DecidableEq, Repr

structure PlaceholderScan where
  quote : Option Char := none
  lineComment : Bool := false
  blockComment : Bool := false
  deriving DecidableEq, Repr

/-- `CountPlaceholders` from the middle of its text. `skip` is a pending `++i`. -/
def countFrom (scan : PlaceholderScan) (skip : Bool) : List Char → Nat
  | [] => 0
  | c :: rest =>
    let n := rest.head?.getD (Char.ofNat 0)
    if skip then countFrom scan false rest
    else if scan.lineComment then countFrom { scan with lineComment := c != '\n' } false rest
    else if scan.blockComment then
      if c = '*' ∧ n = '/' then countFrom { scan with blockComment := false } true rest
      else countFrom scan false rest
    else match scan.quote with
      | some quote =>
        if c = '\\' ∧ quote ≠ '`' then countFrom scan true rest
        else if c = quote then countFrom { scan with quote := none } false rest
        else countFrom scan false rest
      | none =>
        if c = '-' ∧ n = '-' then countFrom { scan with lineComment := true } true rest
        else if c = '#' then countFrom { scan with lineComment := true } false rest
        else if c = '/' ∧ n = '*' then countFrom { scan with blockComment := true } true rest
        else if c = '\'' ∨ c = '"' ∨ c = '`' then countFrom { scan with quote := some c } false rest
        else if c = '?' then countFrom scan false rest + 1
        else countFrom scan false rest

def countPlaceholders (sql : String) : Nat := countFrom {} false sql.toList

/-- `stmt` is the server-side statement, known by its number of placeholders. -/
structure PreparedStatement where
  hasConnection : Bool
  query : String
  stmt : Option Nat := none
  prepared : Bool := false
  paramCount : Nat := 0
  params : List StmtParam := []
  deriving DecidableEq, Repr

/-- One cell of a fetched row. `column` is what asking for the whole value yields. -/
structure CellReply where
  isNull : Bool
  length : Nat
  buffer : String
  column : Option String
  deriving DecidableEq, Repr

/-- What the client library answers to the calls of one execution. -/
structure StatementReply where
  raw : Bool := true
  init : Bool := true
  prepare : Bool := true
  bindParam : Bool := true
  execute : Bool := true
  affectedRows : Nat := 0
  insertId : Nat := 0
  metadata : Option (List ResultField) := none
  bindResult : Bool := true
  storeResult : Bool := true
  rows : List (List CellReply) := []
  errno : Nat := 0
  error : String := ""
  execTimeMicros : Int := 0
  deriving DecidableEq, Repr

def cellBuf : Nat := 1024

def CellReply.value (cell : CellReply) : ResultValue :=
  if cell.isNull then { isNull := true }
  else if cell.length ≤ cellBuf then { value := String.ofList (cell.buffer.toList.take cell.length) }
  else { value := cell.column.getD "" }

/-- What the output buffers hold until a row is fetched into them. -/
def CellReply.cleared : CellReply := { isNull := false, length := 0, buffer := "", column := none }

/-- One turn of the fetch loop: a cell for each column that is bound. -/
def fetchRow (nfields : Nat) (row : List CellReply) : List ResultValue :=
  (List.range nfields).map fun c => (row[c]?.getD .cleared).value

namespace PreparedStatement

def make (hasConnection : Bool) (query : String) : PreparedStatement :=
  if hasConnection = false ∨ query = "" then { hasConnection, query }
  else
    { hasConnection, query, paramCount := countPlaceholders query,
      params := List.replicate (countPlaceholders query) .null }

def valid (statement : PreparedStatement) : Bool := statement.hasConnection && statement.query != ""

/-- `params_.resize(size)`: cut off, or filled up with NULLs. -/
def resize (params : List StmtParam) (size : Nat) : List StmtParam :=
  params.take size ++ List.replicate (size - params.length) .null

def ensureParam (statement : PreparedStatement) (index : Nat) : PreparedStatement :=
  if statement.params.length ≤ index then
    { statement with
      params := resize statement.params (index + 1)
      paramCount := max statement.paramCount (index + 1) }
  else statement

/-- The body shared by `bindInt`, `bindFloat`, `bindString` and `bindNull`. -/
def bind (statement : PreparedStatement) (index : Int) (value : StmtParam) : PreparedStatement :=
  if index < 0 then statement
  else
    let grown := statement.ensureParam index.toNat
    { grown with params := grown.params.set index.toNat value }

def bindInt (statement : PreparedStatement) (index value : Int) := statement.bind index (.int value)
def bindFloat (statement : PreparedStatement) (index : Int) (bits : Cell) := statement.bind index (.float bits)
def bindString (statement : PreparedStatement) (index : Int) (value : String) := statement.bind index (.string value)
def bindNull (statement : PreparedStatement) (index : Int) := statement.bind index .null

/-- The lazy prepare. It leaves the statement it could not prepare in place, and
reconciles the staged parameters with the number the server reports. -/
def prepare (statement : PreparedStatement) (serverParams : Nat) (reply : StatementReply) :
    PreparedStatement × Bool :=
  if statement.prepared then (statement, true)
  else if reply.raw = false then (statement, false)
  else if reply.init = false then ({ statement with stmt := none }, false)
  else if reply.prepare = false then ({ statement with stmt := some serverParams }, false)
  else
    let reconciled :=
      if serverParams = statement.paramCount then statement
      else { statement with paramCount := serverParams, params := resize statement.params serverParams }
    ({ reconciled with stmt := some serverParams, prepared := true }, true)

def resultSet (reply : StatementReply) : Option ResultSet :=
  let set : ResultSet := { affectedRows := reply.affectedRows, insertId := reply.insertId }
  match reply.metadata with
  | none => some set
  | some fields =>
    if reply.bindResult ∧ reply.storeResult then
      some { set with fields := fields, rows := reply.rows.map (fetchRow fields.length) }
    else none

structure Execution where
  statement : PreparedStatement
  sent : Option (List StmtParam) := none
  sets : Option (List ResultSet) := none
  deriving DecidableEq, Repr

/-- `serverParams` is the number of placeholders the server finds in the query. -/
def execute (statement : PreparedStatement) (serverParams : Nat) (reply : StatementReply) : Execution :=
  if statement.valid = false then { statement }
  else match statement.prepare serverParams reply with
    | (statement, false) => { statement }
    | (statement, true) =>
      let binds := statement.params.take statement.paramCount
      if statement.paramCount ≠ 0 ∧ reply.bindParam = false then { statement }
      else
        -- The client library reads as many binds as the server has placeholders.
        let sent := some (binds.take (statement.stmt.getD 0))
        if reply.execute = false then { statement, sent }
        else { statement, sent, sets := (resultSet reply).map ([·]) }

def lastErrno (statement : PreparedStatement) (reply : StatementReply) : Nat :=
  if statement.stmt.isSome then reply.errno else 0

def lastError (statement : PreparedStatement) (reply : StatementReply) : String :=
  if statement.stmt.isNone then "invalid statement" else reply.error

def outcome (job : QueryJob) (run : Execution) (reply : StatementReply) : Outcome where
  succeeded := run.sets.isSome
  errorCode := run.statement.lastErrno reply
  error := run.statement.lastError reply
  result := { sets := run.sets.getD [], execTimeMicros := reply.execTimeMicros, queryString := job.sql }

end PreparedStatement
end OmpMySQL
