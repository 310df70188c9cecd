import OmpMySQL.Statement

/-! How the rows of a query text come into memory. Every set the server answers
with is copied whole before the connection goes on to the next. -/

namespace OmpMySQL

/-- A `MYSQL_ROW` and its lengths, by column. -/
structure StoredRow where
  text : Nat → Option String
  lengths : Option (Nat → Nat)

/-- A `MYSQL_RES`. A field may come without a name. -/
structure StoredResult where
  fields : List (Option String × Int)
  rows : List StoredRow

/-- What the client library answers about one statement of the text. -/
structure SetReply where
  affectedRows : Nat := 0
  insertId : Nat := 0
  warningCount : Nat := 0
  stored : Option StoredResult := none

/-- The answers to a whole text, in order. `mysql_next_result` is zero where another
set follows; the last status says how the text ended. -/
inductive QueryReplies where
  | last (set : SetReply) (status : Int)
  | more (set : SetReply) (rest : QueryReplies)

def StoredRow.value (row : StoredRow) (c : Nat) : ResultValue :=
  match row.text c with
  | none => { isNull := true }
  | some text => { value := String.ofList (text.toList.take (row.lengths.elim 0 (· c))) }

def StoredRow.cells (nfields : Nat) (row : StoredRow) : List ResultValue := (List.range nfields).map row.value

def SetReply.buffer (reply : SetReply) : ResultSet :=
  let set : ResultSet :=
    { affectedRows := reply.affectedRows, insertId := reply.insertId, warningCount := reply.warningCount }
  match reply.stored with
  | none => set
  | some res =>
    { set with
      fields := res.fields.map fun field => { name := field.1.getD "", type := field.2 }
      rows := res.rows.map (StoredRow.cells res.fields.length) }

/-- The buffering loop, and the status it ends with. -/
def QueryReplies.buffer : QueryReplies → List ResultSet × Int
  | .last set status => ([set.buffer], status)
  | .more set rest => (set.buffer :: rest.buffer.1, rest.buffer.2)

/-- No answer stands for a failed `mysql_real_query`. -/
def queryBuffered (isOpen : Bool) (sql : String) (answer : Option QueryReplies) : QueryResult × Bool :=
  let out : QueryResult := { queryString := sql }
  if isOpen = false then (out, false)
  else match answer with
    | none => (out, false)
    | some replies => ({ out with sets := replies.buffer.1 }, decide (replies.buffer.2 ≤ 0))

/-- What the worker does to perform a job, and what it is told meanwhile. -/
inductive Performance where
  | disconnected
  | prepared (statement : PreparedStatement) (serverParams : Nat) (reply : StatementReply)
  | plain (isOpen : Bool) (answer : Option QueryReplies) (execTimeMicros : Int) (errno : Nat) (error : String)

def Performance.outcome (job : QueryJob) : Performance → Outcome
  | .disconnected => { succeeded := false, errorCode := 0, error := "invalid connection", result := {} }
  | .prepared statement serverParams reply =>
    PreparedStatement.outcome job (statement.execute serverParams reply) reply
  | .plain isOpen answer execTimeMicros errno error =>
    let (result, succeeded) := queryBuffered isOpen job.sql answer
    { succeeded, errorCode := errno, error, result := { result with execTimeMicros } }

end OmpMySQL
