import OmpMySQL.ModelSql

/-! The natives that submit SQL, from the call to the moment the worker has the job
or the script has been told that it will not get it. -/

namespace OmpMySQL
open Library

/-- A prepared statement as its execution finds it. `conn` is the pointer it keeps
to its connection. -/
structure StatementRef where
  id : StatementId
  conn : Option Nat
  query : String
  deriving DecidableEq, Repr

def StatementRef.valid (stmt : StatementRef) : Bool := stmt.conn.isSome && stmt.query != ""

structure Server where
  component : Component := {}
  registry : Connections := {}
  statements : Table Int StatementRef := .empty

/-- What the natives learn from outside: script memory, the client library, the C
library, the workers' counts and the clock. -/
structure Outside where
  reader : ScriptReader
  escape : Nat → String → String
  strtof : String → Cell
  pending : Nat → Int
  now : Int

/-- What a native leaves: what it submitted and the answer, the worker that got the
job, and the publics it called. -/
structure Submission where
  server : Server
  sent : Option (QueryJob × GuardReject) := none
  worker : Option Nat := none
  calls : List Invocation := []

namespace Server

variable (outside : Outside) (server : Server) (amx : AMX)

/-- The end of the asynchronous natives: enqueue, or report with the given text. -/
def enqueueReporting (job : QueryJob) (reported : String) : Submission :=
  let sent := server.registry.enqueueJob job outside.pending outside.now
  let after := { server with registry := sent.registry }
  if sent.reason = .none then { server := after, sent := some (job, sent.reason), worker := sent.worker }
  else
    { server := after, sent := some (job, sent.reason)
      calls := server.component.reportGuardReject amx job.connectionHandle reported job.callback sent.reason }

def mysqlExecute (handle : Int) (query callback : String) (args : List CallbackArg) : Submission :=
  server.enqueueReporting outside amx { connectionHandle := handle, sql := query, callback, args } query

def mysqlExecuteFor (handle : Int) (query callback : String) (args : List CallbackArg) : Submission :=
  server.enqueueReporting outside amx (executeForJob handle query callback args) query

/-- `content` is what the path opens to. A byte order mark is dropped. -/
def readSqlFile (content : Option String) : Option String :=
  content.bind fun text =>
    let mark := [Char.ofNat 0xEF, Char.ofNat 0xBB, Char.ofNat 0xBF]
    let body := if text.toList.take 3 = mark then String.ofList (text.toList.drop 3) else text
    if body.toList.all (· ∈ [' ', '\t', '\r', '\n']) then none else some body

def mysqlExecuteFile (handle : Int) (content : Option String) (callback : String) (args : List CallbackArg) :
    Submission :=
  match readSqlFile content with
  | none => { server }
  | some sql => server.enqueueReporting outside amx { connectionHandle := handle, sql, callback, args } sql

/-- `RunSyncQuery` until the worker's `runSync`. -/
def runSyncQuery (handle : Int) (sql : String) (useCache : Bool) : Submission :=
  let job : QueryJob := { connectionHandle := handle, sql, useCache }
  let sent := server.registry.runJobSync job outside.pending outside.now
  let after := { server with registry := sent.registry }
  if sent.reason = .none then { server := after, sent := some (job, sent.reason), worker := sent.worker }
  else
    let reported := server.component.reportSyncReject outside.strtof handle sql sent.reason
    { server := { after with component := reported.component }, sent := some (job, sent.reason)
      calls := reported.calls }

def mysqlExecuteSync (handle : Int) (query : String) (useCache : Bool) : Submission :=
  server.runSyncQuery outside handle query useCache

def mysqlExecuteFileSync (handle : Int) (content : Option String) (useCache : Bool) : Submission :=
  match readSqlFile content with
  | none => { server }
  | some sql => server.runSyncQuery outside handle sql useCache

/-- The report carries no query text. -/
def mysqlStmtExecute (stmt : Int) (callback : String) (args : List CallbackArg) : Submission :=
  match server.statements stmt with
  | none => { server }
  | some found =>
    let handle := server.registry.connectionHandleOf found.conn
    if found.valid = false ∨ handle = 0 then { server }
    else
      server.enqueueReporting outside amx
        { connectionHandle := handle, sql := found.query, statement := some found.id, callback, args } ""

/-- `ModelExecute` asks for no reason and reports none. -/
def mysqlModel (model op : Int) (callback : String) (args : List CallbackArg) : Submission :=
  let (component, job) :=
    modelExecute outside.reader outside.escape server.component server.registry model op callback args
  match job with
  | none => { server := { server with component } }
  | some job =>
    let sent := server.registry.enqueueJob job outside.pending outside.now
    { server := { server with component, registry := sent.registry }, sent := some (job, sent.reason)
      worker := sent.worker }

def mysqlModelFind (model : Int) := mysqlModel outside server model Model.opFind
def mysqlModelInsert (model : Int) := mysqlModel outside server model Model.opInsert
def mysqlModelUpdate (model : Int) := mysqlModel outside server model Model.opUpdate
def mysqlModelDelete (model : Int) := mysqlModel outside server model Model.opDelete

def mysqlModelSave (model : Int) (callback : String) (args : List CallbackArg) : Submission :=
  match server.component.models model with
  | none => { server }
  | some m =>
    mysqlModel outside server model (outside.reader.saveOp server.component.memory m) callback args

end Server

/-- A script's call of a native that submits SQL. -/
inductive SubmitNative where
  | execute (handle : Int) (query callback : String) (args : List CallbackArg)
  | executeFor (handle : Int) (query callback : String) (args : List CallbackArg)
  | executeFile (handle : Int) (content : Option String) (callback : String) (args : List CallbackArg)
  | executeSync (handle : Int) (query : String) (useCache : Bool)
  | executeFileSync (handle : Int) (content : Option String) (useCache : Bool)
  | stmtExecute (stmt : Int) (callback : String) (args : List CallbackArg)
  | modelFind (model : Int) (callback : String) (args : List CallbackArg)
  | modelInsert (model : Int) (callback : String) (args : List CallbackArg)
  | modelUpdate (model : Int) (callback : String) (args : List CallbackArg)
  | modelDelete (model : Int) (callback : String) (args : List CallbackArg)
  | modelSave (model : Int) (callback : String) (args : List CallbackArg)

def Server.call (outside : Outside) (server : Server) (amx : AMX) : SubmitNative → Submission
  | .execute handle query callback args => server.mysqlExecute outside amx handle query callback args
  | .executeFor handle query callback args => server.mysqlExecuteFor outside amx handle query callback args
  | .executeFile handle content callback args => server.mysqlExecuteFile outside amx handle content callback args
  | .executeSync handle query useCache => server.mysqlExecuteSync outside handle query useCache
  | .executeFileSync handle content useCache => server.mysqlExecuteFileSync outside handle content useCache
  | .stmtExecute stmt callback args => server.mysqlStmtExecute outside amx stmt callback args
  | .modelFind model callback args => server.mysqlModelFind outside model callback args
  | .modelInsert model callback args => server.mysqlModelInsert outside model callback args
  | .modelUpdate model callback args => server.mysqlModelUpdate outside model callback args
  | .modelDelete model callback args => server.mysqlModelDelete outside model callback args
  | .modelSave model callback args => server.mysqlModelSave outside model callback args

end OmpMySQL
