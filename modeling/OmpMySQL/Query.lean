import OmpMySQL.Result

/-! The units of asynchronous work. A job is built on the main thread, filled in
by a worker and read again on the main thread. -/

namespace OmpMySQL

/-- An AMX cell. Values are kept as signed 32-bit integers; `toCell` is the
narrowing cast the source writes as `static_cast<cell>`. -/
abbrev Cell := Int

def toCell (value : Int) : Cell := Int.bmod value 0x100000000

/-- A pre-marshalled callback argument. A float travels as the bits of its cell. -/
inductive CallbackArg where
  | int (value : Cell)
  | float (bits : Cell)
  | string (value : String)
  deriving DecidableEq, Repr

/-- `mysql_execute_for` binds its job to the first integer argument. -/
def boundPlayerOf : List CallbackArg → Int
  | [] => -1
  | .int value :: _ => value
  | _ :: rest => boundPlayerOf rest

abbrev StatementId := Nat

structure QueryJob where
  connectionHandle : Int := 0
  sql : String := ""
  statement : Option StatementId := none
  statementToClose : Option StatementId := none
  callback : String := ""
  args : List CallbackArg := []
  boundPlayer : Int := -1
  useCache : Bool := true
  modelHandle : Int := 0
  modelOp : Int := 0
  /-- The promise a blocked caller waits on, named by the job's own serial. -/
  syncSignal : Option Nat := none
  succeeded : Bool := false
  errorCode : Nat := 0
  error : String := ""
  result : Option QueryResult := none
  deriving DecidableEq, Repr

structure Outcome where
  succeeded : Bool
  errorCode : Nat
  error : String
  result : QueryResult
  deriving DecidableEq, Repr

namespace QueryJob

/-- The worker's part of the job: the error text is blanked on success and the
result is only moved in when the query succeeded. -/
def complete (job : QueryJob) (outcome : Outcome) : QueryJob :=
  { job with
    succeeded := outcome.succeeded
    errorCode := outcome.errorCode
    error := if outcome.succeeded then "" else outcome.error
    result := if outcome.succeeded then some outcome.result else none }

variable (job : QueryJob) (outcome : Outcome)

@[simp] theorem complete_connectionHandle : (job.complete outcome).connectionHandle = job.connectionHandle := rfl
@[simp] theorem complete_sql : (job.complete outcome).sql = job.sql := rfl
@[simp] theorem complete_callback : (job.complete outcome).callback = job.callback := rfl
@[simp] theorem complete_args : (job.complete outcome).args = job.args := rfl
@[simp] theorem complete_boundPlayer : (job.complete outcome).boundPlayer = job.boundPlayer := rfl
@[simp] theorem complete_modelHandle : (job.complete outcome).modelHandle = job.modelHandle := rfl
@[simp] theorem complete_modelOp : (job.complete outcome).modelOp = job.modelOp := rfl
@[simp] theorem complete_succeeded : (job.complete outcome).succeeded = outcome.succeeded := rfl

theorem complete_result : (job.complete outcome).result.isSome = (job.complete outcome).succeeded := by
  cases succeeded : outcome.succeeded <;> simp [complete, succeeded]

end QueryJob

/-- The job of `mysql_execute_for`. -/
def executeForJob (connectionHandle : Int) (sql callback : String) (args : List CallbackArg) : QueryJob :=
  { connectionHandle, sql, callback, args, boundPlayer := boundPlayerOf args }

inductive HashOp where
  | hash
  | verify
  deriving DecidableEq, Repr

structure HashJob where
  op : HashOp := .hash
  password : String := ""
  hash : String := ""
  callback : String := ""
  args : List CallbackArg := []
  result : String := ""
  verified : Bool := false
  deriving DecidableEq, Repr

end OmpMySQL
