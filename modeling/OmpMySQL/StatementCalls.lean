import OmpMySQL.StatementRuns

/-! One prepared statement from its construction to its destruction. Each bind and
each execution runs to its end before the next call. -/

namespace OmpMySQL

namespace PreparedStatement

/-- The array handed to `mysql_stmt_bind_param` by an execution that gets there. An
entry is `none` where `params_` is read past its end. -/
def bindArray (statement : PreparedStatement) (serverParams : Nat) (reply : StatementReply) :
    Option (List (Option StmtParam)) :=
  if statement.valid = false then none
  else match statement.prepare serverParams reply with
    | (_, false) => none
    | (statement, true) =>
      if statement.paramCount = 0 then none
      else some ((List.range statement.paramCount).map fun i => statement.params[i]?)

/-- An execution gets as far as `mysql_stmt_init`. -/
def initializes (statement : PreparedStatement) (reply : StatementReply) : Bool :=
  statement.valid && !statement.prepared && reply.raw

end PreparedStatement

namespace StatementCalls

inductive Call where
  | bindInt (index value : Int)
  | bindFloat (index : Int) (bits : Cell)
  | bindString (index : Int) (value : String)
  | bindNull (index : Int)
  | execute (reply : StatementReply)

/-- What a call binds, and where. -/
def Call.binding : Call → Option (Int × StmtParam)
  | .bindInt index value => some (index, .int value)
  | .bindFloat index bits => some (index, .float bits)
  | .bindString index value => some (index, .string value)
  | .bindNull index => some (index, .null)
  | .execute _ => none

/-- The call binds one of the server's placeholders, or is no bind. -/
def Call.matters (serverParams : Nat) (call : Call) : Bool :=
  call.binding.all fun place => decide (0 ≤ place.1 ∧ place.1 < (serverParams : Int))

/-- The value of the most recent bind at each index. -/
def lastBound (calls : List Call) : Nat → StmtParam :=
  calls.foldl (fun bound call => call.binding.elim bound fun place => StatementRuns.bindTo bound place.1 place.2)
    fun _ => .null

/-- Handles are numbered in the order `mysql_stmt_init` returned them: `made` of them
so far. `handle` is the one `stmt_` points to. -/
structure Owner where
  statement : PreparedStatement
  handle : Option Nat := none
  made : Nat := 0
  closed : List Nat := []

namespace Owner

def execute (owner : Owner) (serverParams : Nat) (reply : StatementReply) : Owner :=
  let after := { owner with statement := (owner.statement.execute serverParams reply).statement }
  if owner.statement.initializes reply then
    if reply.init then { after with handle := some owner.made, made := owner.made + 1 }
    else { after with handle := none }
  else after

def perform (serverParams : Nat) (owner : Owner) : Call → Owner
  | .bindInt index value => { owner with statement := owner.statement.bindInt index value }
  | .bindFloat index bits => { owner with statement := owner.statement.bindFloat index bits }
  | .bindString index value => { owner with statement := owner.statement.bindString index value }
  | .bindNull index => { owner with statement := owner.statement.bindNull index }
  | .execute reply => owner.execute serverParams reply

/-- `~PreparedStatement`. -/
def destroy (owner : Owner) : Owner :=
  match owner.handle with
  | none => owner
  | some handle =>
    { owner with statement := { owner.statement with stmt := none }, handle := none, closed := owner.closed ++ [handle] }

def stillOpen (owner : Owner) : List Nat := (List.range owner.made).filter (· ∉ owner.closed)

end Owner

/-- The statement after its constructor and some calls. -/
def after (hasConnection : Bool) (query : String) (serverParams : Nat) (calls : List Call) : Owner :=
  calls.foldl (Owner.perform serverParams) { statement := PreparedStatement.make hasConnection query }

end StatementCalls
end OmpMySQL
