import OmpMySQL.Connections
import OmpMySQL.Dispatch

/-! A model operation up to the job it enqueues: the bound variables are rendered as
SQL literals when the native is called. -/

namespace OmpMySQL

/-- How a script's memory is read as text: `amx_StrLen` with `amx_GetString`, and
`std::to_string` of the float a cell holds. -/
structure ScriptReader where
  getString : (Nat → Cell) → Nat → String
  floatText : Cell → String

namespace ScriptReader

variable (reader : ScriptReader) (memory : Nat → Cell)

def modelFieldLiteral (escape : Option (String → String)) (f : ModelField) : String :=
  match f.addr with
  | none => "NULL"
  | some addr =>
    match f.type with
    | .int => toString (memory addr)
    | .float => reader.floatText (memory addr)
    | .string => "'" ++ escape.getD id (reader.getString memory addr) ++ "'"

/-- The text `ModelExecute` makes for an operation. -/
def modelSql (escape : Option (String → String)) (m : Model) (op : Int) : String :=
  let vals := m.fields.map (reader.modelFieldLiteral memory escape)
  let keyLit := match m.keyField with
    | some kf => reader.modelFieldLiteral memory escape kf
    | none => "NULL"
  if op = Model.opFind then m.buildFind keyLit
  else if op = Model.opInsert then m.buildInsert vals
  else if op = Model.opUpdate then m.buildUpdate vals keyLit
  else if op = Model.opDelete then m.buildDelete keyLit
  else ""

/-- `mysql_model_save`: the key decides between an insert and an update. -/
def saveOp (m : Model) : Int :=
  match m.keyField with
  | none => Model.opInsert
  | some kf =>
    match kf.addr with
    | none => Model.opInsert
    | some addr =>
      let keySet := match kf.type with
        | .string => reader.getString memory addr != ""
        | .int | .float => memory addr != 0
      if keySet then Model.opUpdate else Model.opInsert

end ScriptReader

/-- `ModelExecute` before its `enqueueJob`. A connection escapes by its own charset. -/
def modelExecute (reader : ScriptReader) (escape : Nat → String → String) (component : Component)
    (registry : Connections) (modelHandle op : Int) (callback : String) (args : List CallbackArg) :
    Component × Option QueryJob :=
  match component.models modelHandle with
  | none => (component, none)
  | some m =>
    match registry.getConnection m.connectionHandle with
    | none => (component.setModel modelHandle (m.setError .invalid), none)
    | some conn =>
      let sql := reader.modelSql component.memory (some (escape conn)) m op
      if sql = "" then (component.setModel modelHandle (m.setError .invalid), none)
      else
        (component, some { connectionHandle := m.connectionHandle, sql, modelHandle, modelOp := op, callback, args })

end OmpMySQL
