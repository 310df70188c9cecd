import OmpMySQL.Query

/-! Active-record models: columns bound to script variables by address. -/

namespace OmpMySQL

inductive FieldType where
  | int
  | float
  | string
  deriving DecidableEq, Repr

/-- A null address is `none`; `maxlen` counts cells, the terminator included. -/
structure ModelField where
  column : String
  type : FieldType := .int
  addr : Option Nat := none
  maxlen : Int := 0
  deriving DecidableEq, Repr

inductive ModelError where
  | ok
  | noData
  | invalid
  deriving DecidableEq, Repr

structure Model where
  connectionHandle : Int := 0
  table : String := ""
  key : String := ""
  fields : List ModelField := []
  lastError : ModelError := .ok
  deriving DecidableEq, Repr

namespace Model

def opFind : Int := 1
def opInsert : Int := 2
def opUpdate : Int := 3
def opDelete : Int := 4

def setError (model : Model) (error : ModelError) : Model := { model with lastError := error }

def keyField (model : Model) : Option ModelField :=
  if model.key = "" then none else model.fields.find? (·.column = model.key)

/-- A column bound twice keeps its place and takes the new variable. -/
def upsertField (model : Model) (field : ModelField) : Model :=
  if model.fields.any (·.column = field.column) then
    { model with
      fields := model.fields.set (model.fields.findIdx (·.column = field.column)) field }
  else { model with fields := model.fields ++ [field] }

def bindInt (model : Model) (column : String) (addr : Option Nat) : Model :=
  model.upsertField { column, type := .int, addr, maxlen := 0 }

def bindFloat (model : Model) (column : String) (addr : Option Nat) : Model :=
  model.upsertField { column, type := .float, addr, maxlen := 0 }

def bindString (model : Model) (column : String) (addr : Option Nat) (maxlen : Int) : Model :=
  model.upsertField { column, type := .string, addr, maxlen }

def unbind (model : Model) (column : String) : Model × Bool :=
  ({ model with fields := model.fields.eraseP (·.column = column) }, model.fields.any (·.column = column))

def clear (model : Model) : Model := { model with fields := [] }

def setKey (model : Model) (column : String) : Model := { model with key := column }

end Model

/-- A name in backticks, its own backticks doubled. -/
def ident (s : String) : String :=
  "`" ++ String.ofList (s.toList.flatMap fun c => if c = '`' then ['`', '`'] else [c]) ++ "`"

namespace Model

def buildFind (model : Model) (keyValue : String) : String :=
  if model.key = "" ∨ model.fields = [] then ""
  else
    "SELECT " ++ ", ".intercalate (model.fields.map (ident ·.column)) ++ " FROM " ++ ident model.table ++
      " WHERE " ++ ident model.key ++ " = " ++ keyValue ++ " LIMIT 1"

def buildInsert (model : Model) (values : List String) : String :=
  if model.fields = [] ∨ values.length ≠ model.fields.length then ""
  else
    "INSERT INTO " ++ ident model.table ++ " (" ++ ", ".intercalate (model.fields.map (ident ·.column)) ++
      ") VALUES (" ++ ", ".intercalate values ++ ")"

/-- The key column is left out of the SET list. -/
def buildUpdate (model : Model) (values : List String) (keyValue : String) : String :=
  if model.key = "" ∨ model.fields = [] ∨ values.length ≠ model.fields.length then ""
  else
    let written := (model.fields.zip values).filter (·.1.column ≠ model.key)
    let sets := ", ".intercalate (written.map fun pair => ident pair.1.column ++ " = " ++ pair.2)
    if sets = "" then ""
    else "UPDATE " ++ ident model.table ++ " SET " ++ sets ++ " WHERE " ++ ident model.key ++ " = " ++ keyValue

def buildDelete (model : Model) (keyValue : String) : String :=
  if model.key = "" then ""
  else "DELETE FROM " ++ ident model.table ++ " WHERE " ++ ident model.key ++ " = " ++ keyValue

end Model
end OmpMySQL
