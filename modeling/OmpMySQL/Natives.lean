import OmpMySQL.ModelSql

/-! Natives that take values after a format: the callback arguments of a job, and the texts
of `mysql_format` and `mysql_escape`. -/

namespace OmpMySQL

/-- A native while it is called. Values after a format are passed by reference. -/
structure NativeCall where
  params : List Cell
  getAddr : Cell → Option Nat
  memory : Nat → Cell
  cells : ∀ addr, toCell (memory addr) = memory addr

namespace NativeCall
variable (reader : ScriptReader) (call : NativeCall)

/-- The parameters count from 1; the natives only ask for those that are there. -/
def param (index : Nat) : Cell := call.params.getD (index - 1) 0

def cell (param : Cell) : Cell := ((call.getAddr param).map call.memory).getD 0

def amxStringParam (param : Cell) : String := ((call.getAddr param).map (reader.getString call.memory)).getD ""

/-- The values are those not taken yet. -/
def decodeFormat : List Char → List Cell → List CallbackArg
  | [], _ => []
  | _, [] => []
  | spec :: rest, value :: others =>
    if spec = 'd' ∨ spec = 'i' then .int (call.cell value) :: decodeFormat rest others
    else if spec = 'f' then .float (call.cell value) :: decodeFormat rest others
    else if spec = 's' then .string (call.amxStringParam reader value) :: decodeFormat rest others
    else decodeFormat rest (value :: others)

def mysqlHash : Option HashJob :=
  if call.params.length < 2 then none
  else
    some
      { op := .hash
        password := call.amxStringParam reader (call.param 1)
        callback := call.amxStringParam reader (call.param 2)
        args :=
          if 3 ≤ call.params.length then
            call.decodeFormat reader (call.amxStringParam reader (call.param 3)).toList (call.params.drop 4)
          else [] }

def mysqlVerify : Option HashJob :=
  if call.params.length < 3 then none
  else
    some
      { op := .verify
        password := call.amxStringParam reader (call.param 1)
        hash := call.amxStringParam reader (call.param 2)
        callback := call.amxStringParam reader (call.param 3)
        args :=
          if 5 ≤ call.params.length then
            call.decodeFormat reader (call.amxStringParam reader (call.param 4)).toList (call.params.drop 4)
          else [] }

/-- `snprintf` into `numbuf`. -/
def numbuf (text : String) : List Char := text.toList.take 63

/-- What a specifier makes of the next value, unless it is unknown. -/
def formatValue (escape : String → String) (spec : Char) (value : Cell) : Option (List Char) :=
  if spec = 'd' ∨ spec = 'i' then some (numbuf (toString (call.cell value)))
  else if spec = 'f' then some (numbuf (reader.floatText (call.cell value)))
  else if spec = 's' then some (call.amxStringParam reader value).toList
  else if spec = 'e' then some (escape (call.amxStringParam reader value)).toList
  else if spec = 'q' then some (ident (call.amxStringParam reader value)).toList
  else none

def writeAmxString (dest : Cell) (s : String) (maxlen : Int) : Nat → Cell :=
  match call.getAddr dest with
  | none => call.memory
  | some addr =>
    if maxlen ≤ 0 then call.memory
    else (({ memory := call.memory } : Component).setString addr s maxlen.toNat).memory

end NativeCall

/-- The loop of `mysql_format` from the middle of its format. -/
def formatLoop (formatValue : Char → Cell → Option (List Char)) : List Char → List Cell → List Char
  | [], _ => []
  | [char], _ => if char = '%' then [] else [char]
  | char :: spec :: rest, values =>
    if char ≠ '%' then char :: formatLoop formatValue (spec :: rest) values
    else if spec = '%' then '%' :: formatLoop formatValue rest values
    else match values with
      | [] => '%' :: spec :: formatLoop formatValue rest []
      | value :: others => match formatValue spec value with
        | some text => text ++ formatLoop formatValue rest others
        | none => '%' :: spec :: formatLoop formatValue rest (value :: others)

/-- A connection without its `MYSQL*` gives the text back. -/
def connectionEscape (mysql : Option (String → String)) (text : String) : String :=
  match mysql with
  | none => text
  | some escapeString => escapeString text

/-- `mysql` is `mysql_real_escape_string` on each connection's `MYSQL*`. -/
def escapeFor (registry : Connections) (mysql : Nat → Option (String → String)) (handle : Int) (text : String) : String :=
  match registry.getConnection handle with
  | none => text
  | some conn => connectionEscape (mysql conn) text

/-- The text the destination is given. -/
def mysqlEscape (registry : Connections) (mysql : Nat → Option (String → String)) (source : String) (handle : Int) : String :=
  escapeFor registry mysql handle source

namespace NativeCall
variable (reader : ScriptReader) (registry : Connections) (mysql : Nat → Option (String → String)) (call : NativeCall)

def formatted : List Char :=
  formatLoop (call.formatValue reader (escapeFor registry mysql (call.param 1)))
    (call.amxStringParam reader (call.param 4)).toList (call.params.drop 4)

/-- The script's memory after the call, and what the native returns. -/
def mysqlFormat : (Nat → Cell) × Cell :=
  if call.params.length < 4 then (call.memory, 0)
  else
    (call.writeAmxString (call.param 2) (String.ofList (call.formatted reader registry mysql)) (call.param 3),
      toCell (call.formatted reader registry mysql).length)

end NativeCall
end OmpMySQL
