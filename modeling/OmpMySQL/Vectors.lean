import OmpMySQL.CLibrary
import OmpMySQL.Library.Binary32
import OmpMySQL.Library.Decimals
import OmpMySQL.Natives

/-! The natives that pack floats into the text of a vector and take them out again. -/

namespace OmpMySQL
open Library

def floatOfCell (cell : Cell) : Binary32.Number := Binary32.ofBits (cell % 0x100000000).toNat

def cellOfFloat (number : Binary32.Number) : Cell := toCell number.toBits

/-- `%g` of `snprintf`. -/
def percentG : Binary32.Number → List Char
  | .finite number => (if number.negative then ['-'] else []) ++ Decimals.general 5 number.magnitude
  | .infinite negative => (if negative then ['-'] else []) ++ "inf".toList
  | .nan negative => (if negative then ['-'] else []) ++ "nan".toList

/-- `strtod` after the sign. Without a number it is a zero. -/
def unsignedNumber (negative : Bool) (text : List Char) : Binary32.Number :=
  let small := text.map Char.toLower
  if "inf".toList.isPrefixOf small then .infinite negative
  else if "nan".toList.isPrefixOf small then .nan negative
  else
    let hexadecimal := if "0x".toList.isPrefixOf small then Decimals.hexadecimal.read (text.drop 2) else none
    match hexadecimal.or (Decimals.decimal.read text) with
    | none => Binary32.nearest false 0
    | some size => Binary32.nearest negative size

/-- `atof`, rounded to a float once. -/
def atof (text : List Char) : Binary32.Number :=
  match text.dropWhile isspace with
  | '-' :: rest => unsignedNumber true rest
  | '+' :: rest => unsignedNumber false rest
  | rest => unsignedNumber false rest

def vectorText (values : List Binary32.Number) : List Char :=
  '[' :: [','].intercalate (values.map fun value => NativeCall.numbuf (String.ofList (percentG value))) ++ [']']

def isPadding (char : Char) : Bool := char = ' ' || char = '\t'

/-- `flush`: a component of blanks counts for nothing. -/
def flushNumber (num : List Char) (out : List Binary32.Number) : List Binary32.Number :=
  let trimmed := (num.dropWhile isPadding).rdropWhile isPadding
  if trimmed = [] then out else out ++ [atof trimmed]

/-- The loop of `ParseVectorString`. -/
def parseComponents : List Char → List Char → List Binary32.Number → List Binary32.Number
  | [], num, out => if num = [] then out else flushNumber num out
  | ch :: rest, num, out =>
    if ch = ']' then if num = [] then out else flushNumber num out
    else if ch = ',' then parseComponents rest [] (flushNumber num out)
    else parseComponents rest (num ++ [ch]) out

def parseVectorString (src : String) : List Binary32.Number :=
  parseComponents ((src.toList.dropWhile (· ≠ '[')).drop 1) [] []

namespace NativeCall
variable (call : NativeCall)

def floats (values : Nat) (count : Cell) : List Binary32.Number :=
  (List.range count.toNat).map fun i => floatOfCell (call.memory (values + i))

/-- The script's memory after the call, and what the native returns. -/
def mysqlVectorToString : (Nat → Cell) × Cell :=
  match call.getAddr (call.param 1) with
  | none => (call.memory, 0)
  | some values =>
    let out := vectorText (call.floats values (call.param 2))
    (call.writeAmxString (call.param 3) (String.ofList out) (call.param 4), toCell out.length)

def storeFloats (dest : Nat) (values : List Binary32.Number) : Nat → Cell :=
  fun cell => if dest ≤ cell then ((values[cell - dest]?).map cellOfFloat).getD (call.memory cell) else call.memory cell

def mysqlStringToVector (reader : ScriptReader) : (Nat → Cell) × Cell :=
  match call.getAddr (call.param 2) with
  | none => (call.memory, 0)
  | some dest =>
    let vals := (parseVectorString (call.amxStringParam reader (call.param 1))).take (call.param 3).toNat
    (call.storeFloats dest vals, toCell vals.length)

def mysqlVectorDim (reader : ScriptReader) : Cell :=
  toCell (parseVectorString (call.amxStringParam reader (call.param 1))).length

end NativeCall
end OmpMySQL
