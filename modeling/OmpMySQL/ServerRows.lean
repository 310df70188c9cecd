import Mathlib.Data.List.Basic
import OmpMySQL.Proofs.ModelText
import OmpMySQL.ServerResults

/-! A row of a table as the server keeps it, and what the statements of a model do to it.
The server reads a statement from its tokens. -/

namespace OmpMySQL
open Library.SqlTokens

structure Selection where
  columns : List String
  table : String
  condition : String × Value
  deriving DecidableEq, Repr

structure Assignment where
  table : String
  sets : List (String × Value)
  condition : String × Value
  deriving DecidableEq, Repr

def readName : List Token → Option String
  | [.name text] => some (String.ofList text)
  | _ => none

/-- `name = value`, in a condition or a list of assignments. -/
def readEquation : List Token → Option (String × Value)
  | .name column :: .symbol '=' :: value => (Value.ofTokens value).map (String.ofList column, ·)
  | _ => none

def upToWord (word : String) (read : List Token) : List Token := read.takeWhile (· ≠ keyword word)

def afterWord (word : String) (read : List Token) : List Token := (read.dropWhile (· ≠ keyword word)).drop 1

def readSelect : List Token → Option Selection
  | [] => none
  | first :: rest =>
    if first = keyword "SELECT" then do
      let columns ← ((upToWord "FROM" rest).splitOn (.symbol ',')).mapM readName
      let table ← readName (upToWord "WHERE" (afterWord "FROM" rest))
      let condition ← readEquation (upToWord "LIMIT" (afterWord "WHERE" rest))
      some { columns, table, condition }
    else none

def readUpdate : List Token → Option Assignment
  | [] => none
  | first :: rest =>
    if first = keyword "UPDATE" then do
      let table ← readName (upToWord "SET" rest)
      let sets ← ((upToWord "WHERE" (afterWord "SET" rest)).splitOn (.symbol ',')).mapM readEquation
      let condition ← readEquation (afterWord "WHERE" rest)
      some { table, sets, condition }
    else none

/-- An integer is sent in decimal. -/
def Value.sent : Value → Option String
  | .null => none
  | .int value => some (toString value)
  | .text value => some value

structure TableRow where
  table : String
  columns : String → Value

namespace TableRow

/-- No value equals NULL. -/
def meets (row : TableRow) (table : String) (condition : String × Value) : Bool :=
  row.table = table && condition.2 ≠ .null && row.columns condition.1 = condition.2

/-- What a SELECT finds of the row. -/
def answer (row : TableRow) (selection : Selection) : ServerSet where
  fields := selection.columns.map fun name => { name }
  rows :=
    if row.meets selection.table selection.condition then
      [selection.columns.map fun column => (row.columns column).sent]
    else []
  width := by
    intro cells inside
    split at inside
    next =>
      cases List.mem_singleton.mp inside
      simp
    next => cases inside

def assign (columns : String → Value) (set : String × Value) : String → Value :=
  fun column => if column = set.1 then set.2 else columns column

/-- The row after an UPDATE. -/
def write (row : TableRow) (assignment : Assignment) : TableRow :=
  if row.meets assignment.table assignment.condition then
    { row with columns := assignment.sets.foldl assign row.columns }
  else row

def select (row : TableRow) (sql : String) : Option ServerSet := ((tokens sql.toList).bind readSelect).map row.answer

def update (row : TableRow) (sql : String) : Option TableRow := ((tokens sql.toList).bind readUpdate).map row.write

end TableRow
end OmpMySQL
