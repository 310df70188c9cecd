/-! Buffered results, copied into memory by the worker so that the main thread
never reads from a live connection. -/

namespace OmpMySQL

structure ResultField where
  name : String
  type : Int := -1
  deriving DecidableEq, Repr

structure ResultValue where
  value : String := ""
  isNull : Bool := false
  deriving DecidableEq, Repr

structure ResultSet where
  fields : List ResultField := []
  rows : List (List ResultValue) := []
  affectedRows : Nat := 0
  insertId : Nat := 0
  warningCount : Nat := 0
  deriving DecidableEq, Repr

namespace ResultSet

/-- The source's -1 for an unknown column is `none`. -/
def fieldIndex (set : ResultSet) (name : String) : Option Nat :=
  set.fields.findIdx? (fun field => field.name == name)

end ResultSet

structure QueryResult where
  sets : List ResultSet := []
  execTimeMicros : Int := 0
  queryString : String := ""
  deriving DecidableEq, Repr

end OmpMySQL
