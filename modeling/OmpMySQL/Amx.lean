import OmpMySQL.CLibrary
import OmpMySQL.Query

/-! The part of the AMX an upcall goes through. Parameters are pushed last to
first; a string is put on the script's heap and its address is pushed. -/

namespace OmpMySQL

/-- A loaded script: its public functions and the top of its heap. -/
structure AMX where
  script : Nat
  publics : List String
  hea : Int := 0
  deriving DecidableEq, Repr

def AMX.findPublic (amx : AMX) (name : String) : Bool := name ∈ amx.publics

inductive Upcall where
  | executeHook
  | errorHook
  | callback
  deriving DecidableEq, Repr

/-- A public function running in a script. `params` are its parameters in order,
`heap` the strings pushed for it, `active` the result it can read. -/
structure Invocation where
  script : Nat
  name : String
  upcall : Upcall
  params : List Cell
  heap : List (Cell × String)
  active : Option QueryResult := none
  deriving DecidableEq, Repr

/-- The string a parameter points to. -/
def Invocation.text (call : Invocation) (index : Nat) : Option String :=
  call.params[index]?.bind (call.heap.lookup ·)

structure Frame where
  hea : Int
  heap : List (Cell × String) := []
  params : List Cell := []
  deriving DecidableEq, Repr

def AMX.frame (amx : AMX) : Frame := { hea := amx.hea }

namespace Frame

def push (frame : Frame) (value : Cell) : Frame := { frame with params := value :: frame.params }

/-- Unpacked: a cell for each character and one for the terminator. -/
def pushString (frame : Frame) (text : String) : Frame where
  hea := frame.hea + 4 * ((cString text).length + 1)
  heap := (frame.hea, cString text) :: frame.heap
  params := frame.hea :: frame.params

def exec (frame : Frame) (amx : AMX) (name : String) (upcall : Upcall) (active : Option QueryResult) : Invocation :=
  { script := amx.script, name, upcall, params := frame.params, heap := frame.heap, active }

end Frame

structure Pawn where
  mainScript : Option AMX := none
  sideScripts : List (Option AMX) := []
  distinct : ((mainScript.toList ++ sideScripts.filterMap id).map AMX.script).Nodup

namespace Pawn

def loaded (pawn : Pawn) : List AMX := pawn.mainScript.toList ++ pawn.sideScripts.filterMap id

def findSide (name : String) : List (Option AMX) → Option AMX
  | [] => none
  | none :: rest => findSide name rest
  | some amx :: rest => if amx.findPublic name then some amx else findSide name rest

def findScriptWithPublic (pawn : Pawn) (name : String) : Option AMX :=
  match pawn.mainScript with
  | some amx => if amx.findPublic name then some amx else findSide name pawn.sideScripts
  | none => findSide name pawn.sideScripts

end Pawn
end OmpMySQL
