import OmpMySQL.Gate
import OmpMySQL.ModelSql

/-! Script variables bound to models, while scripts are loaded and unloaded. A
script is known by its load: one that is loaded again is another script. -/

namespace OmpMySQL
open Library

namespace Pawn

def empty : Pawn where
  mainScript := none
  sideScripts := []
  distinct := List.nodup_nil

/-- One gamemode, and filterscripts that come before or after it. -/
def load (pawn : Pawn) (amx : AMX) (gamemode : Bool) (fresh : amx.script ∉ pawn.loaded.map AMX.script) : Pawn :=
  if main : gamemode = true ∧ pawn.mainScript = none then
    { mainScript := some amx
      sideScripts := pawn.sideScripts
      distinct := by
        have distinct := pawn.distinct
        rw [loaded] at fresh
        rw [main.2, Option.toList_none, List.nil_append] at fresh distinct
        exact List.nodup_cons.mpr ⟨fresh, distinct⟩ }
  else
    { mainScript := pawn.mainScript
      sideScripts := pawn.sideScripts ++ [some amx]
      distinct := by
        have distinct := pawn.distinct
        rw [loaded] at fresh
        rw [List.filterMap_append, ← List.append_assoc, List.map_append]
        refine List.nodup_append.mpr ⟨distinct, by simp, ?_⟩
        intro old present new added same
        have last : new = amx.script := by simpa using added
        exact fresh (last ▸ same ▸ present) }

theorem filter_loaded (main : Option AMX) (side : List (Option AMX)) (keep : AMX → Bool) :
    (main.filter keep).toList ++ (side.map (·.filter keep)).filterMap id =
      (main.toList ++ side.filterMap id).filter keep := by
  rw [List.filter_append, Option.toList_filter, List.filterMap_map, List.filter_filterMap]
  rfl

def unload (pawn : Pawn) (script : Nat) : Pawn where
  mainScript := pawn.mainScript.filter (·.script ≠ script)
  sideScripts := pawn.sideScripts.map (·.filter (·.script ≠ script))
  distinct := by
    rw [filter_loaded]
    exact pawn.distinct.sublist (List.filter_sublist.map _)

end Pawn

namespace Model

/-- The addresses `ModelExecute` reads, the key's once more. -/
def reads (m : Model) : List Nat := m.fields.filterMap (·.addr) ++ (m.keyField.bind (·.addr)).toList

end Model

/-- Where `applyModelResult` stores a field of the row. -/
def ModelField.target (set : ResultSet) (row : List ResultValue) (field : ModelField) : Option Nat :=
  match field.addr, (set.fieldIndex field.column).bind (row[·]?) with
  | some addr, some _ => if field.type = .string ∧ field.maxlen ≤ 0 then none else some addr
  | _, _ => none

namespace Component

/-- The addresses `applyModelResult` stores to. -/
def writes (component : Component) (job : QueryJob) : List Nat :=
  match component.models job.modelHandle with
  | none => []
  | some m =>
    let sets := if job.succeeded then (job.result.map (·.sets)).getD [] else []
    if job.modelOp = Model.opInsert then
      match m.keyField.bind (·.addr), sets with
      | some addr, _ :: _ => [addr]
      | _, _ => []
    else if job.modelOp ≠ Model.opFind then []
    else match sets with
      | set :: _ =>
        match set.rows with
        | row :: _ => m.fields.filterMap (ModelField.target set row)
        | [] => []
      | [] => []

def dispatchWrites (component : Component) (job : QueryJob) : List Nat :=
  if (component.resolveScript job).isSome ∧ 0 < job.modelHandle then component.writes job else []

end Component

/-- A native that changes a model. The bound variable is a script's by reference. -/
inductive ModelCall where
  | bindInt (addr : Nat) (column : String)
  | bindFloat (addr : Nat) (column : String)
  | bindString (addr : Nat) (maxlen : Int) (column : String)
  | unbind (column : String)
  | clear
  | setKey (column : String)
  deriving DecidableEq, Repr

def ModelCall.addr : ModelCall → Option Nat
  | .bindInt addr _ | .bindFloat addr _ | .bindString addr _ _ => some addr
  | .unbind _ | .clear | .setKey _ => none

def ModelCall.apply (m : Model) : ModelCall → Model × Bool
  | .bindInt addr column => if column = "" then (m, false) else (m.bindInt column (some addr), true)
  | .bindFloat addr column => if column = "" then (m, false) else (m.bindFloat column (some addr), true)
  | .bindString addr maxlen column =>
    if column = "" ∨ maxlen ≤ 0 then (m, false) else (m.bindString column (some addr) maxlen, true)
  | .unbind column => m.unbind column
  | .clear => (m.clear, true)
  | .setKey column => if column = "" then (m, false) else (m.setKey column, true)

namespace ModelVariables

/-- `owner` is the script whose memory an address is in. -/
structure Host where
  owner : Nat → Nat
  reader : ScriptReader
  escape : Nat → String → String
  strtof : String → Cell

/-- An access to a variable, with the scripts loaded at that moment. -/
structure Access where
  addr : Nat
  loaded : List Nat
  deriving DecidableEq, Repr

structure State where
  gate : Gate.State := {}
  component : Component := { pawn := some .empty }
  nextModel : Int := 1
  scripts : Nat := 0
  accesses : List Access := []

inductive Event where
  | load (publics : List String) (gamemode : Bool)
  | unload (script : Nat)
  | create (table : String) (handle : Int)
  | destroy (model : Int)
  | call (script : Nat) (model : Int) (call : ModelCall)
  | execute (model op : Int) (callback : String) (args : List CallbackArg)
  | save (model : Int) (callback : String) (args : List CallbackArg)
  | dispatch (done : Engine.Finished Nat)
  | gate (event : Gate.Event)
  | reset

namespace State

def pawn (state : State) : Pawn := state.component.pawn.getD .empty

def loaded (state : State) : List Nat := state.pawn.loaded.map AMX.script

def free (state : State) : Bool := state.gate.engine.main = .free

/-- Every model handle given out so far. -/
def handles (state : State) : List Int :=
  (List.range (state.nextModel - 1).toNat).map fun below : Nat => (below : Int) + 1

def access (state : State) (addrs : List Nat) : State :=
  { state with accesses := state.accesses ++ addrs.map fun addr => ⟨addr, state.loaded⟩ }

/-- `ModelExecute`: it reads nothing without the model or its connection. -/
def execute (host : Host) (state : State) (model op : Int) (callback : String) (args : List CallbackArg) :
    Option State :=
  let read := match state.component.models model with
    | none => []
    | some m => if (state.gate.registry.getConnection m.connectionHandle).isSome then m.reads else []
  let (component, job) :=
    modelExecute host.reader host.escape state.component state.gate.registry model op callback args
  let after := { state.access read with component }
  match job with
  | none => some after
  | some job =>
    (Gate.step state.gate (.submit false job (state.gate.submitted false job).reason)).map fun gate =>
      { after with gate }

/-- Some registered model has a variable of this script bound. -/
def binds (host : Host) (state : State) (script : Nat) : Bool :=
  state.handles.any fun handle => (state.component.models handle).any fun m =>
    m.fields.any fun field => field.addr.any (host.owner · = script)

end State

def isDispatch : Gate.Event → Bool
  | .engine (.dispatch _) => true
  | _ => false

/-- `onAmxUnload` does nothing. -/
def step (host : Host) (state : State) : Event → Option State
  | .load publics gamemode =>
    if fresh : state.free ∧ state.scripts ∉ state.loaded then
      let amx : AMX := { script := state.scripts, publics }
      some { state with
        component := { state.component with pawn := some (state.pawn.load amx gamemode fresh.2) }
        scripts := state.scripts + 1 }
    else none
  | .unload script =>
    if state.free then
      some { state with component := { state.component with pawn := some (state.pawn.unload script) } }
    else none
  | .create table handle =>
    if state.free then
      if table = "" ∨ state.gate.registry.getConnection handle = none then some state
      else
        some { state with
          component := state.component.setModel state.nextModel { connectionHandle := handle, table }
          nextModel := state.nextModel + 1 }
    else none
  | .destroy model =>
    if state.free then
      some { state with
        component := { state.component with models := Table.erase state.component.models model } }
    else none
  | .call script model call =>
    if state.free ∧ script ∈ state.loaded ∧ call.addr.all (host.owner · = script) then
      match state.component.models model with
      | none => some state
      | some m => some { state with component := state.component.setModel model (call.apply m).1 }
    else none
  | .execute model op callback args => if state.free then state.execute host model op callback args else none
  | .save model callback args =>
    if state.free then
      match state.component.models model with
      | none => some state
      | some m =>
        (state.access (m.keyField.bind (·.addr)).toList).execute host model
          (host.reader.saveOp state.component.memory m) callback args
    else none
  | .dispatch done =>
    (Gate.step state.gate (.engine (.dispatch done))).map fun gate =>
      { state.access (state.component.dispatchWrites done.job) with
        gate, component := (state.component.dispatchJob host.strtof done.job).component }
  | .gate event =>
    if isDispatch event then none else (Gate.step state.gate event).map fun gate => { state with gate }
  | .reset =>
    (Gate.step state.gate .reset).map fun gate =>
      { state with gate, component := { state.component with models := fun _ => none }, nextModel := 1 }

/-- Each access so far was to the memory of a script that was loaded. -/
def OnlyLoaded (host : Host) (state : State) : Prop :=
  ∀ access ∈ state.accesses, host.owner access.addr ∈ access.loaded

end ModelVariables
end OmpMySQL
