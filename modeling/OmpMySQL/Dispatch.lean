import OmpMySQL.Amx
import OmpMySQL.Guards
import OmpMySQL.Model

/-! What the main thread does with a finished job: hooks, model write-back and
the script's callback. What a script does while it is called is not part of it. -/

namespace OmpMySQL

/-- The component's main-thread state, as far as a dispatch reads or writes it.
`core` gives the player now holding each id; a null pointer is `none`. -/
structure Component where
  pawn : Option Pawn := none
  core : Option (Int → Option Nat) := none
  models : Int → Option Model := fun _ => none
  memory : Nat → Cell := fun _ => 0
  activeCache : Option QueryResult := none
  activeResultIndex : Int := 0

structure Dispatched where
  component : Component
  calls : List Invocation := []
  warning : Option String := none

namespace Component

def findScriptWithPublic (component : Component) (name : String) : Option AMX :=
  component.pawn.bind (·.findScriptWithPublic name)

def store (component : Component) (addr : Nat) (value : Cell) : Component :=
  { component with memory := fun other => if other = addr then value else component.memory other }

def storeString (component : Component) (addr : Nat) : List Char → Component
  | [] => component.store addr 0
  | char :: rest => (component.store addr char.toNat).storeString (addr + 1) rest

def setString (component : Component) (addr : Nat) (text : String) (maxlen : Nat) : Component :=
  component.storeString addr ((cString text).toList.take (maxlen - 1))

def setModel (component : Component) (handle : Int) (model : Model) : Component :=
  { component with models := fun other => if other = handle then some model else component.models other }

def applyField (strtof : String → Cell) (component : Component) (set : ResultSet) (row : List ResultValue)
    (field : ModelField) : Component :=
  match field.addr, (set.fieldIndex field.column).bind (row[·]?) with
  | some addr, some v =>
    match field.type with
    | .int => component.store addr (if v.isNull then 0 else toCell (strtol (cString v.value)))
    | .float => component.store addr (if v.isNull then 0 else strtof (cString v.value))
    | .string =>
      if 0 < field.maxlen then
        component.setString addr (if v.isNull then "" else v.value) field.maxlen.toNat
      else component
  | _, _ => component

/-- `strtof` yields the bits of the float that stands at the start of a text. -/
def applyModelResult (strtof : String → Cell) (component : Component) (job : QueryJob) : Component :=
  match component.models job.modelHandle with
  | none => component
  | some m =>
    let sets := if job.succeeded then (job.result.map (·.sets)).getD [] else []
    let status := if job.succeeded then ModelError.ok else .invalid
    if job.modelOp = Model.opInsert then
      let written := match m.keyField.bind (·.addr), sets with
        | some addr, set :: _ => component.store addr (toCell set.insertId)
        | _, _ => component
      written.setModel job.modelHandle (m.setError status)
    else if job.modelOp ≠ Model.opFind then component.setModel job.modelHandle (m.setError status)
    else match sets with
      | set :: _ =>
        match set.rows with
        | row :: _ =>
          (m.fields.foldl (fun c field => c.applyField strtof set row field) component).setModel job.modelHandle
            (m.setError .ok)
        | [] => component.setModel job.modelHandle (m.setError .noData)
      | [] => component.setModel job.modelHandle (m.setError .noData)

end Component

/-- Push order: the query text, then the time, then the handle. -/
def queryExecuteFrame (amx : AMX) (handle : Int) (sql : String) (execMicros : Int) : Frame :=
  ((amx.frame.pushString sql).push (toCell execMicros)).push (toCell handle)

def queryExecuteCall (amx : AMX) (handle : Int) (sql : String) (execMicros : Int) (active : Option QueryResult) :
    Invocation :=
  (queryExecuteFrame amx handle sql execMicros).exec amx "OnQueryExecute" .executeHook active

/-- The three strings go on the heap first, which pushes their addresses; then
the five parameters are pushed. -/
def queryErrorFrame (amx : AMX) (errorCode : Int) (error callback sql : String) (handle : Int) : Frame :=
  let query := amx.frame.pushString sql
  let text := query.pushString error
  let name := text.pushString callback
  let amxQuery := amx.hea
  let amxError := query.hea
  let amxCallback := text.hea
  ((((name.push (toCell handle)).push amxQuery).push amxCallback).push amxError).push (toCell errorCode)

def queryErrorCall (amx : AMX) (errorCode : Int) (error callback sql : String) (handle : Int)
    (active : Option QueryResult) : Invocation :=
  (queryErrorFrame amx errorCode error callback sql handle).exec amx "OnQueryError" .errorHook active

def pushArgs (frame : Frame) (args : List CallbackArg) : Frame :=
  args.reverse.foldl
    (fun frame arg => match arg with
      | .int value => frame.push (toCell value)
      | .float bits => frame.push bits
      | .string text => frame.pushString text)
    frame

/-- What goes before the extra arguments of a hashing callback. -/
def HashJob.resultFrame (job : HashJob) (amx : AMX) : Frame :=
  match job.op with
  | .hash => amx.frame.pushString job.result
  | .verify => amx.frame.push (if job.verified then 1 else 0)

namespace Component

def fireQueryExecuteHook (component : Component) (handle : Int) (sql : String) (execMicros : Int) :
    List Invocation :=
  match component.findScriptWithPublic "OnQueryExecute" with
  | none => []
  | some amx => [queryExecuteCall amx handle sql execMicros component.activeCache]

def resolveScript (component : Component) (job : QueryJob) : Option AMX :=
  let owner := if job.callback = "" then none else component.findScriptWithPublic job.callback
  owner.or (component.pawn.bind (·.mainScript))

def auditCalls (component : Component) (job : QueryJob) : List Invocation :=
  match job.succeeded, job.result with
  | true, some result => component.fireQueryExecuteHook job.connectionHandle job.sql result.execTimeMicros
  | _, _ => []

def boundPlayerGone (component : Component) (job : QueryJob) : Bool :=
  match component.core with
  | some players => decide (0 ≤ job.boundPlayer) && (players job.boundPlayer).isNone
  | none => false

def fireQueryError (component : Component) (job : QueryJob) : List Invocation :=
  match component.findScriptWithPublic "OnQueryError" with
  | none => []
  | some amx =>
    [queryErrorCall amx job.errorCode job.error job.callback job.sql job.connectionHandle component.activeCache]

def runCallback (component : Component) (amx : AMX) (job : QueryJob) : Dispatched :=
  if amx.findPublic job.callback then
    let active := job.result.or component.activeCache
    { component := { component with activeCache := none, activeResultIndex := 0 }
      calls := [(pushArgs amx.frame job.args).exec amx job.callback .callback active] }
  else { component, warning := some ("callback \"" ++ job.callback ++ "\" not found") }

def dispatchJob (strtof : String → Cell) (component : Component) (job : QueryJob) : Dispatched :=
  match component.resolveScript job with
  | none => { component }
  | some amx =>
    let audit := component.auditCalls job
    let component := if 0 < job.modelHandle then component.applyModelResult strtof job else component
    if component.boundPlayerGone job then { component, calls := audit }
    else if job.succeeded = false then { component, calls := audit ++ component.fireQueryError job }
    else if job.callback = "" then { component, calls := audit }
    else
      let ran := component.runCallback amx job
      { ran with calls := audit ++ ran.calls }

def dispatchHash (component : Component) (job : HashJob) : List Invocation :=
  if job.callback = "" then []
  else match component.findScriptWithPublic job.callback with
    | none => []
    | some amx =>
      [(pushArgs (job.resultFrame amx) job.args).exec amx job.callback .callback component.activeCache]

def reportGuardReject (component : Component) (amx : AMX) (handle : Int) (sql callback : String)
    (reason : GuardReject) : List Invocation :=
  if reason = .unknownHandle ∨ amx.findPublic "OnQueryError" = false then []
  else [queryErrorCall amx 0 (guardRejectText reason) callback sql handle component.activeCache]

/-- The synthetic failed job that stands for a rejected synchronous query. -/
def rejectedJob (handle : Int) (sql : String) (reason : GuardReject) : QueryJob :=
  { connectionHandle := handle, sql, succeeded := false, error := guardRejectText reason }

def reportSyncReject (strtof : String → Cell) (component : Component) (handle : Int) (sql : String)
    (reason : GuardReject) : Dispatched :=
  if reason = .unknownHandle then { component }
  else component.dispatchJob strtof (rejectedJob handle sql reason)

end Component
end OmpMySQL
