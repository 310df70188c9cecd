import OmpMySQL.Connection
import OmpMySQL.Dispatch
import OmpMySQL.Library.Table

/-! The result that scripts read: the one the running callback owns, or one they
retained. Row, column and set numbers come unchecked from the scripts. -/

namespace OmpMySQL
open Library

/-- A pointer to an element of a vector. A stray one came from an index beyond it. -/
inductive Pointer (α : Type) where
  | null
  | element (value : α)
  | stray
  deriving DecidableEq, Repr

namespace Pointer
variable {α β : Type}

def ofOption : Option α → Pointer α
  | none => .null
  | some value => .element value

def bind (pointer : Pointer α) (next : α → Pointer β) : Pointer β :=
  match pointer with
  | .null => .null
  | .element value => next value
  | .stray => .stray

end Pointer

/-- `&items[index]`. -/
def subscript {α : Type} (items : List α) (index : Int) : Pointer α :=
  match if 0 ≤ index then items[index.toNat]? else none with
  | some value => .element value
  | none => .stray

def ResultSet.rowCount (set : ResultSet) : Int := toCell set.rows.length

def ResultSet.fieldCount (set : ResultSet) : Int := toCell set.fields.length

def QueryResult.resultCount (result : QueryResult) : Int := toCell result.sets.length

namespace Component

def activeSet (component : Component) : Pointer ResultSet :=
  (Pointer.ofOption component.activeCache).bind fun result =>
    if component.activeResultIndex < 0 ∨ result.resultCount ≤ component.activeResultIndex then .null
    else subscript result.sets component.activeResultIndex

def setActiveCache (component : Component) (result : QueryResult) (resultIndex : Int) : Component :=
  { component with activeCache := some result, activeResultIndex := resultIndex }

def clearActiveCache (component : Component) : Component :=
  { component with activeCache := none, activeResultIndex := 0 }

def setActiveResultIndex (component : Component) (index : Int) : Component × Bool :=
  match component.activeCache with
  | none => (component, false)
  | some result =>
    if index < 0 ∨ result.resultCount ≤ index then (component, false)
    else ({ component with activeResultIndex := index }, true)

def fieldAt (component : Component) (fieldIndex : Int) : Pointer ResultField :=
  component.activeSet.bind fun s =>
    if fieldIndex < 0 ∨ s.fieldCount ≤ fieldIndex then .null else subscript s.fields fieldIndex

def cellAt (component : Component) (row column : Int) : Pointer ResultValue :=
  component.activeSet.bind fun s =>
    if row < 0 ∨ s.rowCount ≤ row ∨ column < 0 ∨ s.fieldCount ≤ column then .null
    else (subscript s.rows row).bind fun cells => subscript cells column

def cellByName (component : Component) (row : Int) (column : String) : Pointer ResultValue :=
  component.activeSet.bind fun s =>
    let col := (s.fieldIndex column).elim (-1) fun i : Nat => toCell i
    if col < 0 then .null else component.cellAt row col

end Component

inductive NativeValue where
  | cell (value : Cell)
  | float (bits : Cell)
  | bool (value : Bool)
  | text (value : String)
  deriving DecidableEq, Repr

/-- What a native writes or returns, and whether it found what it was asked for. -/
structure Reply where
  value : NativeValue
  found : Bool
  deriving DecidableEq, Repr

/-- Reading through a stray pointer has no reply. -/
def Pointer.read {α : Type} (pointer : Pointer α) (value : α → NativeValue) (missing : NativeValue) : Option Reply :=
  match pointer with
  | .null => some ⟨missing, false⟩
  | .element item => some ⟨value item, true⟩
  | .stray => none

def atoi (text : String) : Cell := toCell (strtol (cString text))

def getString (v : Pointer ResultValue) : Option Reply :=
  v.read (fun v => .text (if v.isNull then "" else v.value)) (.text "")

def getInt (v : Pointer ResultValue) : Option Reply :=
  v.read (fun v => .cell (if v.isNull then 0 else atoi v.value)) (.cell 0)

/-- `atof` yields the bits of the float that stands at the start of a text. -/
def getFloat (atof : String → Cell) (v : Pointer ResultValue) : Option Reply :=
  v.read (fun v => .float (if v.isNull then 0 else atof (cString v.value))) (.float 0)

def getBool (v : Pointer ResultValue) : Option Reply :=
  v.read (fun v => .bool (if v.isNull then false else atoi v.value != 0)) (.bool false)

def isNull (v : Pointer ResultValue) : Option Reply := v.read (fun v => .bool v.isNull) (.bool true)

/-- The `mysql_rs_*` natives that read, and `MySQL_Count`. -/
inductive RsNative where
  | rowCount
  | fieldCount
  | setCount
  | fieldName (fieldIndex : Int)
  | fieldType (fieldIndex : Int)
  | getString (row column : Int)
  | getInt (row column : Int)
  | getFloat (row column : Int)
  | getBool (row column : Int)
  | isNull (row column : Int)
  | getStringBy (row : Int) (column : String)
  | getIntBy (row : Int) (column : String)
  | getFloatBy (row : Int) (column : String)
  | getBoolBy (row : Int) (column : String)
  | isNullBy (row : Int) (column : String)
  | affectedRows
  | insertId
  | warningCount
  | execTime (unit : Int)
  | query
  | count (what : Int)

def RsNative.call (atof : String → Cell) (component : Component) : RsNative → Option Reply
  | rowCount => component.activeSet.read (fun s => .cell s.rowCount) (.cell 0)
  | fieldCount => component.activeSet.read (fun s => .cell s.fieldCount) (.cell 0)
  | setCount => (Pointer.ofOption component.activeCache).read (fun r => .cell r.resultCount) (.cell 0)
  | fieldName fieldIndex => (component.fieldAt fieldIndex).read (fun f => .text f.name) (.text "")
  | fieldType fieldIndex => (component.fieldAt fieldIndex).read (fun f => .cell f.type) (.cell (-1))
  | getString row column => OmpMySQL.getString (component.cellAt row column)
  | getInt row column => OmpMySQL.getInt (component.cellAt row column)
  | getFloat row column => OmpMySQL.getFloat atof (component.cellAt row column)
  | getBool row column => OmpMySQL.getBool (component.cellAt row column)
  | isNull row column => OmpMySQL.isNull (component.cellAt row column)
  | getStringBy row column => OmpMySQL.getString (component.cellByName row column)
  | getIntBy row column => OmpMySQL.getInt (component.cellByName row column)
  | getFloatBy row column => OmpMySQL.getFloat atof (component.cellByName row column)
  | getBoolBy row column => OmpMySQL.getBool (component.cellByName row column)
  | isNullBy row column => OmpMySQL.isNull (component.cellByName row column)
  | affectedRows => component.activeSet.read (fun s => .cell (toCell s.affectedRows)) (.cell 0)
  | insertId => component.activeSet.read (fun s => .cell (toCell s.insertId)) (.cell 0)
  | warningCount => component.activeSet.read (fun s => .cell (toCell s.warningCount)) (.cell 0)
  | execTime unit =>
    (Pointer.ofOption component.activeCache).read
      (fun r => .cell (toCell (if unit = 1 then r.execTimeMicros.tdiv 1000 else r.execTimeMicros))) (.cell 0)
  | query => (Pointer.ofOption component.activeCache).read (fun r => .text r.queryString) (.text "")
  | count what =>
    if what = 2 then (Pointer.ofOption component.activeCache).read (fun r => .cell r.resultCount) (.cell 0)
    else component.activeSet.read (fun s => .cell (if what = 1 then s.fieldCount else s.rowCount)) (.cell 0)

structure ResultCache where
  component : Component := {}
  savedCaches : Table Int QueryResult := .empty
  nextCache : Int := 1

namespace ResultCache

def saveActiveCache (cache : ResultCache) : ResultCache × Int :=
  match cache.component.activeCache with
  | none => (cache, 0)
  | some result =>
    ({ cache with
       savedCaches := cache.savedCaches.emplace cache.nextCache result
       nextCache := cache.nextCache + 1 }, cache.nextCache)

def activateSavedCache (cache : ResultCache) (cacheId : Int) : ResultCache × Bool :=
  match cache.savedCaches cacheId with
  | none => (cache, false)
  | some result => ({ cache with component := cache.component.setActiveCache result 0 }, true)

def deleteSavedCache (cache : ResultCache) (cacheId : Int) : ResultCache × Bool :=
  ({ cache with savedCaches := cache.savedCaches.erase cacheId }, (cache.savedCaches cacheId).isSome)

/-- The caches' part of `reset()`. -/
def reset (cache : ResultCache) : ResultCache :=
  { component := cache.component.clearActiveCache, savedCaches := .empty, nextCache := 1 }

/-- What is left of `RunSyncQuery` once the worker has answered. -/
def syncQuery (cache : ResultCache) (done : QueryJob) (useCache : Bool) : ResultCache × Int :=
  match done.succeeded, done.result with
  | true, some result =>
    let shown := { cache with component := cache.component.setActiveCache result 0 }
    if useCache then shown.saveActiveCache else (shown, 0)
  | _, _ => (cache, 0)

/-- The script whose callback `dispatchJob` gets to run. -/
def callbackScript (component : Component) (job : QueryJob) : Option AMX :=
  (component.resolveScript job).filter fun amx =>
    !component.boundPlayerGone job && job.succeeded && job.callback != "" && amx.findPublic job.callback

/-- `dispatchJob` as far as it sets the active cache, before the callback runs. -/
def enterCallback (component : Component) (job : QueryJob) : Component :=
  match callbackScript component job, job.result with
  | some _, some result => component.setActiveCache result 0
  | _, _ => component

/-- `completed` is what the workers have put into the sink. While a callback runs,
nothing else is dispatched. -/
structure State where
  cache : ResultCache := {}
  completed : List QueryJob := []
  calling : Bool := false

inductive Event where
  | load (pawn : Option Pawn) (core : Option (Int → Option Nat))
  | perform (job : QueryJob) (performance : Performance)
  | dispatch (job : QueryJob)
  | leaveCallback
  | runSyncQuery (handle : Int) (sql : String) (performance : Performance) (useCache : Bool)
  | retain
  | activate (cacheId : Int)
  | release (cacheId : Int)
  | deactivate
  | selectSet (resultIndex : Int)
  | reset

def step (state : State) : Event → Option State
  | .load pawn core =>
    some { state with cache := { state.cache with component := { state.cache.component with pawn, core } } }
  | .perform job performance =>
    some { state with completed := state.completed ++ [job.complete (performance.outcome job)] }
  | .dispatch job =>
    if state.calling = false ∧ state.completed.head? = some job then
      some
        { cache := { state.cache with component := enterCallback state.cache.component job }
          completed := state.completed.tail
          calling := (callbackScript state.cache.component job).isSome }
    else none
  | .leaveCallback =>
    if state.calling then
      some
        { state with
          cache := { state.cache with component := state.cache.component.clearActiveCache }, calling := false }
    else none
  | .runSyncQuery connectionHandle sql performance useCache =>
    let job : QueryJob := { connectionHandle, sql, useCache }
    some { state with cache := (state.cache.syncQuery (job.complete (performance.outcome job)) useCache).1 }
  | .retain => some { state with cache := state.cache.saveActiveCache.1 }
  | .activate cacheId => some { state with cache := (state.cache.activateSavedCache cacheId).1 }
  | .release cacheId => some { state with cache := (state.cache.deleteSavedCache cacheId).1 }
  | .deactivate =>
    some { state with cache := { state.cache with component := state.cache.component.clearActiveCache } }
  | .selectSet resultIndex =>
    some
      { state with
        cache := { state.cache with component := (state.cache.component.setActiveResultIndex resultIndex).1 } }
  | .reset => some { state with cache := state.cache.reset }

end ResultCache
end OmpMySQL
