import OmpMySQL.Guards
import OmpMySQL.Library.Table
import OmpMySQL.Library.Transition

/-! The component's tables of live connections, all under the connection's handle. -/

namespace OmpMySQL
open Library

/-- Connections are numbered. A worker is known by the connection it was made for. -/
structure Connections where
  connections : Table Int Nat := .empty
  workers : Table Int Nat := .empty
  policy : GuardTable := {}
  nextHandle : Int := 1

/-- What a submission leaves, and the worker that gets the job. -/
structure Submitted where
  registry : Connections
  reason : GuardReject
  worker : Option Nat := none

namespace Connections

def addConnection (registry : Connections) (conn : Option Nat) (multiStatements : Bool) : Connections × Int :=
  match conn with
  | none => (registry, 0)
  | some raw =>
    let handle := registry.nextHandle
    ({ connections := registry.connections.emplace handle raw
       workers := registry.workers.emplace handle raw
       policy :=
         { registry.policy with
           multiStatementAllowed := Table.put registry.policy.multiStatementAllowed handle multiStatements
           guards := Table.put registry.policy.guards handle {} }
       nextHandle := handle + 1 }, handle)

/-- Every handle given out so far, closed ones included. -/
def handles (registry : Connections) : List Int :=
  (List.range (registry.nextHandle - 1).toNat).map fun below : Nat => (below : Int) + 1

def getConnection (registry : Connections) (handle : Int) : Option Nat := registry.connections handle

/-- The table is searched in the order of its handles: an address belongs to one live
connection, so the order decides nothing. -/
def connectionHandleOf (registry : Connections) (conn : Option Nat) : Int :=
  match conn with
  | none => 0
  | some raw => (registry.handles.find? fun handle => registry.connections handle = some raw).getD 0

def removeConnection (registry : Connections) (handle : Int) : Connections × Bool :=
  ({ registry with
     workers := registry.workers.erase handle
     policy :=
       { multiStatementAllowed := Table.erase registry.policy.multiStatementAllowed handle
         guards := Table.erase registry.policy.guards handle
         rateLog := Table.erase registry.policy.rateLog handle }
     connections := registry.connections.erase handle }, (registry.connections handle).isSome)

def clearConnections (registry : Connections) : Connections :=
  { registry with workers := .empty, connections := .empty, policy := {} }

/-- What `enqueueJob` and `runJobSync` do before the worker's own `enqueue` or
`runSync`. `pending` is what each worker answers for itself. -/
def submit (registry : Connections) (job : QueryJob) (pending : Nat → Int) (now : Int) : Submitted :=
  match registry.workers job.connectionHandle with
  | none => { registry, reason := .unknownHandle }
  | some worker =>
    let checked := registry.policy.checkGuards job (pending worker) now
    { registry := { registry with policy := checked.1 }
      reason := checked.2
      worker := if checked.2 = .none then some worker else none }

def enqueueJob (registry : Connections) (job : QueryJob) (pending : Nat → Int) (now : Int) : Submitted :=
  registry.submit job pending now

def runJobSync (registry : Connections) (job : QueryJob) (pending : Nat → Int) (now : Int) : Submitted :=
  registry.submit job pending now

def guardsFor (registry : Connections) (handle : Int) : Option QueryGuards := registry.policy.guards handle

def setGuards (registry : Connections) (handle : Int) (g : QueryGuards) : Connections :=
  { registry with policy := { registry.policy with guards := Table.put registry.policy.guards handle g } }

/-- `mysql_set_limit`. -/
def setLimit (registry : Connections) (handle type value : Int) : Connections × Bool :=
  match registry.guardsFor handle with
  | none => (registry, false)
  | some g =>
    if value < 0 then (registry, false)
    else if type = 0 then (registry.setGuards handle { g with maxQueryLength := value.toNat }, true)
    else if type = 1 then (registry.setGuards handle { g with maxPendingQueries := value }, true)
    else if type = 2 then
      (registry.setGuards handle { g with maxQueriesPerWindow := value.toNat, rateWindow := 1000 }, true)
    else (registry, false)

/-- The connections' part of `reset()`. -/
def reset (registry : Connections) : Connections := { registry.clearConnections with nextHandle := 1 }

inductive Event where
  | addConnection (conn : Option Nat) (multiStatements : Bool)
  | removeConnection (handle : Int)
  | enqueueJob (job : QueryJob) (pending : Nat → Int) (now : Int)
  | runJobSync (job : QueryJob) (pending : Nat → Int) (now : Int)
  | setLimit (handle type value : Int)
  | clearConnections
  | reset

def step (registry : Connections) : Event → Option Connections
  | .addConnection conn multiStatements => some (registry.addConnection conn multiStatements).1
  | .removeConnection handle => some (registry.removeConnection handle).1
  | .enqueueJob job pending now => some (registry.enqueueJob job pending now).registry
  | .runJobSync job pending now => some (registry.runJobSync job pending now).registry
  | .setLimit handle type value => some (registry.setLimit handle type value).1
  | .clearConnections => some registry.clearConnections
  | .reset => some registry.reset

end Connections
end OmpMySQL
