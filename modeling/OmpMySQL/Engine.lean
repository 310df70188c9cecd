import Mathlib.Logic.Function.Basic
import OmpMySQL.Query

/-! The asynchronous query engine: one worker thread and one input queue for each
connection, a completed sink they all share, and the main thread that enqueues,
waits, closes and drains. Every event is one atomic step of one thread. -/

namespace OmpMySQL.Engine

/-- A job on its way through the engine. The serial is the identity of the
`unique_ptr` that carries it. -/
structure Ticket (κ : Type) where
  serial : Nat
  conn : κ
  job : QueryJob
  deriving DecidableEq, Repr

def Ticket.isQuery {κ : Type} (ticket : Ticket κ) : Bool := ticket.job.statementToClose.isNone

def Ticket.isAsync {κ : Type} (ticket : Ticket κ) : Bool := ticket.job.syncSignal.isNone

structure Finished (κ : Type) where
  ticket : Ticket κ
  outcome : Outcome
  deriving DecidableEq, Repr

def Finished.job {κ : Type} (done : Finished κ) : QueryJob := done.ticket.job.complete done.outcome

/-- Where a worker stands in `loop()`. `asking` is the whole exchange with the
server, from sending the query until its last result set has been consumed;
`settled` is the moment before `pending_.fetch_sub(1)`. -/
inductive Thread (κ : Type) where
  | waiting
  | holding (ticket : Ticket κ)
  | asking (ticket : Ticket κ)
  | finished (done : Finished κ)
  | settled
  | exited
  deriving DecidableEq, Repr

structure ConnectionWorker (κ : Type) where
  running : Bool := true
  pending : Int := 0
  input : List (Ticket κ) := []
  thread : Thread κ := .waiting
  deriving DecidableEq, Repr

inductive Request where
  | showSslCipher
  | setNames
  | statistics
  deriving DecidableEq, Repr

inductive ConnectionNative where
  | errno
  | error
  | getTlsCipher
  | isTlsEnabled
  | escape
  | format
  | setCharset
  | getCharset
  | serverStatus
  | prepare
  | modelCreate
  deriving DecidableEq, Repr

/-- `sslCipher()` asks the server only where the client library names no cipher.
The natives that ask nothing read client-side state or build an object. -/
def ConnectionNative.request (native : ConnectionNative) (clientCipher : String) : Option Request :=
  match native with
  | .getTlsCipher | .isTlsEnabled => if clientCipher = "" then some .showSslCipher else none
  | .setCharset => some .setNames
  | .serverStatus => some .statistics
  | .errno | .error | .escape | .format | .getCharset | .prepare | .modelCreate => none

/-- What the main thread is inside of. `free` covers script code and every native
that does not block; `counting` is `enqueue()` between its push and its add. -/
inductive Main (κ : Type) where
  | free
  | counting (conn : κ) (signal : Option Nat)
  | waitingFor (signal : Nat)
  | joining (conn : κ)
  | asking (conn : κ) (request : Request)
  deriving DecidableEq, Repr

def Main.counted {κ : Type} : Option Nat → Main κ
  | none => .free
  | some serial => .waitingFor serial

/-- `drained` is what `onTick` has taken out of the sink and not yet dispatched;
`promised` holds the jobs handed back through a promise nobody has read yet. -/
structure State (κ : Type) where
  workers : κ → Option (ConnectionWorker κ) := fun _ => none
  completed : List (Finished κ) := []
  drained : List (Finished κ) := []
  promised : List (Finished κ) := []
  main : Main κ := .free
  issued : Nat := 0

inductive Event (κ : Type) where
  | create (conn : κ)
  | enqueue (ticket : Ticket κ)
  | runSync (ticket : Ticket κ)
  | count
  | wake (done : Finished κ)
  | stop (conn : κ)
  | join (conn : κ)
  | drain
  | dispatch (done : Finished κ)
  | call (conn : κ) (native : ConnectionNative) (clientCipher : String)
  | answer
  | pop (ticket : Ticket κ)
  | drop (ticket : Ticket κ)
  | send (ticket : Ticket κ)
  | finish (done : Finished κ)
  | deliver (done : Finished κ)
  | uncount (conn : κ)
  | exit (conn : κ)
  deriving DecidableEq, Repr

variable {κ : Type} [DecidableEq κ]

namespace ConnectionWorker

def push (worker : ConnectionWorker κ) (ticket : Ticket κ) : ConnectionWorker κ :=
  { worker with input := worker.input ++ [ticket] }

def pop (ticket : Ticket κ) (worker : ConnectionWorker κ) : Option (ConnectionWorker κ) :=
  if worker.thread = .waiting ∧ worker.input.head? = some ticket then
    some { worker with input := worker.input.tail, thread := .holding ticket }
  else none

def drop (ticket : Ticket κ) (worker : ConnectionWorker κ) : Option (ConnectionWorker κ) :=
  if worker.thread = .holding ticket ∧ ticket.isQuery = false then
    some { worker with thread := .settled }
  else none

def send (ticket : Ticket κ) (worker : ConnectionWorker κ) : Option (ConnectionWorker κ) :=
  if worker.thread = .holding ticket ∧ ticket.isQuery = true then
    some { worker with thread := .asking ticket }
  else none

/-- A query may also fail before anything is sent. -/
def finish (done : Finished κ) (worker : ConnectionWorker κ) : Option (ConnectionWorker κ) :=
  if done.ticket.isQuery = true ∧
      (worker.thread = .asking done.ticket ∨
        worker.thread = .holding done.ticket ∧ done.outcome.succeeded = false) then
    some { worker with thread := .finished done }
  else none

def deliver (done : Finished κ) (worker : ConnectionWorker κ) : Option (ConnectionWorker κ) :=
  if worker.thread = .finished done then some { worker with thread := .settled } else none

def uncount (worker : ConnectionWorker κ) : Option (ConnectionWorker κ) :=
  if worker.thread = .settled then
    some { worker with pending := worker.pending - 1, thread := .waiting }
  else none

def exit (worker : ConnectionWorker κ) : Option (ConnectionWorker κ) :=
  if worker.thread = .waiting ∧ worker.input = [] ∧ worker.running = false then
    some { worker with thread := .exited }
  else none

end ConnectionWorker

namespace State

def setWorker (state : State κ) (conn : κ) (worker : ConnectionWorker κ) : State κ :=
  { state with workers := Function.update state.workers conn (some worker) }

def onWorker (state : State κ) (conn : κ)
    (act : ConnectionWorker κ → Option (ConnectionWorker κ)) : Option (State κ) :=
  (state.workers conn).bind fun worker => (act worker).map (state.setWorker conn)

/-- The locked push of `enqueue()`. Its add and notification come with `count`. -/
def push (state : State κ) (ticket : Ticket κ) (signal : Option Nat) : Option (State κ) :=
  if state.main = .free ∧ ticket.serial = state.issued ∧ ticket.job.syncSignal = signal then
    (state.onWorker ticket.conn (fun worker => some (worker.push ticket))).map fun next =>
      { next with main := .counting ticket.conn signal, issued := state.issued + 1 }
  else none

end State

def step (state : State κ) : Event κ → Option (State κ)
  | .create conn =>
    if state.main = .free ∧ (state.workers conn).isNone then some (state.setWorker conn {}) else none
  | .enqueue ticket => state.push ticket none
  | .runSync ticket =>
    if ticket.isQuery ∧ (state.workers ticket.conn).any (·.running) then
      state.push ticket (some ticket.serial)
    else none
  | .count =>
    match state.main with
    | .counting conn signal =>
      (state.onWorker conn (fun worker => some { worker with pending := worker.pending + 1 })).map
        fun next => { next with main := .counted signal }
    | _ => none
  | .wake done =>
    if state.main = .waitingFor done.ticket.serial ∧ done ∈ state.promised then
      some { state with promised := state.promised.erase done, main := .free }
    else none
  | .stop conn =>
    if state.main = .free then
      (state.onWorker conn (fun worker => if worker.running then some { worker with running := false } else none)).map
        fun next => { next with main := .joining conn }
    else none
  -- What `stop()` clears after the join goes with the worker its callers erase.
  | .join conn =>
    match state.workers conn with
    | some worker =>
      if state.main = .joining conn ∧ worker.thread = .exited then
        some { state with workers := Function.update state.workers conn none, main := .free }
      else none
    | none => none
  | .drain =>
    if state.main = .free ∧ state.drained = [] then
      some { state with drained := state.completed, completed := [] }
    else none
  | .dispatch done =>
    if state.main = .free ∧ state.drained.head? = some done then
      some { state with drained := state.drained.tail }
    else none
  | .call conn native clientCipher =>
    if state.main = .free ∧ (state.workers conn).isSome then
      match native.request clientCipher with
      | none => some state
      | some request => some { state with main := .asking conn request }
    else none
  | .answer =>
    match state.main with
    | .asking _ _ => some { state with main := .free }
    | _ => none
  | .pop ticket => state.onWorker ticket.conn (ConnectionWorker.pop ticket)
  | .drop ticket => state.onWorker ticket.conn (ConnectionWorker.drop ticket)
  | .send ticket => state.onWorker ticket.conn (ConnectionWorker.send ticket)
  | .finish done => state.onWorker done.ticket.conn (ConnectionWorker.finish done)
  | .deliver done =>
    (state.onWorker done.ticket.conn (ConnectionWorker.deliver done)).map fun next =>
      if done.ticket.isAsync then { next with completed := state.completed ++ [done] }
      else { next with promised := state.promised ++ [done] }
  | .uncount conn => state.onWorker conn ConnectionWorker.uncount
  | .exit conn => state.onWorker conn ConnectionWorker.exit

end OmpMySQL.Engine
