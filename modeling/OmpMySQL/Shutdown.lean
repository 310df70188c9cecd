import OmpMySQL.Library.Monitor
import OmpMySQL.Library.Transition

/-! The wait of the worker loops and the shutdown that ends it, one atomic access
at a time. `ConnectionWorker` has one thread behind its condition variable, the
hashing pool has any number. -/

namespace OmpMySQL.Shutdown
open Library

inductive Place where
  | executing
  | exited
  deriving DecidableEq, Repr

abbrev Thread := Waiter Place

inductive Decision where
  | take
  | leave
  | again
  deriving DecidableEq, Repr

/-- The main thread inside `enqueue()` or `stop()`. `cleared` has reset the
running flag and not notified yet. -/
inductive Main where
  | free
  | notifying
  | cleared
  | joining
  deriving DecidableEq, Repr

structure State where
  running : Bool
  queued : Nat := 0
  threads : List Thread
  main : Main := .free
  deriving DecidableEq, Repr

inductive Event where
  | acquire (thread : Nat)
  | evaluate (thread : Nat)
  | block (thread : Nat)
  | wakeSpuriously (thread : Nat)
  | proceed (thread : Nat)
  | complete (thread : Nat)
  | push
  | notifyOne (woken : Option Nat)
  | exchangeRunning
  | notifyAll
  | join
  deriving DecidableEq, Repr

/-- The two loops differ in what they do after the wait, and the two shutdowns in
what they do after the join. -/
structure Loop where
  decision : (running empty : Bool) → Decision
  joined : State → State

namespace ConnectionWorker

def initial : State := { running := true, threads := [.entering] }

/-- `ConnectionWorker::loop()`, and the queue `stop()` clears last. -/
def loop : Loop where
  decision running empty := if empty then (if !running then .leave else .again) else .take
  joined state := { state with queued := 0 }

end ConnectionWorker

namespace QueryEngine

def startHashing (threads : Nat) : State :=
  { running := true, threads := List.replicate (if threads < 1 then 1 else threads) .entering }

/-- `QueryEngine::hashLoop()`, and the threads `stopHashing()` forgets. -/
def hashLoop : Loop where
  decision running empty := if !running && empty then .leave else if empty then .again else .take
  joined state := { state with threads := [] }

end QueryEngine

inductive Pool where
  | connectionWorker
  | hashing (threads : Nat)

def Pool.loop : Pool → Loop
  | .connectionWorker => ConnectionWorker.loop
  | .hashing _ => QueryEngine.hashLoop

def Pool.initial : Pool → State
  | .connectionWorker => ConnectionWorker.initial
  | .hashing threads => QueryEngine.startHashing threads

namespace State

def predicate (state : State) : Bool := !state.running || state.queued != 0

def moveThread (state : State) (thread : Nat) (act : Thread → Option Thread) : Option State :=
  (Library.moveThread state.threads thread act).map fun threads => { state with threads := threads }

def proceed (loop : Loop) (state : State) (thread : Nat) : Option State :=
  match loop.decision state.running (state.queued == 0) with
  | .take => (state.moveThread thread (Waiter.resume (.outside .executing))).map fun next =>
      { next with queued := state.queued - 1 }
  | .leave => state.moveThread thread (Waiter.resume (.outside .exited))
  | .again => state.moveThread thread (Waiter.resume .entering)

end State

def completed : Thread → Option Thread
  | .outside .executing => some .entering
  | _ => none

def step (loop : Loop) (state : State) : Event → Option State
  | .acquire thread => if mutexFree state.threads then state.moveThread thread Waiter.acquire else none
  | .evaluate thread => state.moveThread thread (Waiter.evaluate state.predicate)
  | .block thread => state.moveThread thread Waiter.block
  | .wakeSpuriously thread => state.moveThread thread Waiter.wake
  | .proceed thread => state.proceed loop thread
  | .complete thread => state.moveThread thread completed
  | .push =>
    if state.main = .free ∧ mutexFree state.threads then
      some { state with queued := state.queued + 1, main := .notifying }
    else none
  | .notifyOne woken =>
    if state.main = .notifying then
      (Library.notifyOne state.threads woken).map fun threads => { state with threads := threads, main := .free }
    else none
  | .exchangeRunning =>
    if state.main = .free then
      some (if state.running then { state with running := false, main := .cleared } else state)
    else none
  | .notifyAll =>
    if state.main = .cleared then
      some { state with threads := Library.notifyAll state.threads, main := .joining }
    else none
  | .join =>
    if state.main = .joining ∧ state.threads.all (· == .outside .exited) then
      some (loop.joined { state with main := .free })
    else none

/-- The main thread waits for a thread that nothing will wake any more: only the
main thread notifies. -/
def LostWakeup (state : State) : Prop := state.main = .joining ∧ .blocked ∈ state.threads

end OmpMySQL.Shutdown
