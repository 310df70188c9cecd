import OmpMySQL.CLibrary
import OmpMySQL.Query

/-! The hashing pool: any number of threads serve one queue, and the main thread
drains what they have finished. -/

namespace OmpMySQL.HashPool

structure Argon2Params where
  timeCost : Nat := 3
  memoryKiB : Nat := 64 * 1024
  parallelism : Nat := 1
  saltLen : Nat := 16
  hashLen : Nat := 32
  deriving DecidableEq, Repr

inductive Variant where
  | argon2d
  | argon2i
  | argon2id
  deriving DecidableEq, Repr

abbrev Salt := List (Fin 256)

/-- `argon2id_hash_encoded`, which may fail, and `argon2_verify`. -/
structure Argon2 where
  hashEncoded : Argon2Params → String → Salt → Option String
  verifyAs : String → String → Variant → Bool

/-- The salt is what `csprng` draws. -/
def Argon2.hashArgon2id (argon2 : Argon2) (password : String) (salt : Salt) (p : Argon2Params := {}) : String :=
  ((argon2.hashEncoded p password salt).map cString).getD ""

def Argon2.verify (argon2 : Argon2) (password encoded : String) : Bool :=
  if encoded = "" then false
  else
    argon2.verifyAs (cString encoded) password .argon2id || argon2.verifyAs (cString encoded) password .argon2i ||
      argon2.verifyAs (cString encoded) password .argon2d

/-- The part of `hashLoop()` between its two locks. -/
def perform (argon2 : Argon2) (salt : Salt) (job : HashJob) : HashJob :=
  match job.op with
  | .hash => { job with result := argon2.hashArgon2id job.password salt }
  | .verify => { job with verified := argon2.verify job.password job.hash }

/-- The serial is the identity of the `unique_ptr`. -/
structure Ticket where
  serial : Nat
  job : HashJob
  deriving DecidableEq, Repr

inductive Thread where
  | waiting
  | holding (ticket : Ticket)
  | hashed (ticket : Ticket)
  | exited
  deriving DecidableEq, Repr

inductive Main where
  | free
  | joining
  | stopped
  deriving DecidableEq, Repr

/-- `enqueued` are the jobs as they were enqueued, by serial. -/
structure State where
  running : Bool := false
  threads : List Thread := []
  input : List Ticket := []
  output : List Ticket := []
  drained : List Ticket := []
  main : Main := .free
  enqueued : List HashJob := []
  deriving DecidableEq, Repr

inductive Event where
  | enqueueHash (job : HashJob)
  | drainHashes
  | stopHashing
  | join
  | take (thread : Nat)
  | perform (thread : Nat) (salt : Salt)
  | deliver (thread : Nat)
  | exit (thread : Nat)
  deriving DecidableEq, Repr

def State.startHashing (state : State) (threads : Nat) : State :=
  if state.running then state
  else { state with running := true, threads := List.replicate (if threads < 1 then 1 else threads) .waiting }

/-- What a thread does while it holds a lock is one step. -/
def step (argon2 : Argon2) (state : State) : Event → Option State
  | .enqueueHash job =>
    if state.main = .free then
      some { state with
        input := state.input ++ [{ serial := state.enqueued.length, job }]
        enqueued := state.enqueued ++ [job] }
    else none
  | .drainHashes =>
    if state.main = .free then some { state with drained := state.drained ++ state.output, output := [] } else none
  | .stopHashing =>
    if state.main = .free then
      some (if state.running then { state with running := false, main := .joining } else { state with main := .stopped })
    else none
  | .join =>
    if state.main = .joining ∧ state.threads.all (· == .exited) then
      some { state with threads := [], main := .stopped }
    else none
  | .take thread =>
    match state.threads[thread]?, state.input with
    | some .waiting, ticket :: rest =>
      some { state with threads := state.threads.set thread (.holding ticket), input := rest }
    | _, _ => none
  | .perform thread salt =>
    match state.threads[thread]? with
    | some (.holding ticket) =>
      if salt.length = ({} : Argon2Params).saltLen then
        let done := { ticket with job := HashPool.perform argon2 salt ticket.job }
        some { state with threads := state.threads.set thread (.hashed done) }
      else none
    | _ => none
  | .deliver thread =>
    match state.threads[thread]? with
    | some (.hashed ticket) =>
      some { state with threads := state.threads.set thread .waiting, output := state.output ++ [ticket] }
    | _ => none
  | .exit thread =>
    if state.threads[thread]? = some .waiting ∧ state.running = false ∧ state.input = [] then
      some { state with threads := state.threads.set thread .exited }
    else none

end OmpMySQL.HashPool
