import OmpMySQL.Dispatch
import OmpMySQL.Journal

/-! Queries bound to players, while players come and go. A player id is a slot: the
next player to connect may be given the id of one who has left. -/

namespace OmpMySQL.Sessions
open Engine

/-- A callback that ran, with who held the bound id when its job was enqueued and
who holds it now. -/
structure Callback (κ : Type) where
  ticket : Ticket κ
  heldThen : Option Nat
  heldNow : Option Nat

/-- `players` gives the session holding each id. No two connections share a
session number: `sessions` counts them. -/
structure State (κ : Type) where
  journal : Journal κ (Option Nat) := {}
  players : Int → Option Nat := fun _ => none
  sessions : Nat := 0
  component : Component := {}
  callbacks : List (Callback κ) := []

inductive Event (κ : Type) where
  | engine (event : Engine.Event κ)
  | connect (player : Int)
  | disconnect (player : Int)
  | loadScripts (pawn : Option Pawn)

variable {κ : Type} [DecidableEq κ]

def State.free (state : State κ) : Bool := state.journal.engine.main = .free

def State.dispatch (strtof : String → Cell) (state : State κ) (done : Finished κ) : State κ :=
  let run := { state.component with core := some state.players }.dispatchJob strtof done.job
  let callback : Callback κ :=
    { ticket := done.ticket
      heldThen := (state.journal.noteOf done.ticket).join
      heldNow := state.players done.job.boundPlayer }
  { state with
    component := run.component
    callbacks := state.callbacks ++ if run.calls.any (·.upcall = .callback) then [callback] else [] }

def step (strtof : String → Cell) (state : State κ) : Event κ → Option (State κ)
  | .engine event =>
    (state.journal.step (fun ticket => state.players ticket.job.boundPlayer) event).map fun journal =>
      { event.handedOver.foldl (State.dispatch strtof) state with journal }
  | .connect player =>
    if state.free ∧ state.players player = none then
      some { state with
        players := fun other => if other = player then some state.sessions else state.players other
        sessions := state.sessions + 1 }
    else none
  | .disconnect player =>
    if state.free then
      some { state with players := fun other => if other = player then none else state.players other }
    else none
  | .loadScripts pawn =>
    if state.free then some { state with component := { state.component with pawn } } else none

/-- A callback bound to a player runs only for the player who was there when its
query was enqueued and has not left since. -/
def NeverCrosses (state : State κ) : Prop :=
  ∀ call ∈ state.callbacks, 0 ≤ call.ticket.job.boundPlayer →
    ∃ session, call.heldThen = some session ∧ call.heldNow = some session

end OmpMySQL.Sessions
