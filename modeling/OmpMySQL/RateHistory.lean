import OmpMySQL.Gate
import OmpMySQL.Library.Window

/-! The gate with a record of when each connection's submissions were let through.
The code keeps only a pruned log of these times. -/

namespace OmpMySQL.RateHistory
open Library

/-- `accepted` begins anew with a connection's handle. -/
structure State where
  gate : Gate.State := {}
  accepted : Int → List Int := fun _ => []

namespace State

def limits (state : State) (handle : Int) : QueryGuards := (state.gate.registry.policy.guards handle).getD {}

/-- The rate window of a handle, in nanoseconds. -/
def width (state : State) (handle : Int) : Int := 1000000 * (state.limits handle).rateWindow

def record (state : State) : Gate.Event → Int → List Int
  | .submit _ job .none =>
    Function.update state.accepted job.connectionHandle (state.accepted job.connectionHandle ++ [state.gate.clock])
  | .removeConnection handle => Function.update state.accepted handle []
  | .clearConnections | .reset => fun _ => []
  | _ => state.accepted

end State

def step (state : State) (event : Gate.Event) : Option State :=
  (Gate.step state.gate event).map fun gate => { gate, accepted := state.record event }

/-- The rate limit that the event's submission on the handle meets. -/
def meets (handle : Int) (limit : Nat → Bool) (state : State) : Gate.Event → Bool
  | .submit _ job _ => job.connectionHandle ≠ handle || limit (state.limits handle).maxQueriesPerWindow
  | _ => true

/-- Every submission on the handle meets a limit. -/
def Limited (handle : Int) (state : State) (event : Gate.Event) : Prop := meets handle (0 < ·) state event = true

instance (handle : Int) (state : State) (event : Gate.Event) : Decidable (Limited handle state event) :=
  inferInstanceAs (Decidable (_ = true))

/-- Every submission on the handle meets this limit. -/
def LimitedTo (handle : Int) (limit : Nat) (state : State) (event : Gate.Event) : Prop :=
  meets handle (· = limit) state event = true

instance (handle : Int) (limit : Nat) (state : State) (event : Gate.Event) :
    Decidable (LimitedTo handle limit state event) :=
  inferInstanceAs (Decidable (_ = true))

end OmpMySQL.RateHistory
