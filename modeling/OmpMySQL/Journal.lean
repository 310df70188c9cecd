import OmpMySQL.Proofs.EngineFlow

/-! The engine with a note about each job: what held when it was enqueued, kept
until the job is handed to its dispatch or to the caller of `runSync()`. The code
keeps no such notes; they are what its promises about jobs refer to. -/

namespace OmpMySQL.Engine

structure Journal (κ : Type) (α : Type) where
  engine : State κ := {}
  notes : List (Ticket κ × α) := []

variable {κ : Type} [DecidableEq κ] {α : Type}

def Event.handedOver : Event κ → List (Finished κ)
  | .dispatch done | .wake done => [done]
  | _ => []

namespace Journal

def step (note : Ticket κ → α) (journal : Journal κ α) (event : Event κ) : Option (Journal κ α) :=
  (Engine.step journal.engine event).map fun engine =>
    { engine
      notes := (journal.notes ++ event.enqueued.map fun ticket => (ticket, note ticket)).filter
        fun entry => entry.1 ∉ event.handedOver.map Finished.ticket }

def noteOf (journal : Journal κ α) (ticket : Ticket κ) : Option α :=
  (journal.notes.find? (·.1 = ticket)).map (·.2)

end Journal
end OmpMySQL.Engine
