import OmpMySQL.Library.Registry
import OmpMySQL.Proofs.ModelWrites

/-! Whose memory the variables of a model are in, and whether that script is still
there when they are read or written. -/

namespace OmpMySQL
open Library

namespace ModelVariables
variable {host : Host} {state after : State}

structure Sound (host : Host) (state : State) : Prop where
  positive : 1 ≤ state.nextModel
  registered : ∀ handle m, state.component.models handle = some m → 1 ≤ handle ∧ handle < state.nextModel
  bound : ∀ handle m, state.component.models handle = some m → m.Within (host.owner · ∈ state.loaded)
  accesses : OnlyLoaded host state

/-- A script is unloaded only when no model has a variable of its bound. -/
def Unbound (host : Host) (state : State) : Event → Bool
  | .unload script => !state.binds host script
  | _ => true

theorem binds_of_bound (sound : Sound host state) {handle : Int} {m : Model} {field : ModelField} {addr : Nat}
    (found : state.component.models handle = some m) (member : field ∈ m.fields) (bound : field.addr = some addr) :
    state.binds host (host.owner addr) = true := by
  apply List.any_eq_true.mpr
  refine ⟨handle, mem_given.mpr (sound.registered handle m found), ?_⟩
  rw [found, Option.any_some]
  apply List.any_eq_true.mpr
  refine ⟨field, member, ?_⟩
  simp only [bound, Option.any_some, decide_true]

theorem onlyLoaded_access (only : OnlyLoaded host state) {addrs : List Nat}
    (within : ∀ addr ∈ addrs, host.owner addr ∈ state.loaded) : OnlyLoaded host (state.access addrs) := by
  intro access present
  rcases List.mem_append.mp present with old | new
  · exact only access old
  · obtain ⟨addr, member, rfl⟩ := List.mem_map.mp new
    exact within addr member

theorem Sound.access (sound : Sound host state) {addrs : List Nat}
    (within : ∀ addr ∈ addrs, host.owner addr ∈ state.loaded) : Sound host (state.access addrs) where
  positive := sound.positive
  registered := sound.registered
  bound := sound.bound
  accesses := onlyLoaded_access sound.accesses within

/-- Nothing but the bindings and the scripts matters to soundness. -/
theorem Sound.rebind (sound : Sound host state) {component : Component} (same : state.component.SameBindings component)
    (gate : Gate.State) : Sound host { state with component, gate } where
  positive := sound.positive
  registered handle m found := by
    obtain ⟨old, held, _⟩ := same.models handle m found
    exact sound.registered handle old held
  bound handle m found := by
    obtain ⟨old, held, fields⟩ := same.models handle m found
    have within := sound.bound handle old held
    unfold Model.Within at within ⊢
    rw [fields]
    simpa only [State.loaded, State.pawn, same.pawn] using within
  accesses := sound.accesses

/-- The addresses an operation on the model reads. -/
def State.readBy (state : State) (model : Int) : List Nat :=
  match state.component.models model with
  | none => []
  | some m => if (state.gate.registry.getConnection m.connectionHandle).isSome then m.reads else []

theorem Sound.readBy (sound : Sound host state) (model : Int) :
    ∀ addr ∈ state.readBy model, host.owner addr ∈ state.loaded := by
  intro addr present
  unfold State.readBy at present
  split at present
  next => cases present
  next m found =>
    split at present
    next => exact (sound.bound model m found).reads addr present
    next => cases present

theorem sound_execute (sound : Sound host state) {model op : Int} {callback : String} {args : List CallbackArg}
    (executed : state.execute host model op callback args = some after) : Sound host after := by
  unfold State.execute at executed
  have same := sameBindings_modelExecute host.reader host.escape state.component state.gate.registry model op callback args
  generalize modelExecute host.reader host.escape state.component state.gate.registry model op callback args = made
    at executed same
  obtain ⟨component, job⟩ := made
  have accessed := sound.access (sound.readBy model)
  cases job with
  | none =>
    cases executed
    exact accessed.rebind same state.gate
  | some job =>
    obtain ⟨gate, _, rfl⟩ := Option.map_eq_some_iff.mp executed
    exact accessed.rebind same gate

theorem Sound.setModel (sound : Sound host state) {handle next : Int} {m : Model} (issued : 1 ≤ handle ∧ handle < next)
    (later : state.nextModel ≤ next) (bound : m.Within (host.owner · ∈ state.loaded)) :
    Sound host { state with component := state.component.setModel handle m, nextModel := next } where
  positive := le_trans sound.positive later
  registered other held found := by
    simp only [Component.setModel] at found
    split at found
    next same => exact same ▸ issued
    next =>
      have earlier := sound.registered other held found
      exact ⟨earlier.1, lt_of_lt_of_le earlier.2 later⟩
  bound other held found := by
    simp only [Component.setModel] at found
    split at found
    next =>
      cases found
      exact bound
    next => exact sound.bound other held found
  accesses := sound.accesses

theorem Sound.load (sound : Sound host state) (amx : AMX) (gamemode : Bool)
    (fresh : amx.script ∉ state.pawn.loaded.map AMX.script) (scripts : Nat) :
    Sound host
      { state with component := { state.component with pawn := some (state.pawn.load amx gamemode fresh) }, scripts } where
  positive := sound.positive
  registered := sound.registered
  bound handle m found := (sound.bound handle m found).mono fun _ present => Pawn.loaded_load _ gamemode fresh present
  accesses := sound.accesses

theorem Sound.unload (sound : Sound host state) {script : Nat} (unbound : state.binds host script = false) :
    Sound host { state with component := { state.component with pawn := some (state.pawn.unload script) } } where
  positive := sound.positive
  registered := sound.registered
  bound handle m found field member addr bound := by
    refine Pawn.loaded_unload ?_ (sound.bound handle m found field member addr bound)
    intro same
    rw [← same, binds_of_bound sound found member bound] at unbound
    cases unbound
  accesses := sound.accesses

theorem Sound.forget (sound : Sound host state) (model : Int) :
    Sound host { state with component := { state.component with models := Table.erase state.component.models model } } where
  positive := sound.positive
  registered handle m found := sound.registered handle m (Table.erase_eq_some.mp found).2
  bound handle m found := sound.bound handle m (Table.erase_eq_some.mp found).2
  accesses := sound.accesses

theorem sound_step {event : Event} (sound : Sound host state) (allowed : Unbound host state event = true)
    (stepped : step host state event = some after) : Sound host after := by
  cases event with
  | load publics gamemode =>
    simp only [step, Option.dite_none_right_eq_some, Option.some.injEq] at stepped
    obtain ⟨fresh, rfl⟩ := stepped
    exact sound.load _ gamemode fresh.2 _
  | unload script =>
    simp only [step, Option.ite_none_right_eq_some, Option.some.injEq] at stepped
    obtain ⟨_, rfl⟩ := stepped
    exact sound.unload (Bool.not_eq_true' _ ▸ allowed)
  | create table handle =>
    simp only [step, Option.ite_none_right_eq_some] at stepped
    obtain ⟨_, made⟩ := stepped
    have positive := sound.positive
    split at made
    next =>
      cases made
      exact sound
    next =>
      cases made
      have later : state.nextModel ≤ state.nextModel + 1 := Int.le_add_one (Int.le_refl _)
      apply sound.setModel ⟨positive, Int.lt_add_one_of_le (Int.le_refl _)⟩ later
      intro field member
      cases member
  | destroy model =>
    simp only [step, Option.ite_none_right_eq_some, Option.some.injEq] at stepped
    obtain ⟨_, rfl⟩ := stepped
    exact sound.forget model
  | call script model call =>
    simp only [step, Option.ite_none_right_eq_some] at stepped
    obtain ⟨⟨_, present, own⟩, called⟩ := stepped
    cases found : state.component.models model with
    | none =>
      simp only [found, Option.some.injEq] at called
      exact called ▸ sound
    | some m =>
      simp only [found, Option.some.injEq] at called
      subst called
      apply sound.setModel (sound.registered model m found) (Int.le_refl _)
      apply (sound.bound model m found).apply
      intro addr bound
      rw [bound, Option.all_some, decide_eq_true_eq] at own
      exact own ▸ present
  | execute model op callback args =>
    simp only [step, Option.ite_none_right_eq_some] at stepped
    exact sound_execute sound stepped.2
  | save model callback args =>
    simp only [step, Option.ite_none_right_eq_some] at stepped
    obtain ⟨_, saved⟩ := stepped
    cases found : state.component.models model with
    | none =>
      simp only [found, Option.some.injEq] at saved
      exact saved ▸ sound
    | some m =>
      simp only [found] at saved
      refine sound_execute (sound.access ?_) saved
      intro addr present
      exact (sound.bound model m found).keyField (Option.mem_toList.mp present)
  | dispatch done =>
    obtain ⟨gate, _, rfl⟩ := Option.map_eq_some_iff.mp stepped
    have written : ∀ addr ∈ state.component.dispatchWrites done.job, host.owner addr ∈ state.loaded := by
      intro addr present
      unfold Component.dispatchWrites at present
      split at present
      next => exact Component.writes_within (fun m found => sound.bound done.job.modelHandle m found) addr present
      next => cases present
    exact (sound.access written).rebind (Component.sameBindings_dispatchJob host.strtof state.component done.job) gate
  | gate event =>
    simp only [step, Option.ite_none_left_eq_some] at stepped
    obtain ⟨gate, _, rfl⟩ := Option.map_eq_some_iff.mp stepped.2
    exact sound.rebind (.refl state.component) gate
  | reset =>
    obtain ⟨gate, _, rfl⟩ := Option.map_eq_some_iff.mp stepped
    refine ⟨Int.le_refl 1, ?_, ?_, sound.accesses⟩
    · intro handle m found
      cases found
    · intro handle m found
      cases found

theorem sound_start : Sound host {} where
  positive := Int.le_refl 1
  registered _ _ found := by cases found
  bound _ _ found := by cases found
  accesses _ present := by cases present

/-- As long as no script is unloaded with a variable of its still bound, models only
read and write variables of scripts that are there. -/
theorem variables_loaded {events : List Event}
    (run : Run (Guarded (Unbound host · ·) (Steps (step host))) {} events state) : OnlyLoaded host state := by
  have sound : Sound host state := by
    apply run.invariant sound_start
    intro before event after held move
    exact sound_step held move.1 move.2
  exact sound.accesses

section Filterscript

/-- Each script has a hundred cells. -/
private def hundreds : Host where
  owner addr := addr / 100
  reader := { getString := fun _ _ => "", floatText := fun _ => "0.000000" }
  escape _ text := text
  strtof _ := 0

private def finding : Engine.Ticket Nat where
  serial := 0
  conn := 5
  job :=
    { connectionHandle := 1, sql := "SELECT `id`, `score` FROM `players` WHERE `id` = 0 LIMIT 1", modelHandle := 1, modelOp := 1 }

private def found : Engine.Finished Nat where
  ticket := finding
  outcome :=
    { succeeded := true, errorCode := 0, error := ""
      result := { sets := [{ fields := [⟨"id", 3⟩, ⟨"score", 3⟩], rows := [[{ value := "4" }, { value := "250" }]] }] } }

/-- A filterscript finds a row into two variables of its own. -/
private def binding : List Event :=
  [.load ["OnGameModeInit"] true, .load [] false, .gate (.connect 5 false), .create "players" 1, .call 1 1 (.bindInt 100 "id"),
    .call 1 1 (.bindInt 101 "score"), .call 1 1 (.setKey "id"), .execute 1 Model.opFind "" [], .gate (.engine .count),
    .gate (.engine (.pop finding)), .gate (.engine (.send finding))]

private def completing : List Event :=
  [.gate (.engine (.finish found)), .gate (.engine (.deliver found)), .gate (.engine .drain), .dispatch found]

theorem variables_loaded_destroyed :
    ∃ state, exec (guarded (Unbound hundreds · ·) (step hundreds)) {} (binding ++ completing ++ [.destroy 1, .unload 1]) =
      some state ∧ OnlyLoaded hundreds state := by
  have executes : (exec (guarded (Unbound hundreds · ·) (step hundreds)) {}
      (binding ++ completing ++ [.destroy 1, .unload 1])).isSome := by decide +kernel
  obtain ⟨state, done⟩ := Option.isSome_iff_exists.mp executes
  exact ⟨state, done, variables_loaded (Run.of_guarded_exec done)⟩

/-- The filterscript is unloaded while its query is with the worker. -/
theorem written_after_unload :
    ¬ ∀ (host : Host) (events : List Event) (state : State),
      Run (Steps (step host)) {} events state → OnlyLoaded host state := by
  intro always
  have executes : ((exec (step hundreds) {} (binding ++ [.unload 1] ++ completing)).map (·.accesses.getLast?)) =
      some (some ⟨101, [0]⟩) := by decide +kernel
  obtain ⟨state, done, last⟩ := Option.map_eq_some_iff.mp executes
  have loaded := always hundreds _ state (Run.of_exec done) _ (List.mem_of_getLast? last)
  cases List.mem_singleton.mp loaded

end Filterscript
end ModelVariables
end OmpMySQL
