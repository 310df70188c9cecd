import Mathlib.Algebra.Order.Group.Int
import OmpMySQL.Proofs.GuardGate
import OmpMySQL.RateHistory

/-! The rate limit counts exactly the submissions it let through in the window,
though it looks only at a pruned log of them. -/

namespace OmpMySQL.RateHistory
open Library

/-- The window of every connection at all times. -/
def second : Int := 1000000000

/-- The log of a handle answers for its accepted submissions. -/
structure Tracked (state : State) (handle : Int) : Prop where
  sorted : (state.accepted handle).Pairwise (· ≤ ·)
  past : ∀ time ∈ state.accepted handle, time ≤ state.gate.clock
  covers : Window.Covers second state.gate.clock (state.gate.registry.policy.log handle) (state.accepted handle)

structure Sound (state : State) (handle : Int) : Prop where
  gate : Gate.Sound state.gate
  tracked : Tracked state handle

variable {state after : State} {handle : Int}

theorem width_eq (sound : Gate.Sound state.gate) (handle : Int) : state.width handle = second := by
  have window : (state.limits handle).rateWindow = 1000 := sound.orderly.window handle
  rw [State.width, window]
  rfl

theorem recent_eq (sound : Gate.Sound state.gate) (handle : Int) (log : List Int) (now : Int) :
    (state.gate.registry.policy.limits handle).recent log now = Window.since (now - second) log := by
  rw [QueryGuards.recent, sound.orderly.window handle]
  rfl

theorem Tracked.empty (unused : after.accepted handle = []) (unlogged : after.gate.registry.policy.log handle = []) :
    Tracked after handle where
  sorted := by simp [unused]
  past := by simp [unused]
  covers _ _ := by rw [unused, unlogged]

/-- Neither the log nor the record of the handle is touched. -/
theorem Tracked.kept (tracked : Tracked state handle) (same : after.accepted handle = state.accepted handle)
    (logged : after.gate.registry.policy.log handle = state.gate.registry.policy.log handle)
    (order : state.gate.clock ≤ after.gate.clock) : Tracked after handle where
  sorted := by
    rw [same]
    exact tracked.sorted
  past time present := by
    rw [same] at present
    exact le_trans (tracked.past time present) order
  covers := by
    rw [same, logged]
    exact tracked.covers.later order

/-- A refused submission may prune the log of its handle. -/
theorem Tracked.refused (tracked : Tracked state handle) (sound : Gate.Sound state.gate) {asked : Int}
    {reason : GuardReject} (barred : reason ≠ .none) (same : after.accepted handle = state.accepted handle)
    (noted : after.gate = state.gate.noting asked reason) : Tracked after handle := by
  have policy : after.gate.registry.policy.log handle =
      (state.gate.registry.policy.noted asked state.gate.clock reason).log handle := by rw [noted]; rfl
  have clock : after.gate.clock = state.gate.clock := by rw [noted]; rfl
  rw [GuardTable.log_noted] at policy
  split at policy
  next here =>
    subst here
    rcases (state.gate.registry.policy.limits handle).logged_forms (state.gate.registry.policy.rateLog handle)
      state.gate.clock reason with unchanged | pruned | ⟨accepted, _⟩
    · exact tracked.kept same (policy.trans unchanged) (le_of_eq clock.symm)
    · have shorter := policy.trans pruned
      rw [recent_eq sound] at shorter
      refine ⟨by rw [same]; exact tracked.sorted, by rw [same, clock]; exact tracked.past, ?_⟩
      rw [same, clock, shorter]
      exact tracked.covers.pruned
    · exact absurd accepted barred
  next => exact tracked.kept same policy (le_of_eq clock.symm)

/-- An accepted submission that met a limit is logged. -/
theorem Tracked.accepted (tracked : Tracked state handle) (sound : Gate.Sound state.gate)
    (limited : (state.limits handle).maxQueriesPerWindow ≠ 0)
    (same : after.accepted handle = state.accepted handle ++ [state.gate.clock])
    (policy : after.gate.registry.policy = state.gate.registry.policy.noted handle state.gate.clock .none)
    (clock : after.gate.clock = state.gate.clock) : Tracked after handle := by
  have grown : after.gate.registry.policy.log handle =
      Window.since (state.gate.clock - second) (state.gate.registry.policy.log handle) ++ [state.gate.clock] := by
    have busy : (state.gate.registry.policy.limits handle).maxQueriesPerWindow ≠ 0 := limited
    rw [policy, GuardTable.log_noted, if_pos rfl, QueryGuards.logged, if_neg busy]
    exact congrArg (· ++ [state.gate.clock]) (recent_eq sound handle _ _)
  have ordered := Window.sorted_since (sound.orderly.sorted handle) (state.gate.clock - second)
  have logged : ∀ time ∈ Window.since (state.gate.clock - second) (state.gate.registry.policy.log handle),
      time ≤ state.gate.clock :=
    fun time present => sound.orderly.past handle time (Window.since_subset _ _ present)
  refine ⟨?_, ?_, ?_⟩
  · rw [same]
    exact Window.sorted_append tracked.sorted tracked.past
  · intro time present
    rw [same] at present
    rw [clock]
    rcases List.mem_append.mp present with earlier | now
    · exact tracked.past time earlier
    · exact le_of_eq (List.mem_singleton.mp now)
  · rw [same, grown, clock]
    exact tracked.covers.pruned.append ordered tracked.sorted logged tracked.past

theorem tracked_sent (tracked : Tracked state handle) (sound : Gate.Sound state.gate) {sync : Bool} {job : QueryJob}
    {answer : GuardReject} (limited : Limited handle state (.submit sync job answer)) {gate : Gate.State}
    (sent : Gate.Sent state.gate sync job answer gate) :
    Tracked ⟨gate, state.record (.submit sync job answer)⟩ handle := by
  cases sent with
  | unknown => exact tracked.kept rfl rfl le_rfl
  | refused _ _ barred =>
    apply tracked.refused sound barred _ rfl
    cases answer with
    | none => exact absurd rfl barred
    | _ => rfl
  | accepted =>
    by_cases here : job.connectionHandle = handle
    · subst here
      have busy : (state.limits job.connectionHandle).maxQueriesPerWindow ≠ 0 := by
        simp only [Limited, meets, ne_eq, not_true_eq_false, decide_false, Bool.false_or, decide_eq_true_eq] at limited
        omega
      exact tracked.accepted sound busy (Function.update_self ..) rfl rfl
    · refine tracked.kept ?_ ?_ (le_refl state.gate.clock)
      · exact Function.update_of_ne (Ne.symm here) ..
      · have other := state.gate.registry.policy.log_noted state.gate.clock job.connectionHandle handle .none
        rwa [if_neg (Ne.symm here)] at other

theorem tracked_step (sound : Sound state handle) {event : Gate.Event} (limited : Limited handle state event)
    {gate : Gate.State} (moved : Gate.Moved state.gate event gate) : Tracked ⟨gate, state.record event⟩ handle := by
  have tracked := sound.tracked
  cases moved with
  | tick order => exact tracked.kept rfl rfl order
  | connect | engine => exact tracked.kept rfl rfl le_rfl
  | submit _ _ sent => exact tracked_sent tracked sound.gate limited sent
  | @setLimit asked type value =>
    refine tracked.kept rfl ?_ (le_refl state.gate.clock)
    rcases state.gate.registry.setLimit_forms asked type value with same | ⟨g, limits, _, changed, _⟩
    · exact congrArg (fun registry : Connections => registry.policy.log handle) same
    · exact (congrArg (fun registry : Connections => registry.policy.log handle) changed).trans rfl
  | @removeConnection gone =>
    by_cases here : handle = gone
    · subst here
      apply Tracked.empty
      · exact Function.update_self ..
      · simp [Connections.removeConnection, GuardTable.log]
    · refine tracked.kept ?_ ?_ (le_refl state.gate.clock)
      · exact Function.update_of_ne here ..
      · simp only [Connections.removeConnection, GuardTable.log, Table.erase_other _ _ _ here]
  | clearConnections | reset => exact Tracked.empty rfl rfl

theorem sound_step (sound : Sound state handle) {event : Gate.Event} (limited : Limited handle state event)
    (stepped : step state event = some after) : Sound after handle := by
  obtain ⟨gate, ran, rfl⟩ := Option.map_eq_some_iff.mp stepped
  have moved := Gate.step_moved ran
  exact ⟨Gate.sound_step sound.gate moved, tracked_step sound limited moved⟩

theorem sound_run {events : List Gate.Event} (run : Run (Guarded (Limited handle) (Steps step)) {} events state) :
    Sound state handle := by
  apply run.invariant
  · exact ⟨Gate.sound_run .refl, Tracked.empty rfl rfl⟩
  · exact fun _ _ _ sound ⟨limited, stepped⟩ => sound_step sound limited stepped

/-- The accepted submissions of a handle in the window that ends now. -/
def State.inWindow (state : State) (handle : Int) : List Int :=
  Window.within (state.gate.clock - state.width handle) state.gate.clock (state.accepted handle)

/-- The other guards have nothing against the submission. -/
def Unopposed (answer : GuardReject) : Prop := answer = .none ∨ answer = .rateLimited

/-- A submission is accepted exactly when the window has room for it. -/
def Exact (state : State) (handle : Int) : Prop :=
  ∀ sync job answer after, job.connectionHandle = handle → Limited handle state (.submit sync job answer) →
    step state (.submit sync job answer) = some after → Unopposed answer →
      (answer = .none ↔ (state.inWindow handle).length < (state.limits handle).maxQueriesPerWindow)

theorem decision_rate {g : QueryGuards} {multiOk : Bool} {job : QueryJob} {pending : Int} {counted : Nat}
    (busy : g.maxQueriesPerWindow ≠ 0) (unopposed : Unopposed (g.decision multiOk job pending counted)) :
    g.decision multiOk job pending counted = .none ↔ counted < g.maxQueriesPerWindow := by
  unfold Unopposed at unopposed
  unfold QueryGuards.decision at unopposed ⊢
  split_ifs at unopposed ⊢ with long stacked full spent
  · simp at unopposed
  · simp at unopposed
  · simp at unopposed
  · simp [spent.2]
  · simp only [true_iff]
    by_contra enough
    exact spent ⟨busy, Nat.not_lt.mp enough⟩

theorem Sound.counted (sound : Sound state handle) :
    (state.gate.registry.policy.limits handle).recent (state.gate.registry.policy.log handle) state.gate.clock =
      state.inWindow handle := by
  rw [recent_eq sound.gate, State.inWindow, width_eq sound.gate]
  exact sound.tracked.covers.counts sound.tracked.sorted sound.tracked.past

theorem Sound.exact (sound : Sound state handle) : Exact state handle := by
  intro sync job answer after here limited stepped unopposed
  subst here
  have busy : (state.gate.registry.policy.limits job.connectionHandle).maxQueriesPerWindow ≠ 0 := by
    simp only [Limited, meets, ne_eq, not_true_eq_false, decide_false, Bool.false_or, decide_eq_true_eq] at limited
    exact Nat.ne_of_gt limited
  obtain ⟨gate, ran, _⟩ := Option.map_eq_some_iff.mp stepped
  have answered (conn : Nat)
      (same : state.gate.registry.policy.answer job (state.gate.pending conn) state.gate.clock = answer) :
      answer = .none ↔ (state.inWindow job.connectionHandle).length < (state.limits job.connectionHandle).maxQueriesPerWindow := by
    subst same
    rw [← sound.counted]
    exact decision_rate busy unopposed
  cases Gate.step_moved ran with
  | submit _ _ sent =>
    cases sent with
    | unknown => simp [Unopposed] at unopposed
    | refused _ same => exact answered _ same
    | accepted _ same => exact answered _ same

/-- A record stays, is dropped, or gains the time of an accepted submission. -/
theorem record_forms (state : State) (event : Gate.Event) (handle : Int) :
    state.record event handle = state.accepted handle ∨ state.record event handle = [] ∨
      ∃ sync job, event = .submit sync job .none ∧ job.connectionHandle = handle ∧
        state.record event handle = state.accepted handle ++ [state.gate.clock] := by
  cases event with
  | submit sync job answer =>
    cases answer with
    | none =>
      by_cases here : handle = job.connectionHandle
      · subst here
        exact Or.inr (Or.inr ⟨sync, job, rfl, rfl, Function.update_self ..⟩)
      · exact Or.inl (Function.update_of_ne here ..)
    | _ => exact Or.inl rfl
  | removeConnection gone =>
    by_cases here : handle = gone
    · subst here
      exact Or.inr (Or.inl (Function.update_self ..))
    · exact Or.inl (Function.update_of_ne here ..)
  | clearConnections | reset => exact Or.inr (Or.inl rfl)
  | tick | connect | setLimit | engine => exact Or.inl rfl

theorem LimitedTo.limited {limit : Nat} (positive : 0 < limit) {event : Gate.Event}
    (same : LimitedTo handle limit state event) : Limited handle state event := by
  cases event with
  | submit sync job answer =>
    simp only [LimitedTo, Limited, meets, Bool.or_eq_true, decide_eq_true_eq] at same ⊢
    exact same.imp_right fun met => by rwa [met]
  | _ => rfl

/-- Under one limit no closed interval of the window's width sees more than that
many accepted. -/
theorem bounded_step (sound : Sound state handle) {limit : Nat} (positive : 0 < limit)
    (bounded : Window.Bounded second limit (state.accepted handle)) {event : Gate.Event}
    (limited : LimitedTo handle limit state event) (stepped : step state event = some after) :
    Window.Bounded second limit (after.accepted handle) := by
  have recorded : after.accepted handle = state.record event handle := by
    obtain ⟨gate, _, rfl⟩ := Option.map_eq_some_iff.mp stepped
    rfl
  rw [recorded]
  rcases record_forms state event handle with same | dropped | ⟨sync, job, rfl, here, longer⟩
  · rw [same]
    exact bounded
  · rw [dropped]
    exact fun _ => Nat.zero_le _
  · rw [longer]
    apply bounded.append sound.tracked.past
    have room := (sound.exact sync job .none after here (limited.limited positive) stepped (Or.inl rfl)).mp rfl
    have met : (state.limits handle).maxQueriesPerWindow = limit := by simpa [LimitedTo, meets, here] using limited
    rwa [State.inWindow, width_eq sound.gate, met] at room

theorem bounded_run {limit : Nat} (positive : 0 < limit) {events : List Gate.Event}
    (run : Run (Guarded (LimitedTo handle limit) (Steps step)) {} events state) :
    Window.Bounded second limit (state.accepted handle) := by
  have both : Sound state handle ∧ Window.Bounded second limit (state.accepted handle) := by
    apply run.invariant
    · exact ⟨sound_run .refl, fun _ => Nat.zero_le _⟩
    · intro before event after ⟨sound, bounded⟩ ⟨limited, stepped⟩
      exact ⟨sound_step sound (limited.limited positive) stepped, bounded_step sound positive bounded limited stepped⟩
  exact both.2

/-- While every submission on a handle meets some limit, each is decided by the number
accepted in the window that ends with it; and if it is always the same limit, that many
are accepted at most in any closed interval of the window's width. -/
theorem rate_window_exact {handle : Int} {events : List Gate.Event} {state : State}
    (run : Run (Guarded (Limited handle) (Steps step)) {} events state) :
    Exact state handle ∧ ∀ limit, 0 < limit → Run (Guarded (LimitedTo handle limit) (Steps step)) {} events state →
      Window.Bounded (state.width handle) limit (state.accepted handle) := by
  have sound := sound_run run
  refine ⟨sound.exact, ?_⟩
  intro limit positive same
  rw [width_eq sound.gate]
  exact bounded_run positive same

section Boundary

private def asking : QueryJob := { connectionHandle := 1, sql := "SELECT 1" }

private def asked : Engine.Ticket Nat := { serial := 0, conn := 5, job := asking }

/-- One query a second: the next is refused exactly a second later, and let through
under a limit of two. -/
private def boundary : List Gate.Event :=
  [.connect 5 false, .setLimit 1 2 1, .submit false asking .none, .engine .count, .tick 1000000000,
    .submit false asking .rateLimited, .setLimit 1 2 2, .submit false asking .none, .engine .count]

theorem rate_window_exact_boundary :
    ∃ state, exec (guarded (Limited 1) step) {} boundary = some state ∧ Exact state 1 := by
  have executes : (exec (guarded (Limited 1) step) {} boundary).isSome := by decide
  obtain ⟨state, done⟩ := Option.isSome_iff_exists.mp executes
  exact ⟨state, done, (rate_window_exact (Run.of_guarded_exec done)).1⟩

end Boundary
end OmpMySQL.RateHistory
