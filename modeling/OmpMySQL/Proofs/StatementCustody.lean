import OmpMySQL.Proofs.ConnectionAddresses
import OmpMySQL.Proofs.Delivery

/-! Who holds a prepared statement: the registry under its handle, then the teardown
job behind all its executions on one worker, then nobody. -/

namespace OmpMySQL.Statements
open Library

/-- The job executes the statement or tears it down. -/
def Concerns (id : StatementId) (job : QueryJob) : Prop := job.statement = some id ∨ job.statementToClose = some id

/-- Every job a worker has been given, in their order. -/
def State.given (state : State) : List (Engine.Ticket Nat) := state.history.flatMap Engine.Event.enqueued

/-- Every job that is over. -/
def State.ended (state : State) : List (Engine.Ticket Nat) := state.history.flatMap Engine.Event.executed

/-- The registry owns the statement: it is there, and nobody has been told to close it. -/
structure Owned (prepared : List Prepared) (destroyed : List StatementId) (given : List (Engine.Ticket Nat))
    (made : Prepared) : Prop where
  known : prepared[made.ref.id]? = some made
  alive : made.ref.id ∉ destroyed
  kept : ∀ ticket ∈ given, ticket.job.statementToClose ≠ some made.ref.id

/-- A worker may get this job now. -/
structure Joins (state : State) (ticket : Engine.Ticket Nat) : Prop where
  placed : ∀ id, Concerns id ticket.job →
    ∃ made, state.prepared[id]? = some made ∧ made.ref.conn = some ticket.conn
  query : ticket.job.statement.isSome → ticket.isQuery = true
  owned : ∀ stmt made, state.statements stmt = some made → ticket.job.statementToClose ≠ some made.ref.id
  fresh : ∀ id, Concerns id ticket.job →
    id ∉ state.destroyed ∧ ∀ earlier ∈ state.given, earlier.job.statementToClose ≠ some id

/-- `last`: once a teardown is on its way, no job of that statement follows. -/
structure Sound (state : State) : Prop where
  addressed : Gate.Addressed state.gate
  engine : Run (Steps Engine.step) {} state.history state.gate.engine
  positive : 1 ≤ state.nextStatement
  issued : ∀ stmt made, state.statements stmt = some made → 1 ≤ stmt ∧ stmt < state.nextStatement
  numbered : ∀ id (made : Prepared), state.prepared[id]? = some made → made.ref.id = id
  owned : ∀ stmt made, state.statements stmt = some made →
    Owned state.prepared state.destroyed state.given made
  apart : Table.Apart (fun made : Prepared => made.ref.id) state.statements
  placed : ∀ ticket ∈ state.given, ∀ id, Concerns id ticket.job →
    ∃ made, state.prepared[id]? = some made ∧ made.ref.conn = some ticket.conn
  queries : ∀ ticket ∈ state.given, ticket.job.statement.isSome → ticket.isQuery = true
  last : state.given.Pairwise fun first second =>
    ∀ id, first.job.statementToClose = some id → ¬ Concerns id second.job
  gone : ∀ id ∈ state.destroyed, id < state.prepared.length ∧
    ∀ ticket ∈ state.given, Concerns id ticket.job → ticket ∈ state.ended
  once : state.destroyed.Nodup

variable {state after : State}

theorem sound_start : Sound {} where
  addressed := Gate.addressed_empty
  engine := .refl
  positive := Int.le_refl 1
  issued _ _ found := by cases found
  numbered _ _ found := by cases found
  owned _ _ found := by cases found
  apart _ _ _ _ here := by cases here
  placed _ present := by cases present
  queries _ present := by cases present
  last := .nil
  gone _ present := by cases present
  once := .nil

theorem pass_moved {event : Gate.Event} (passed : state.pass event = some after) :
    ∃ gate, Gate.Moved state.gate event gate ∧
      after = { state with gate, history := state.history ++ state.gate.engineEvents event } := by
  obtain ⟨gate, stepped, rfl⟩ := Option.map_eq_some_iff.mp passed
  exact ⟨gate, Gate.step_moved stepped, rfl⟩

/-- Jobs that have nothing to do with statements may come at any time. -/
theorem Joins.unconcerned {ticket : Engine.Ticket Nat} (executes : ticket.job.statement = none)
    (closes : ticket.job.statementToClose = none) : Joins state ticket where
  placed id concerns := by simp [Concerns, executes, closes] at concerns
  query executed := by simp [executes] at executed
  owned := by simp [closes]
  fresh id concerns := by simp [Concerns, executes, closes] at concerns

theorem Sound.pass (sound : Sound state) {event : Gate.Event} (unshared : Gate.Unshared state.gate event)
    (joins : ∀ ticket ∈ (state.gate.engineEvents event).flatMap Engine.Event.enqueued, Joins state ticket)
    (passed : state.pass event = some after) : Sound after := by
  obtain ⟨gate, moved, rfl⟩ := pass_moved passed
  have given : State.given { state with gate, history := state.history ++ state.gate.engineEvents event } =
      state.given ++ (state.gate.engineEvents event).flatMap Engine.Event.enqueued := List.flatMap_append
  have ended : State.ended { state with gate, history := state.history ++ state.gate.engineEvents event } =
      state.ended ++ (state.gate.engineEvents event).flatMap Engine.Event.executed := List.flatMap_append
  refine ⟨Gate.addressed_step sound.addressed unshared moved, sound.engine.trans (Gate.engine_run moved),
    sound.positive, sound.issued, sound.numbered, ?_, sound.apart, ?_, ?_, ?_, ?_, sound.once⟩
  · intro stmt made found
    obtain ⟨known, alive, kept⟩ := sound.owned stmt made found
    refine ⟨known, alive, ?_⟩
    rw [given]
    intro ticket present
    rcases List.mem_append.mp present with old | new
    · exact kept ticket old
    · exact (joins ticket new).owned stmt made found
  · rw [given]
    intro ticket present
    rcases List.mem_append.mp present with old | new
    · exact sound.placed ticket old
    · exact (joins ticket new).placed
  · rw [given]
    intro ticket present
    rcases List.mem_append.mp present with old | new
    · exact sound.queries ticket old
    · exact (joins ticket new).query
  · rw [given]
    refine List.pairwise_append.mpr ⟨sound.last, Gate.enqueued_single moved _, ?_⟩
    intro first old second new id closes concerns
    exact ((joins second new).fresh id concerns).2 first old closes
  · intro id destroyed
    obtain ⟨known, ran⟩ := sound.gone id destroyed
    refine ⟨known, ?_⟩
    rw [given, ended]
    intro ticket present concerns
    rcases List.mem_append.mp present with old | new
    · exact List.mem_append_left _ (ran ticket old concerns)
    · exact absurd destroyed ((joins ticket new).fresh id concerns).1

/-- What each event finds and leaves. -/
inductive Moved (state : State) : Event → State → Prop where
  | idle {event} : event.executes = [] → Moved state event state
  | prepare {handle query raw made} : state.registry.connections handle = some raw →
      made = ({ ref := { id := state.prepared.length, conn := some raw, query }, home := handle } : Prepared) →
      Moved state (.prepare handle query)
        { state with
          statements := state.statements.emplace state.nextStatement made
          nextStatement := state.nextStatement + 1
          prepared := state.prepared ++ [made] }
  | refuse {stmt callback args middle job reason} : job.statementToClose = none → reason ≠ .none →
      state.pass (.submit false job reason) = some middle → Moved state (.execute stmt callback args) middle
  | execute {stmt callback args found raw middle} : state.statements stmt = some found → found.ref.conn = some raw →
      state.registry.connectionHandleOf (some raw) ≠ 0 →
      state.pass (.submit false
        (State.executeJob found.ref (state.registry.connectionHandleOf (some raw)) callback args) .none) = some middle →
      Moved state (.execute stmt callback args)
        { middle with
          placements := state.placements ++
            [⟨found.ref.id, state.registry.workers (state.registry.connectionHandleOf (some raw)),
              state.registry.workers found.home⟩] }
  | teardown {stmt found conn middle} : state.statements stmt = some found → state.workerOf found.ref = some conn →
      State.pass { state with statements := state.statements.erase stmt }
        (.engine (.enqueue (state.teardown found.ref conn))) = some middle →
      Moved state (.removeStatement stmt) middle
  | destroy {stmt found} : state.statements stmt = some found → state.workerOf found.ref = none →
      Moved state (.removeStatement stmt)
        { state with statements := state.statements.erase stmt, destroyed := state.destroyed ++ [found.ref.id] }
  | gate {event middle} : isPlain state event = true → state.pass event = some middle →
      Moved state (.gate event) { middle with destroyed := state.destroyed ++ tornDown event }
  | reset {middle} : (state.handles.all fun stmt => (state.statements stmt).isNone) = true →
      state.pass .reset = some middle → Moved state .reset { middle with nextStatement := 1 }

theorem step_moved {event : Event} (stepped : step state event = some after) : Moved state event after := by
  cases event with
  | prepare handle query =>
    simp only [step, Option.ite_none_right_eq_some, Option.some.injEq] at stepped
    obtain ⟨_, rfl⟩ := stepped
    rw [State.prepare]
    cases found : state.registry.getConnection handle with
    | none => exact .idle rfl
    | some raw =>
      dsimp only
      split
      next => exact .prepare found rfl
      next => exact .idle rfl
  | execute stmt callback args =>
    simp only [step, Option.ite_none_right_eq_some] at stepped
    obtain ⟨_, executed⟩ := stepped
    unfold State.execute at executed
    cases found : state.statements stmt with
    | none =>
      simp only [found, Option.some.injEq] at executed
      exact executed ▸ .idle rfl
    | some made =>
      simp only [found] at executed
      split at executed
      next =>
        cases executed
        exact .idle rfl
      next usable =>
        simp only [not_or, Bool.not_eq_false, StatementRef.valid, Bool.and_eq_true] at usable
        obtain ⟨⟨here, _⟩, resolved⟩ := usable
        obtain ⟨raw, conn⟩ := Option.isSome_iff_exists.mp here
        obtain ⟨middle, passed, rfl⟩ := Option.map_eq_some_iff.mp executed
        rw [conn] at passed resolved
        split
        next accepted =>
          rw [conn] at accepted ⊢
          rw [accepted] at passed
          exact .execute found conn resolved passed
        next barred => exact .refuse rfl barred (conn ▸ passed)
  | removeStatement stmt =>
    simp only [step, Option.ite_none_right_eq_some] at stepped
    obtain ⟨_, removed⟩ := stepped
    unfold State.removeStatement at removed
    cases found : state.statements stmt with
    | none =>
      simp only [found, Option.some.injEq] at removed
      exact removed ▸ .idle rfl
    | some made =>
      simp only [found] at removed
      split at removed
      next conn there => exact .teardown found there removed
      next gone =>
        cases removed
        exact .destroy found gone
  | gate event =>
    simp only [step, Option.ite_none_right_eq_some] at stepped
    obtain ⟨plain, mapped⟩ := stepped
    obtain ⟨middle, passed, rfl⟩ := Option.map_eq_some_iff.mp mapped
    exact .gate plain passed
  | reset =>
    simp only [step, Option.ite_none_right_eq_some] at stepped
    obtain ⟨empty, mapped⟩ := stepped
    obtain ⟨middle, passed, rfl⟩ := Option.map_eq_some_iff.mp mapped
    exact .reset empty passed

section Resolving
variable {ref : StatementRef} {raw : Nat}

theorem conn_of_workerOf (addressed : Gate.Addressed state.gate) (there : state.workerOf ref = some raw) :
    ref.conn = some raw := by
  unfold State.workerOf at there
  cases conn : ref.conn with
  | none =>
    rw [conn] at there
    cases there
  | some held =>
    simp only [conn, ne_eq, ite_not, Option.ite_none_left_eq_some] at there
    have listed := Connections.connection_of_handleOf there.1
    rw [State.registry, addressed.twins] at there
    rw [State.registry] at listed
    exact listed.symm.trans there.2

theorem absent_of_workerOf (addressed : Gate.Addressed state.gate) (gone : state.workerOf ref = none)
    (conn : ref.conn = some raw) : state.gate.engine.workers raw = none := by
  cases present : state.gate.engine.workers raw with
  | none => rfl
  | some worker =>
    obtain ⟨handle, found⟩ := addressed.listed raw (by simp [present])
    have resolved := addressed.sound.consistent.handleOf found
    have listed := Connections.connection_of_handleOf resolved
    simp only [State.workerOf, State.registry, conn, ne_eq, resolved, not_false_eq_true, if_true, addressed.twins,
      listed] at gone
    cases gone

end Resolving

/-- The statement stays where it is, but its handle is gone. -/
theorem Sound.forget (sound : Sound state) (stmt : Int) :
    Sound { state with statements := state.statements.erase stmt } :=
  { sound with
    issued := fun other made found => sound.issued other made (Table.erase_eq_some.mp found).2
    owned := fun other made found => sound.owned other made (Table.erase_eq_some.mp found).2
    apart := sound.apart.within fun _ _ found => (Table.erase_eq_some.mp found).2 }

theorem Sound.destroy (sound : Sound state) {id : StatementId} (known : id < state.prepared.length)
    (alive : id ∉ state.destroyed) (loose : ∀ stmt made, state.statements stmt = some made → made.ref.id ≠ id)
    (ended : ∀ ticket ∈ state.given, Concerns id ticket.job → ticket ∈ state.ended) :
    Sound { state with destroyed := state.destroyed ++ [id] } :=
  { sound with
    owned := by
      intro stmt made found
      obtain ⟨here, living, kept⟩ := sound.owned stmt made found
      refine ⟨here, ?_, kept⟩
      intro destroyed
      rcases List.mem_append.mp destroyed with old | new
      · exact living old
      · exact loose stmt made found (List.mem_singleton.mp new)
    gone := by
      intro other destroyed
      rcases List.mem_append.mp destroyed with old | new
      · exact sound.gone other old
      · cases List.mem_singleton.mp new
        exact ⟨known, ended⟩
    once := by
      refine List.nodup_append.mpr ⟨sound.once, List.nodup_singleton _, ?_⟩
      intro other old _ new same
      cases List.mem_singleton.mp new
      exact alive (same ▸ old) }

theorem Sound.unissued (sound : Sound state) : state.statements state.nextStatement = none := by
  cases found : state.statements state.nextStatement with
  | none => rfl
  | some made =>
    have issued := sound.issued _ made found
    omega

/-- A statement is made under a new identity and a new handle. -/
theorem Sound.prepare (sound : Sound state) {made : Prepared} (identity : made.ref.id = state.prepared.length) :
    Sound
      { state with
        statements := state.statements.emplace state.nextStatement made
        nextStatement := state.nextStatement + 1
        prepared := state.prepared ++ [made] } := by
  have positive := sound.positive
  have fresh : ¬ made.ref.id < state.prepared.length := by
    rw [identity]
    exact Nat.lt_irrefl _
  have known : ∀ {id : StatementId} {held : Prepared}, state.prepared[id]? = some held →
      (state.prepared ++ [made])[id]? = some held := by
    intro id held here
    rw [List.getElem?_append_left (List.getElem?_eq_some_iff.mp here).1]
    exact here
  have older : ∀ stmt held, state.statements stmt = some held → held.ref.id < state.prepared.length :=
    fun stmt held found => (List.getElem?_eq_some_iff.mp (sound.owned stmt held found).known).1
  rw [Table.emplace_absent sound.unissued]
  refine
    { sound with
      positive := Int.le_add_one positive
      issued := ?_
      numbered := ?_
      owned := ?_
      apart := sound.apart.put ?_
      placed := ?_
      gone := ?_ }
  · intro stmt held found
    show 1 ≤ stmt ∧ stmt < state.nextStatement + 1
    rcases Table.put_eq_some.mp found with ⟨rfl, _⟩ | ⟨_, old⟩
    · omega
    · have issued := sound.issued stmt held old
      omega
  · intro id held here
    rw [List.getElem?_append] at here
    split at here
    next => exact sound.numbered id held here
    next beyond =>
      rw [List.getElem?_singleton, Option.ite_none_right_eq_some, Option.some.injEq] at here
      obtain ⟨last, rfl⟩ := here
      exact identity.trans (Nat.le_antisymm (Nat.not_lt.mp beyond) (Nat.sub_eq_zero_iff_le.mp last))
  · intro stmt held found
    rcases Table.put_eq_some.mp found with ⟨_, rfl⟩ | ⟨_, old⟩
    · refine ⟨by simp [identity], ?_, ?_⟩
      · exact fun destroyed => fresh (sound.gone _ destroyed).1
      · intro ticket present closes
        obtain ⟨held, here, _⟩ := sound.placed ticket present _ (Or.inr closes)
        exact fresh (List.getElem?_eq_some_iff.mp here).1
    · have owned := sound.owned stmt held old
      exact ⟨known owned.known, owned.alive, owned.kept⟩
  · intro other held found same
    exact fresh (same ▸ older other held found)
  · intro ticket present id concerns
    obtain ⟨held, here, conn⟩ := sound.placed ticket present id concerns
    exact ⟨held, known here, conn⟩
  · intro id destroyed
    obtain ⟨within, ended⟩ := sound.gone id destroyed
    refine ⟨?_, ended⟩
    rw [List.length_append]
    exact Nat.lt_add_right _ within

theorem plain_unshared (addressed : Gate.Addressed state.gate) {event : Gate.Event} (plain : isPlain state event = true) :
    Gate.Unshared state.gate event := by
  intro raw multiStatements same handle found
  subst same
  have apart := List.all_eq_true.mp plain handle (addressed.sound.consistent.mem_handles found)
  simp [State.registry, found] at apart

theorem plain_joins {event : Gate.Event} {gate : Gate.State} (plain : isPlain state event = true)
    (moved : Gate.Moved state.gate event gate) :
    ∀ ticket ∈ (state.gate.engineEvents event).flatMap Engine.Event.enqueued, Joins state ticket := by
  intro ticket present
  cases moved with
  | @submit sync job answer next free closes sent =>
    have executes := Option.isNone_iff_eq_none.mp plain
    cases answer with
    | none =>
      simp only [Gate.State.engineEvents, List.mem_flatMap, List.mem_map] at present
      obtain ⟨_, ⟨conn, _, rfl⟩, member⟩ := present
      rw [Gate.request_enqueued, List.mem_singleton] at member
      subst member
      apply Joins.unconcerned
      · cases sync <;> exact executes
      · cases sync <;> exact closes
    | _ => cases present
  | @engine done engine own ran =>
    rw [Gate.State.engineEvents, List.flatMap_singleton] at present
    cases done with
    | enqueue other => cases plain
    | runSync other => cases own
    | _ => cases present
  | _ => cases present

/-- When a worker takes a teardown in hand, every other job of the statement is over. -/
theorem Sound.closing (sound : Sound state) {ticket : Engine.Ticket Nat} {worker : Engine.ConnectionWorker Nat}
    (found : state.gate.engine.workers ticket.conn = some worker) (held : ticket ∈ worker.thread.unrun)
    {id : StatementId} (closes : ticket.job.statementToClose = some id) {other : Engine.Ticket Nat}
    (member : other ∈ state.given) (concerns : Concerns id other.job) : other = ticket ∨ other ∈ state.ended := by
  obtain ⟨given, _, earlier⟩ := Engine.held_job sound.engine found held
  obtain ⟨made, here, conn⟩ := sound.placed ticket given id (Or.inr closes)
  obtain ⟨same, there, otherConn⟩ := sound.placed other member id concerns
  rw [here] at there
  cases there
  have sameConn : other.conn = ticket.conn := Option.some.inj (otherConn.symm.trans conn)
  have ordered := sound.last.and (Engine.enqueued_sorted sound.engine)
  rcases related_or ordered member given with same | ⟨_, before⟩ | ⟨last, _⟩
  · exact Or.inl same
  · exact Or.inr (earlier other member sameConn before)
  · exact absurd concerns (last id closes)

/-- What is destroyed inline has no worker any more, so none of its jobs is left. -/
theorem Sound.abandoned (sound : Sound state) {made : Prepared} (known : state.prepared[made.ref.id]? = some made)
    (gone : state.workerOf made.ref = none) {ticket : Engine.Ticket Nat} (member : ticket ∈ state.given)
    (concerns : Concerns made.ref.id ticket.job) : ticket ∈ state.ended := by
  obtain ⟨same, here, conn⟩ := sound.placed ticket member _ concerns
  rw [known] at here
  cases here
  exact Engine.drained sound.engine (absent_of_workerOf sound.addressed gone conn) member

theorem mem_tornDown {event : Gate.Event} {id : StatementId} (torn : id ∈ tornDown event) :
    ∃ ticket, event = .engine (.drop ticket) ∧ ticket.job.statementToClose = some id := by
  cases event with
  | engine done =>
    cases done with
    | drop ticket => exact ⟨ticket, rfl, Option.mem_toList.mp torn⟩
    | _ => cases torn
  | _ => cases torn

theorem handled_held {done : Engine.Event Nat} (passed : state.pass (.engine done) = some after)
    {ticket : Engine.Ticket Nat} (present : ticket ∈ done.handled) :
    ∃ worker, state.gate.engine.workers ticket.conn = some worker ∧ ticket ∈ worker.thread.unrun := by
  obtain ⟨gate, moved, _⟩ := pass_moved passed
  cases moved with
  | engine own ran => exact Engine.handled_held (Engine.step_moved ran) present

section Jobs
variable {made : Prepared} {raw : Nat}

/-- The one job of an accepted execution. -/
theorem execute_events (addressed : Gate.Addressed state.gate) {job : QueryJob}
    (listed : state.registry.connections job.connectionHandle = some raw) :
    state.gate.engineEvents (.submit false job .none) = [.enqueue (state.gate.ticket false job raw)] := by
  rw [State.registry, ← addressed.twins] at listed
  simp [Gate.State.engineEvents, listed, Gate.State.request]

theorem Joins.executing (owned : Owned state.prepared state.destroyed state.given made) (conn : made.ref.conn = some raw)
    (handle : Int) (callback : String) (args : List CallbackArg) :
    Joins state (state.gate.ticket false (State.executeJob made.ref handle callback args) raw) where
  placed id concerns := by
    rcases concerns with executes | closes
    · cases executes
      exact ⟨made, owned.known, conn⟩
    · cases closes
  query _ := rfl
  owned _ _ _ := nofun
  fresh id concerns := by
    rcases concerns with executes | closes
    · cases executes
      exact ⟨owned.alive, owned.kept⟩
    · cases closes

theorem Joins.closing (sound : Sound state) {stmt : Int} (found : state.statements stmt = some made)
    (there : state.workerOf made.ref = some raw) :
    Joins { state with statements := state.statements.erase stmt } (state.teardown made.ref raw) where
  placed id concerns := by
    rcases concerns with executes | closes
    · cases executes
    · cases closes
      exact ⟨made, (sound.owned stmt made found).known, conn_of_workerOf sound.addressed there⟩
  query := nofun
  owned other held registered same := by
    obtain ⟨apart, listed⟩ := Table.erase_eq_some.mp registered
    exact apart (sound.apart other stmt held made listed found (Option.some.inj same).symm)
  fresh id concerns := by
    rcases concerns with executes | closes
    · cases executes
    · cases closes
      have owned := sound.owned stmt made found
      exact ⟨owned.alive, owned.kept⟩

end Jobs

/-- A teardown in hand is of a statement that is still there and has no handle. -/
theorem Sound.torn (sound : Sound state) {ticket : Engine.Ticket Nat} {worker : Engine.ConnectionWorker Nat}
    (found : state.gate.engine.workers ticket.conn = some worker) (held : ticket ∈ worker.thread.unrun)
    {id : StatementId} (closes : ticket.job.statementToClose = some id) :
    id < state.prepared.length ∧ id ∉ state.destroyed ∧
      ∀ stmt made, state.statements stmt = some made → made.ref.id ≠ id := by
  obtain ⟨given, unrun, _⟩ := Engine.held_job sound.engine found held
  obtain ⟨made, here, _⟩ := sound.placed ticket given id (Or.inr closes)
  refine ⟨(List.getElem?_eq_some_iff.mp here).1, ?_, ?_⟩
  · exact fun destroyed => unrun ((sound.gone id destroyed).2 ticket given (Or.inr closes))
  · exact fun stmt made registered same => (sound.owned stmt made registered).kept ticket given (same ▸ closes)

theorem Sound.gate (sound : Sound state) {event : Gate.Event} (plain : isPlain state event = true)
    (passed : state.pass event = some after) :
    Sound { after with destroyed := state.destroyed ++ tornDown event } := by
  obtain ⟨gate, moved, same⟩ := pass_moved passed
  have middle := sound.pass (plain_unshared sound.addressed plain) (plain_joins plain moved) passed
  cases torn : tornDown event with
  | nil =>
    subst same
    rw [List.append_nil]
    exact middle
  | cons id rest =>
    obtain ⟨ticket, rfl, closes⟩ := mem_tornDown (torn ▸ List.mem_cons_self)
    obtain ⟨worker, found, held⟩ := handled_held passed (List.mem_singleton_self ticket)
    obtain ⟨known, alive, loose⟩ := sound.torn found held closes
    rw [tornDown, closes, Option.toList_some] at torn
    cases torn
    subst same
    apply middle.destroy known alive loose
    intro other member concerns
    simp only [State.given, State.ended, Gate.State.engineEvents, List.flatMap_append, List.flatMap_singleton,
      Engine.Event.enqueued, Engine.Event.executed, List.append_nil] at member ⊢
    rcases sound.closing found held closes member concerns with same | ended
    · exact List.mem_append_right _ (List.mem_singleton.mpr same)
    · exact List.mem_append_left _ ended

theorem sound_step {event : Event} (sound : Sound state) (moved : Moved state event after) : Sound after := by
  cases moved with
  | idle => exact sound
  | prepare found made =>
    subst made
    exact sound.prepare rfl
  | @refuse _ _ _ _ job reason closes barred passed =>
    have quiet : state.gate.engineEvents (.submit false job reason) = [] := by
      cases reason with
      | none => exact absurd rfl barred
      | _ => rfl
    refine sound.pass (fun _ _ same => by cases same) ?_ passed
    rw [quiet]
    exact fun ticket present => by cases present
  | @execute stmt callback args made raw middle found conn resolved passed =>
    have listed := Connections.connection_of_handleOf resolved
    have placed := sound.pass (fun _ _ same => by cases same) ?_ passed
    · exact { placed with }
    · rw [execute_events sound.addressed listed]
      intro ticket present
      rw [List.mem_singleton.mp present]
      exact .executing (sound.owned stmt made found) conn _ callback args
  | @teardown stmt made conn _ found there passed =>
    refine (sound.forget stmt).pass (fun _ _ same => by cases same) ?_ passed
    intro ticket present
    cases List.mem_singleton.mp present
    exact .closing sound found there
  | @destroy stmt made found gone =>
    have owned := sound.owned stmt made found
    have known := (List.getElem?_eq_some_iff.mp owned.known).1
    refine (sound.forget stmt).destroy known owned.alive ?_ (fun _ => sound.abandoned owned.known gone)
    intro other held registered same
    obtain ⟨apart, found'⟩ := Table.erase_eq_some.mp registered
    exact apart (sound.apart other stmt held made found' found same)
  | gate plain passed => exact sound.gate plain passed
  | reset empty passed =>
    have middle := sound.pass (fun _ _ same => by cases same) (fun _ present => by cases present) passed
    obtain ⟨gate, _, rfl⟩ := pass_moved passed
    refine { middle with positive := Int.le_refl 1, issued := ?_ }
    intro stmt made found
    have absent := List.all_eq_true.mp empty stmt (mem_given.mpr (sound.issued stmt made found))
    rw [show state.statements stmt = some made from found] at absent
    cases absent

theorem sound_run {events : List Event} (run : Run (Steps step) {} events state) : Sound state :=
  run.invariant sound_start (fun _ _ _ sound stepped => sound_step sound (step_moved stepped))

end OmpMySQL.Statements
