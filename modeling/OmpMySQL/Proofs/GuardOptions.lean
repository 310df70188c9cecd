import OmpMySQL.OptionHistory
import OmpMySQL.Proofs.Encryption

/-! The guard options of an option set, against the same limits set on the connection
itself. Connecting never looks at the options. -/

namespace OmpMySQL
open Library

/-- The last value given for an integer option. -/
def lastValue (option : MySQLOptionType) (given : List Setting) : Option Int :=
  (given.filterMap fun setting => if setting.option = some option then some setting.int else none).getLast?

/-- A query as it reaches the guards. -/
structure GuardedQuery where
  job : QueryJob
  pending : Nat → Int
  now : Int

namespace Connections

/-- The answers to one query after another. -/
def answers (registry : Connections) : List GuardedQuery → List GuardReject
  | [] => []
  | query :: rest =>
    let sent := registry.submit query.job query.pending query.now
    sent.reason :: sent.registry.answers rest

/-- `mysql_set_limit` with a value, if there is one. -/
def limitTo (registry : Connections) (handle type : Int) (value : Option Int) : Connections :=
  value.elim registry fun value => (registry.setLimit handle type value).1

/-- The limits that an option set was given, set on a connection's handle. -/
def limitAll (registry : Connections) (handle : Int) (given : List Setting) : Connections :=
  ((registry.limitTo handle 0 (lastValue .maxQueryLength given)).limitTo handle 1
    (lastValue .maxPendingQueries given)).limitTo handle 2 (lastValue .maxQueriesPerSecond given)

/-- The new connection answers as if its options had been set on its handle. -/
def EnforcesOptions (connected : Connections × Int) (given : List Setting) : Prop :=
  ∀ queries, connected.1.answers queries = (connected.1.limitAll connected.2 given).answers queries

/-- The option was not given, or its last value is one that `mysql_set_limit` refuses,
or the default. -/
def LeavesDefault (option : MySQLOptionType) (default : Int) (given : List Setting) : Prop :=
  ∀ value, lastValue option given = some value → value < 0 ∨ value = default

structure LeavesDefaults (given : List Setting) : Prop where
  length : LeavesDefault .maxQueryLength 1048576 given
  pending : LeavesDefault .maxPendingQueries 0 given
  rate : LeavesDefault .maxQueriesPerSecond 0 given

/-- What a value given for a limit makes of its default. -/
def chosen (default : Int) (value : Option Int) : Nat :=
  (value.elim default fun value => if value < 0 then default else value).toNat

/-- The limits that an option set asks for. -/
def asked (given : List Setting) : QueryGuards where
  maxQueryLength := chosen 1048576 (lastValue .maxQueryLength given)
  maxPendingQueries := chosen 0 (lastValue .maxPendingQueries given)
  maxQueriesPerWindow := chosen 0 (lastValue .maxQueriesPerSecond given)

theorem chosen_eq (default : Int) (natural : 0 ≤ default) (value : Option Int) :
    (chosen default value : Int) = default ↔ ∀ given, value = some given → given < 0 ∨ given = default := by
  cases value with
  | none => simpa [chosen] using natural
  | some given =>
    simp only [chosen, Option.elim_some, Option.some.injEq, forall_eq']
    split
    next negative => simpa [negative] using natural
    next natural => omega

theorem asked_default (given : List Setting) : asked given = {} ↔ LeavesDefaults given := by
  have length := chosen_eq 1048576 (by decide) (lastValue .maxQueryLength given)
  have pending := chosen_eq 0 le_rfl (lastValue .maxPendingQueries given)
  have rate := chosen_eq 0 le_rfl (lastValue .maxQueriesPerSecond given)
  simp only [asked, QueryGuards.mk.injEq]
  constructor
  · intro ⟨same, off, _, free⟩
    exact ⟨length.mp (by omega), pending.mp free, rate.mp (by omega)⟩
  · intro ⟨same, free, off⟩
    have same := length.mpr same
    have free := pending.mpr free
    have off := rate.mpr off
    exact ⟨by omega, by omega, trivial, free⟩

variable {registry : Connections} {handle : Int} {g : QueryGuards}

theorem setGuards_self (found : registry.policy.guards handle = some g) : registry.setGuards handle g = registry := by
  rw [setGuards, Table.put_eq_self found]

theorem setGuards_setGuards (registry : Connections) (handle : Int) (first second : QueryGuards) :
    (registry.setGuards handle first).setGuards handle second = registry.setGuards handle second := by
  simp only [setGuards, Table.put, Function.update_idem]

theorem guards_setGuards (registry : Connections) (handle : Int) (g : QueryGuards) :
    (registry.setGuards handle g).policy.guards handle = some g := Table.put_same ..

/-- The limits with one of them set, as `mysql_set_limit` sets it. -/
def withLimit (g : QueryGuards) (type : Int) (value : Option Int) : QueryGuards :=
  value.elim g fun value =>
    if value < 0 then g
    else if type = 0 then { g with maxQueryLength := value.toNat }
    else if type = 1 then { g with maxPendingQueries := value }
    else if type = 2 then { g with maxQueriesPerWindow := value.toNat, rateWindow := 1000 }
    else g

theorem limitTo_eq (found : registry.policy.guards handle = some g) (type : Int) (value : Option Int) :
    registry.limitTo handle type value = registry.setGuards handle (withLimit g type value) := by
  cases value with
  | none => exact (setGuards_self found).symm
  | some value =>
    simp only [limitTo, withLimit, Option.elim_some, setLimit, guardsFor, found]
    split_ifs
    · exact (setGuards_self found).symm
    · rfl
    · rfl
    · rfl
    · exact (setGuards_self found).symm

theorem withLimit_length (g : QueryGuards) (usual : g.maxQueryLength = 1048576) (value : Option Int) :
    withLimit g 0 value = { g with maxQueryLength := chosen 1048576 value } := by
  cases value with
  | none => simp [withLimit, chosen, ← usual]
  | some value =>
    simp only [withLimit, chosen, Option.elim_some, if_true]
    split
    next => simp [← usual]
    next => rfl

theorem withLimit_pending (g : QueryGuards) (usual : g.maxPendingQueries = 0) (value : Option Int) :
    withLimit g 1 value = { g with maxPendingQueries := chosen 0 value } := by
  cases value with
  | none => simp [withLimit, chosen, ← usual]
  | some value =>
    have second : ¬ (1 : Int) = 0 := by decide
    simp only [withLimit, chosen, Option.elim_some, second, if_true, if_false]
    split
    next => simp [← usual]
    next natural => rw [Int.toNat_of_nonneg (Int.not_lt.mp natural)]

theorem withLimit_rate (g : QueryGuards) (usual : g.maxQueriesPerWindow = 0) (window : g.rateWindow = 1000)
    (value : Option Int) : withLimit g 2 value = { g with maxQueriesPerWindow := chosen 0 value } := by
  cases value with
  | none => simp [withLimit, chosen, ← usual]
  | some value =>
    have third : ¬ (2 : Int) = 0 ∧ ¬ (2 : Int) = 1 := by decide
    simp only [withLimit, chosen, Option.elim_some, third, if_true, if_false]
    split
    next => simp [← usual]
    next => rw [window]

theorem limitAll_eq (found : registry.policy.guards handle = some {}) (given : List Setting) :
    registry.limitAll handle given = registry.setGuards handle (asked given) := by
  rw [limitAll, limitTo_eq found, limitTo_eq (guards_setGuards ..), limitTo_eq (guards_setGuards ..),
    setGuards_setGuards, setGuards_setGuards, withLimit_length _ rfl, withLimit_pending _ rfl, withLimit_rate _ rfl rfl]
  rfl

/-! Queries that tell limits apart. -/

/-- A prepared statement on the handle, which no other guard looks at. -/
def probe (handle : Int) (pending : Int) : GuardedQuery where
  job := { connectionHandle := handle, statement := some 0 }
  pending _ := pending
  now := 0

/-- A plain query of this length. -/
def longProbe (handle : Int) (length : Nat) : GuardedQuery where
  job := { connectionHandle := handle, sql := String.ofList (List.replicate length 'a') }
  pending _ := 0
  now := 0

theorem answers_cons {raw : Nat} {query : GuardedQuery}
    (worker : registry.workers query.job.connectionHandle = some raw) (rest : List GuardedQuery) :
    registry.answers (query :: rest) =
      let answer := registry.policy.answer query.job (query.pending raw) query.now
      answer :: answers
        { registry with policy := registry.policy.noted query.job.connectionHandle query.now answer } rest := by
  simp only [answers, submit, worker, GuardTable.checkGuards_eq]

/-- The first answer tells of the handle's limits. -/
theorem answers_first {raw : Nat} {query : GuardedQuery} (worker : registry.workers handle = some raw)
    (here : query.job.connectionHandle = handle) (limits : registry.policy.limits handle = g) :
    registry.answers [query] = [g.decision (registry.policy.allowsMultiStatement handle) query.job (query.pending raw)
      (g.recent (registry.policy.log handle) query.now).length] := by
  subst here limits
  rw [answers_cons worker]
  rfl

theorem decision_probe (g : QueryGuards) (multiOk : Bool) (handle pending : Int) (counted : Nat) :
    g.decision multiOk (probe handle pending).job pending counted =
      if g.maxPendingQueries ≠ 0 ∧ g.maxPendingQueries ≤ pending then .tooManyPending
      else if g.maxQueriesPerWindow ≠ 0 ∧ g.maxQueriesPerWindow ≤ counted then .rateLimited
      else .none := by
  simp [QueryGuards.decision, probe]

theorem decision_long (g : QueryGuards) (multiOk : Bool) (handle pending : Int) (length counted : Nat) :
    g.decision multiOk (longProbe handle length).job pending counted = .tooLong ↔
      g.maxQueryLength ≠ 0 ∧ g.maxQueryLength < length := by
  by_cases long : g.maxQueryLength ≠ 0 ∧ g.maxQueryLength < length
  · simp [QueryGuards.decision, longProbe, long]
  · simp only [long, iff_false]
    simp only [QueryGuards.decision, longProbe, true_and, String.length_ofList, List.length_replicate, long, if_false]
    split_ifs <;> simp

section Apart
variable {raw : Nat} (worker : registry.workers handle = some raw) (usual : registry.policy.guards handle = some {})
  (same : ∀ queries, registry.answers queries = (registry.setGuards handle g).answers queries)
include worker usual same

theorem first_same (query : GuardedQuery) (here : query.job.connectionHandle = handle) :
    ∃ multiOk log, QueryGuards.decision {} multiOk query.job (query.pending raw) (QueryGuards.recent {} log query.now).length =
      g.decision multiOk query.job (query.pending raw) (g.recent log query.now).length := by
  have limits : registry.policy.limits handle = {} := by simp [GuardTable.limits, usual]
  have changed : (registry.setGuards handle g).policy.limits handle = g := by
    simp [GuardTable.limits, guards_setGuards]
  have reference : (registry.setGuards handle g).answers [query] = _ := answers_first worker here changed
  have first := same [query]
  rw [answers_first worker here limits, reference] at first
  exact ⟨_, _, List.head_eq_of_cons_eq first⟩

theorem pending_same : g.maxPendingQueries = 0 := by
  obtain ⟨multiOk, log, first⟩ := first_same worker usual same (probe handle g.maxPendingQueries) rfl
  rw [show (probe handle g.maxPendingQueries).pending raw = g.maxPendingQueries from rfl, decision_probe,
    decision_probe] at first
  by_contra limited
  simp [limited] at first

theorem length_same : g.maxQueryLength = 1048576 := by
  have told (length : Nat) : 1048576 < length ↔ g.maxQueryLength ≠ 0 ∧ g.maxQueryLength < length := by
    obtain ⟨multiOk, log, first⟩ := first_same worker usual same (longProbe handle length) rfl
    have left := decision_long {} multiOk handle ((longProbe handle length).pending raw) length
      (QueryGuards.recent {} log (longProbe handle length).now).length
    rw [first, decision_long] at left
    simpa using left.symm
  have above := told 1048577
  have at_most := told 1048576
  omega

end Apart

theorem since_zero (width : Int) (natural : 0 ≤ width) (count : Nat) :
    Window.since (0 - width) (List.replicate count (0 : Int)) = List.replicate count 0 := by
  cases count with
  | zero => rfl
  | succ count =>
    rw [List.replicate_succ, Window.since]
    exact List.dropWhile_cons_of_neg (by simpa using natural)

/-- Without limits every query of a burst is let through. -/
theorem burst_unlimited {raw : Nat} (worker : registry.workers handle = some raw)
    (unlimited : registry.policy.limits handle = {}) (count : Nat) :
    registry.answers (List.replicate count (probe handle 0)) = List.replicate count .none := by
  induction count generalizing registry with
  | zero => rfl
  | succ count ih =>
    have free : registry.policy.answer (probe handle 0).job 0 0 = .none := by
      have decided := decision_probe {} (registry.policy.allowsMultiStatement handle) handle 0
        (QueryGuards.recent {} (registry.policy.log handle) 0).length
      rw [GuardTable.answer]
      show (registry.policy.limits handle).decision _ _ _ _ = _
      rw [unlimited]
      exact decided
    rw [List.replicate_succ, List.replicate_succ, answers_cons worker]
    show registry.policy.answer (probe handle 0).job 0 0 :: _ = _
    rw [free]
    congr 1
    apply ih
    · exact worker
    · exact (GuardTable.limits_noted ..).trans unlimited

/-- Under a rate limit a burst that is let through has no more queries than that. -/
theorem burst_limited {raw : Nat} (worker : registry.workers handle = some raw)
    (limited : (registry.policy.limits handle).maxQueriesPerWindow ≠ 0) (logged : Nat)
    (log : registry.policy.log handle = List.replicate logged 0)
    (room : logged ≤ (registry.policy.limits handle).maxQueriesPerWindow) (count : Nat)
    (free : registry.answers (List.replicate count (probe handle 0)) = List.replicate count .none) :
    logged + count ≤ (registry.policy.limits handle).maxQueriesPerWindow := by
  induction count generalizing registry logged with
  | zero => exact room
  | succ count ih =>
    have recent : (registry.policy.limits handle).recent (registry.policy.log handle) 0 = List.replicate logged 0 := by
      rw [QueryGuards.recent, log]
      exact since_zero _ (by omega) logged
    rw [List.replicate_succ, List.replicate_succ, answers_cons worker] at free
    obtain ⟨answered, rest⟩ := List.cons.inj free
    have decided := decision_probe (registry.policy.limits handle) (registry.policy.allowsMultiStatement handle) handle 0
      ((registry.policy.limits handle).recent (registry.policy.log handle) 0).length
    have admitted : logged < (registry.policy.limits handle).maxQueriesPerWindow := by
      have none := decided.symm.trans answered
      rw [recent, List.length_replicate] at none
      split_ifs at none with busy spent
      exact Nat.not_le.mp fun full => spent ⟨limited, full⟩
    rw [answered] at rest
    let after : Connections := { registry with policy := registry.policy.noted handle 0 .none }
    have limits : after.policy.limits handle = registry.policy.limits handle := GuardTable.limits_noted ..
    have grown : after.policy.log handle = List.replicate (logged + 1) 0 := by
      have noted := registry.policy.log_noted 0 handle handle .none
      rw [if_pos rfl, QueryGuards.logged, if_neg limited] at noted
      rw [List.replicate_succ', ← recent]
      exact noted
    have served : after.workers handle = some raw := worker
    have fits := ih served (by rwa [limits]) (logged + 1) grown (by rwa [limits]) rest
    rw [limits] at fits
    omega

/-- Two connections that differ only in the limits of one handle answer alike exactly
when they do not differ. -/
theorem same_answers_iff {raw : Nat} (worker : registry.workers handle = some raw)
    (usual : registry.policy.guards handle = some {}) (unlogged : registry.policy.rateLog handle = none)
    (window : g.rateWindow = 1000) :
    (∀ queries, registry.answers queries = (registry.setGuards handle g).answers queries) ↔ g = {} := by
  constructor
  · intro same
    have pending := pending_same worker usual same
    have length := length_same worker usual same
    have rate : g.maxQueriesPerWindow = 0 := by
      by_contra limited
      have changed : (registry.setGuards handle g).policy.limits handle = g := by
        simp [GuardTable.limits, guards_setGuards]
      have free := burst_unlimited worker (by simp [GuardTable.limits, usual]) (g.maxQueriesPerWindow + 1)
      rw [same] at free
      have busy : ((registry.setGuards handle g).policy.limits handle).maxQueriesPerWindow ≠ 0 := by rwa [changed]
      have empty : (registry.setGuards handle g).policy.log handle = List.replicate 0 0 := by
        simp [GuardTable.log, setGuards, unlogged]
      have served : (registry.setGuards handle g).workers handle = some raw := worker
      have fits := burst_limited served busy 0 empty (Nat.zero_le _) _ free
      rw [changed] at fits
      omega
    obtain ⟨length', rate', window', pending'⟩ := g
    simp_all
  · rintro rfl queries
    rw [setGuards_self usual]

end Connections

/-- The connection enforces the guard options exactly when they leave the defaults in
place: connecting gives it these whatever the options say. -/
theorem guard_options_iff {events : List Connections.Event} {registry : Connections}
    (run : Run (Steps Connections.step) {} events registry) (raw : Nat) (calls : List OptionCall) (env : Environment)
    (host user password database : String) (options : Int) (reply : ConnectReply) (opened : reply.opens = true)
    (encrypted : reply.sslCipher ≠ "") :
    Connections.EnforcesOptions
        (connect registry raw (OptionHistory.run calls).sets env host user password database options reply)
        ((OptionHistory.run calls).given options) ↔
      Connections.LeavesDefaults ((OptionHistory.run calls).given options) := by
  have fresh := (Connections.consistent_run run).startsAfresh raw
    (connectOptions (OptionHistory.run calls).sets env host user password database options).multiStatements
  rw [connect, Connections.doConnect_accepted registry raw _ opened encrypted, ← Connections.asked_default]
  simp only [Connections.EnforcesOptions, Connections.limitAll_eq fresh.guards]
  exact Connections.same_answers_iff fresh.worker fresh.guards fresh.rateLog rfl

section Burst

private def live : ConnectReply where
  clientCipher := some "TLS_AES_128_GCM_SHA256"
  status _ := .noResult

/-- One query a second is asked for. -/
private def restrained : List OptionCall := [.create, .set 1 ⟨18, some ⟨1, ""⟩⟩]

theorem guard_options_restrained :
    Connections.EnforcesOptions (connect {} 5 (OptionHistory.run restrained).sets (fun _ => none) "db" "user" "" "" 1 live)
        ((OptionHistory.run restrained).given 1) ↔
      Connections.LeavesDefaults ((OptionHistory.run restrained).given 1) :=
  guard_options_iff .refl 5 restrained (fun _ => none) "db" "user" "" "" 1 live rfl (by decide)

theorem guard_option_ignored : ¬ ∀ (events : List Connections.Event) (registry : Connections),
    Run (Steps Connections.step) {} events registry → ∀ (raw : Nat) (calls : List OptionCall) (env : Environment)
      (host user password database : String) (options : Int) (reply : ConnectReply), reply.opens = true →
      reply.sslCipher ≠ "" → Connections.EnforcesOptions
        (connect registry raw (OptionHistory.run calls).sets env host user password database options reply)
        ((OptionHistory.run calls).given options) := by
  intro enforces
  have same := enforces [] {} .refl 5 restrained (fun _ => none) "db" "user" "" "" 1 live rfl (by decide)
    [Connections.probe 1 0, Connections.probe 1 0]
  exact absurd same (by decide)

end Burst
end OmpMySQL
