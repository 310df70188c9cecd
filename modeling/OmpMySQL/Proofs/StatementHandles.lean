import OmpMySQL.Proofs.Reconciliation

/-! What becomes of the statement handles of the client library. Only the last one
made is ever closed, so every handle is closed exactly when no second one is asked
for while one is held. -/

namespace OmpMySQL.StatementCalls
open PreparedStatement

/-- The owner's handle is what the code has in `stmt_`, and was made for it. -/
structure Owner.Coupled (owner : Owner) : Prop where
  same : owner.handle.isSome = owner.statement.stmt.isSome
  made : ∀ handle, owner.handle = some handle → handle < owner.made
  unclosed : owner.closed = []

theorem stmt_bind (statement : PreparedStatement) (index : Int) (value : StmtParam) :
    (statement.bind index value).stmt = statement.stmt := by
  rw [PreparedStatement.bind]
  split
  next => rfl
  next =>
    rw [ensureParam]
    split <;> rfl

theorem stmt_execute (statement : PreparedStatement) (serverParams : Nat) (reply : StatementReply) :
    (statement.execute serverParams reply).statement.stmt =
      if statement.initializes reply then if reply.init then some serverParams else none else statement.stmt := by
  rw [statement_execute, initializes, PreparedStatement.prepare]
  cases statement.valid <;> cases statement.prepared <;> cases reply.raw <;> cases reply.init <;>
    cases reply.prepare <;> simp

variable {serverParams : Nat} {owner : Owner}

theorem Owner.Coupled.execute (coupled : owner.Coupled) (reply : StatementReply) :
    (owner.execute serverParams reply).Coupled := by
  have stmt := stmt_execute owner.statement serverParams reply
  rw [Owner.execute]
  split
  next opens =>
    rw [if_pos opens] at stmt
    split
    next init =>
      refine ⟨?_, ?_, coupled.unclosed⟩
      · rw [stmt, if_pos init]
        rfl
      · intro handle same
        cases same
        exact Nat.lt_succ_self _
    next init =>
      refine ⟨?_, ?_, coupled.unclosed⟩
      · rw [stmt, if_neg init]
      · intro handle none
        cases none
  next unopened =>
    rw [if_neg unopened] at stmt
    exact ⟨by rw [stmt, coupled.same], coupled.made, coupled.unclosed⟩

theorem Owner.Coupled.perform (coupled : owner.Coupled) (call : Call) : (owner.perform serverParams call).Coupled := by
  have bound (index : Int) (value : StmtParam) :
      ({ owner with statement := owner.statement.bind index value } : Owner).Coupled :=
    ⟨by rw [stmt_bind, coupled.same], coupled.made, coupled.unclosed⟩
  cases call with
  | bindInt index value => exact bound index (.int value)
  | bindFloat index bits => exact bound index (.float bits)
  | bindString index value => exact bound index (.string value)
  | bindNull index => exact bound index .null
  | execute reply => exact coupled.execute reply

theorem coupled_after (hasConnection : Bool) (query : String) (serverParams : Nat) (calls : List Call) :
    (after hasConnection query serverParams calls).Coupled := by
  induction calls using List.reverseRecOn with
  | nil =>
    refine ⟨?_, nofun, rfl⟩
    rw [after, List.foldl_nil, PreparedStatement.make]
    split <;> rfl
  | append_singleton calls call ih =>
    rw [after_snoc]
    exact ih.perform call

/-- The call asks for a new handle while one is held. -/
def Owner.reopens (owner : Owner) : Call → Bool
  | .execute reply => owner.statement.initializes reply && owner.statement.stmt.isSome
  | _ => false

/-- The call asks for a handle. -/
def Owner.opens (owner : Owner) : Call → Bool
  | .execute reply => owner.statement.initializes reply
  | _ => false

theorem Owner.reopens_eq (owner : Owner) (call : Call) :
    owner.reopens call = (owner.opens call && owner.statement.stmt.isSome) := by
  cases call <;> rfl

/-- A call that asks for a handle gives up the one held, whether or not it gets one. -/
theorem Owner.perform_forms (owner : Owner) (serverParams : Nat) (call : Call) :
    owner.opens call = false ∧ (owner.perform serverParams call).handle = owner.handle ∧
        (owner.perform serverParams call).made = owner.made ∨
      owner.opens call = true ∧
        ((owner.perform serverParams call).handle = some owner.made ∧
            (owner.perform serverParams call).made = owner.made + 1 ∨
          (owner.perform serverParams call).handle = none ∧ (owner.perform serverParams call).made = owner.made) := by
  cases call with
  | execute reply =>
    rw [Owner.perform, Owner.execute, Owner.opens]
    split
    next opens =>
      split
      next => exact Or.inr ⟨opens, Or.inl ⟨rfl, rfl⟩⟩
      next => exact Or.inr ⟨opens, Or.inr ⟨rfl, rfl⟩⟩
    next unopened => exact Or.inl ⟨by simpa using unopened, rfl, rfl⟩
  | _ => exact Or.inl ⟨rfl, rfl, rfl⟩

/-- No handle, or the first and only one. -/
def Owner.Single (owner : Owner) : Prop := owner.handle = (List.range owner.made).head? ∧ owner.made ≤ 1

theorem Owner.Single.perform (single : owner.Single) (coupled : owner.Coupled) {call : Call}
    (fresh : owner.reopens call = false) : (owner.perform serverParams call).Single := by
  rcases owner.perform_forms serverParams call with ⟨_, handle, made⟩ | ⟨opens, moved⟩
  · rw [Owner.Single, handle, made]
    exact single
  · have unheld : owner.handle = none := by
      rw [Owner.reopens_eq, opens, Bool.true_and, ← coupled.same] at fresh
      exact Option.isNone_iff_eq_none.mp (by simpa using fresh)
    have unmade : owner.made = 0 := by
      obtain ⟨same, few⟩ := single
      rw [unheld] at same
      simpa using same.symm
    rcases moved with ⟨handle, made⟩ | ⟨handle, made⟩
    · rw [Owner.Single, handle, made, unmade]
      exact ⟨rfl, Nat.le_refl 1⟩
    · rw [Owner.Single, handle, made, unmade]
      exact ⟨rfl, Nat.zero_le _⟩

/-- A handle that was made and is no longer pointed to. -/
def Owner.Lost (owner : Owner) (handle : Nat) : Prop := handle < owner.made ∧ owner.handle ≠ some handle

/-- A handle that was made is lost to any call that asks for another. -/
theorem Owner.lost_of_opens {handle : Nat} (made : handle < owner.made) {call : Call} (opens : owner.opens call = true) :
    (owner.perform serverParams call).Lost handle := by
  rcases owner.perform_forms serverParams call with ⟨unopened, _⟩ | ⟨_, ⟨now, more⟩ | ⟨now, same⟩⟩
  · rw [opens] at unopened
    cases unopened
  · rw [Owner.Lost, now, more]
    refine ⟨Nat.lt_succ_of_lt made, ?_⟩
    intro same
    cases same
    exact Nat.lt_irrefl _ made
  · rw [Owner.Lost, now, same]
    exact ⟨made, nofun⟩

theorem Owner.Lost.perform {handle : Nat} (lost : owner.Lost handle) (call : Call) :
    (owner.perform serverParams call).Lost handle := by
  rcases owner.perform_forms serverParams call with ⟨_, held, made⟩ | ⟨opens, _⟩
  · rw [Owner.Lost, held, made]
    exact lost
  · exact owner.lost_of_opens lost.1 opens

theorem lost_of_reopens (serverParams : Nat) (coupled : owner.Coupled) {call : Call} (again : owner.reopens call = true) :
    ∃ handle, (owner.perform serverParams call).Lost handle := by
  rw [Owner.reopens_eq] at again
  obtain ⟨opens, held⟩ := Bool.and_eq_true_iff.mp again
  rw [← coupled.same] at held
  obtain ⟨handle, same⟩ := Option.isSome_iff_exists.mp held
  exact ⟨handle, owner.lost_of_opens (coupled.made handle same) opens⟩

/-- Nothing leaks: once the statement is destroyed, each handle made for it has been
closed exactly once, and before that no more than one was open at a time. -/
structure LeaksNothing (hasConnection : Bool) (query : String) (serverParams : Nat) (calls : List Call) : Prop where
  closed : ∀ handle, handle < (after hasConnection query serverParams calls).made →
    (after hasConnection query serverParams calls).destroy.closed.count handle = 1
  single : ∀ earlier, earlier <+: calls → (after hasConnection query serverParams earlier).stillOpen.length ≤ 1

def NeverReopens (hasConnection : Bool) (query : String) (serverParams : Nat) (calls : List Call) : Prop :=
  ∀ earlier call, earlier ++ [call] <+: calls → (after hasConnection query serverParams earlier).reopens call = false

theorem single_after {hasConnection : Bool} {query : String} {calls : List Call}
    (never : NeverReopens hasConnection query serverParams calls) :
    (after hasConnection query serverParams calls).Single := by
  induction calls using List.reverseRecOn with
  | nil => exact ⟨rfl, Nat.zero_le _⟩
  | append_singleton calls call ih =>
    rw [after_snoc]
    have fresh := never calls call (List.prefix_refl _)
    have single := ih fun earlier call before => never earlier call (before.trans (List.prefix_append _ _))
    exact single.perform (coupled_after ..) fresh

theorem lost_after {hasConnection : Bool} {query : String} {earlier : List Call} {handle : Nat}
    (lost : (after hasConnection query serverParams earlier).Lost handle) (rest : List Call) :
    (after hasConnection query serverParams (earlier ++ rest)).Lost handle := by
  induction rest using List.reverseRecOn with
  | nil => simpa using lost
  | append_singleton rest call ih =>
    rw [← List.append_assoc, after_snoc]
    exact ih.perform call

theorem Owner.Coupled.closed_destroy (coupled : owner.Coupled) : owner.destroy.closed = owner.handle.toList := by
  rw [Owner.destroy]
  split
  next none => simp [none, coupled.unclosed]
  next held => simp [held, coupled.unclosed]

theorem Owner.Lost.unclosed {handle : Nat} (lost : owner.Lost handle) (coupled : owner.Coupled) :
    owner.destroy.closed.count handle = 0 := by
  rw [coupled.closed_destroy, List.count_eq_zero, Option.mem_toList]
  exact lost.2

theorem Owner.Coupled.stillOpen_length (coupled : owner.Coupled) : owner.stillOpen.length = owner.made := by
  have all : ∀ handle ∈ List.range owner.made, decide (handle ∉ owner.closed) = true := by simp [coupled.unclosed]
  rw [Owner.stillOpen, List.filter_eq_self.mpr all, List.length_range]

/-- Every handle is closed exactly once, and one is open at a time, exactly when no
execution asks for a handle while the statement holds one. -/
theorem leaks_nothing_iff (hasConnection : Bool) (query : String) (serverParams : Nat) (calls : List Call) :
    LeaksNothing hasConnection query serverParams calls ↔ NeverReopens hasConnection query serverParams calls := by
  constructor
  · intro leaks earlier call before
    by_contra again
    obtain ⟨handle, lost⟩ := lost_of_reopens serverParams (coupled_after ..) (by simpa using again)
    obtain ⟨rest, rfl⟩ := before
    rw [← after_snoc] at lost
    have gone := lost_after lost rest
    have closed := leaks.closed handle gone.1
    rw [gone.unclosed (coupled_after ..)] at closed
    cases closed
  · intro never
    refine ⟨?_, ?_⟩
    · intro handle made
      obtain ⟨same, few⟩ := single_after never
      have first : handle = 0 := by omega
      have one : (after hasConnection query serverParams calls).made = 1 := by omega
      rw [(coupled_after ..).closed_destroy, same, one, first]
      rfl
    · intro earlier before
      rw [(coupled_after ..).stillOpen_length]
      exact (single_after fun first call inside => never first call (inside.trans before)).2

/-- The server refuses the query twice. The handle of the first attempt is gone. -/
theorem handle_leaks : ¬ ∀ (hasConnection : Bool) (query : String) (serverParams : Nat) (calls : List Call),
    LeaksNothing hasConnection query serverParams calls := by
  intro leaks
  have closed := (leaks true "SELEC 1" 0 [.execute { prepare := false }, .execute { prepare := false }]).closed 0
    (by decide)
  exact absurd closed (by decide)

end OmpMySQL.StatementCalls
