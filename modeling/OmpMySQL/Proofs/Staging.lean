import OmpMySQL.StatementRuns

/-! Staged parameters always show what was last bound to each placeholder of the
server, however the estimate of their number compares with the server's. -/

namespace OmpMySQL
namespace PreparedStatement

theorem length_resize (params : List StmtParam) (size : Nat) : (resize params size).length = size := by
  simp only [resize, List.length_append, List.length_take, List.length_replicate]
  omega

theorem getD_resize (params : List StmtParam) {size index : Nat} (within : index < size) :
    (resize params size).getD index .null = params.getD index .null := by
  simp only [resize, List.getD_eq_getElem?_getD, List.getElem?_append, List.length_take]
  by_cases present : index < params.length
  · rw [if_pos (by omega), List.getElem?_take_of_lt within]
  · rw [if_neg (by omega), List.getElem?_eq_none (l := params) (by omega)]
    cases found : (List.replicate (size - params.length) StmtParam.null)[index - min size params.length]? with
    | none => rfl
    | some value => exact List.eq_of_mem_replicate (List.mem_of_getElem? found)

/-- An execution changes the statement by preparing it and in no other way. -/
theorem statement_execute (statement : PreparedStatement) (serverParams : Nat) (reply : StatementReply) :
    (statement.execute serverParams reply).statement =
      if statement.valid then (statement.prepare serverParams reply).1 else statement := by
  rw [PreparedStatement.execute]
  cases statement.valid with
  | false => rfl
  | true =>
    simp only [Bool.true_eq_false, if_false, if_true]
    split
    next same => rw [same]
    next same =>
      rw [same]
      split
      next => rfl
      split <;> rfl

/-- What is sent is cut off at the server's own count. -/
theorem sent_execute {statement : PreparedStatement} {serverParams : Nat} {reply : StatementReply}
    {values : List StmtParam} (sent : (statement.execute serverParams reply).sent = some values) :
    ∃ prepared, statement.prepare serverParams reply = (prepared, true) ∧
      values = (prepared.params.take prepared.paramCount).take (prepared.stmt.getD 0) := by
  rw [PreparedStatement.execute] at sent
  split at sent
  next => cases sent
  split at sent
  next => cases sent
  next prepared same =>
    refine ⟨prepared, same, ?_⟩
    split at sent
    next => cases sent
    split at sent
    next =>
      cases sent
      rfl
    next =>
      cases sent
      rfl

end PreparedStatement

namespace StatementRuns
open PreparedStatement

/-- Only the server's own placeholders matter: a first execution may cut off the
rest. -/
structure Staged (serverParams : Nat) (bound : Nat → StmtParam) (statement : PreparedStatement) : Prop where
  sized : statement.params.length = statement.paramCount
  shown : ∀ i, i < serverParams → statement.params.getD i .null = bound i
  ready : statement.prepared = true → statement.stmt = some serverParams ∧ serverParams ≤ statement.params.length

variable {serverParams : Nat} {bound : Nat → StmtParam} {statement : PreparedStatement}

theorem staged_make (hasConnection : Bool) (query : String) :
    Staged serverParams (fun _ => .null) (PreparedStatement.make hasConnection query) := by
  rw [PreparedStatement.make]
  split
  next => exact ⟨rfl, fun _ _ => rfl, nofun⟩
  next =>
    refine ⟨List.length_replicate, ?_, nofun⟩
    intro i _
    simp only [List.getD_eq_getElem?_getD, List.getElem?_replicate]
    split <;> rfl

theorem Staged.ensure (staged : Staged serverParams bound statement) (index : Nat) :
    Staged serverParams bound (statement.ensureParam index) ∧
      index < (statement.ensureParam index).params.length := by
  rw [PreparedStatement.ensureParam]
  split
  next beyond =>
    have sized := staged.sized
    refine ⟨⟨?_, ?_, ?_⟩, ?_⟩
    · simp only [length_resize]
      omega
    · intro i within
      by_cases inside : i < index + 1
      · rw [getD_resize _ inside]
        exact staged.shown i within
      · have outside : statement.params.length ≤ i := by omega
        have cut : (resize statement.params (index + 1)).length ≤ i := by
          rw [length_resize]
          omega
        rw [← staged.shown i within, List.getD_eq_getElem?_getD, List.getD_eq_getElem?_getD,
          List.getElem?_eq_none outside, List.getElem?_eq_none cut]
    · intro prepared
      obtain ⟨server, fits⟩ := staged.ready prepared
      refine ⟨server, ?_⟩
      simp only [length_resize]
      omega
    · simp [length_resize]
  next fits => exact ⟨staged, by omega⟩

theorem Staged.bind (staged : Staged serverParams bound statement) (index : Int) (value : StmtParam) :
    Staged serverParams (bindTo bound index value) (statement.bind index value) := by
  unfold PreparedStatement.bind bindTo
  split
  next => exact staged
  next =>
    obtain ⟨grown, inside⟩ := staged.ensure index.toNat
    refine ⟨by simpa using grown.sized, ?_, ?_⟩
    · intro i within
      by_cases here : i = index.toNat
      · subst here
        simp [List.getD_eq_getElem?_getD, inside]
      · rw [if_neg here, ← grown.shown i within]
        simp [List.getD_eq_getElem?_getD, List.getElem?_set_ne (Ne.symm here)]
    · intro prepared
      simpa using grown.ready prepared

theorem Staged.prepare (staged : Staged serverParams bound statement) (reply : StatementReply) :
    Staged serverParams bound (statement.prepare serverParams reply).1 ∧
      ((statement.prepare serverParams reply).2 = true → (statement.prepare serverParams reply).1.prepared = true) := by
  rw [PreparedStatement.prepare]
  by_cases prepared : statement.prepared = true
  · rw [if_pos prepared]
    exact ⟨staged, fun _ => prepared⟩
  have unprepared : ∀ stmt, Staged serverParams bound { statement with stmt := stmt } :=
    fun _ => ⟨staged.sized, staged.shown, fun ready => absurd ready prepared⟩
  rw [if_neg prepared]
  split
  next => exact ⟨staged, nofun⟩
  split
  next => exact ⟨unprepared _, nofun⟩
  split
  next => exact ⟨unprepared _, nofun⟩
  refine ⟨?_, fun _ => rfl⟩
  split
  next same =>
    refine ⟨staged.sized, staged.shown, fun _ => ⟨rfl, ?_⟩⟩
    simp [staged.sized, same]
  next =>
    refine ⟨length_resize _ _, ?_, fun _ => ⟨rfl, by simp [length_resize]⟩⟩
    intro i within
    rw [getD_resize _ within]
    exact staged.shown i within

theorem Staged.execute (staged : Staged serverParams bound statement) (reply : StatementReply) :
    Staged serverParams bound (statement.execute serverParams reply).statement := by
  rw [statement_execute]
  split
  next => exact (staged.prepare reply).1
  next => exact staged

/-- A statement that is prepared shows all of the server's placeholders. -/
theorem Staged.prepared {after : PreparedStatement} (staged : Staged serverParams bound statement)
    {reply : StatementReply} (prepares : statement.prepare serverParams reply = (after, true)) :
    after.params.length = after.paramCount ∧ after.stmt = some serverParams ∧
      ∀ i, i < serverParams → after.params[i]? = some (bound i) := by
  have reached := staged.prepare reply
  rw [prepares] at reached
  obtain ⟨kept, ready⟩ : Staged serverParams bound after ∧ (true = true → after.prepared = true) := reached
  obtain ⟨server, fits⟩ := kept.ready (ready rfl)
  refine ⟨kept.sized, server, ?_⟩
  intro i within
  have inside : i < after.params.length := by omega
  rw [← kept.shown i within, List.getD_eq_getElem?_getD, List.getElem?_eq_getElem inside, Option.getD_some]

theorem Staged.sends (staged : Staged serverParams bound statement) {reply : StatementReply} {values : List StmtParam}
    (sent : (statement.execute serverParams reply).sent = some values) :
    values = (List.range serverParams).map bound := by
  obtain ⟨after, prepares, rfl⟩ := sent_execute sent
  obtain ⟨sized, server, entries⟩ := staged.prepared prepares
  apply List.ext_getElem?
  intro i
  rw [server, Option.getD_some, ← sized, List.take_length]
  by_cases within : i < serverParams
  · rw [List.getElem?_take_of_lt within, entries i within, List.getElem?_map, List.getElem?_range within,
      Option.map_some]
  · rw [List.getElem?_take_eq_none (by omega), List.getElem?_eq_none (by simpa using within)]

end StatementRuns
end OmpMySQL
