import Mathlib.Data.List.Induction
import OmpMySQL.Proofs.Staging
import OmpMySQL.StatementCalls

/-! Whatever number of placeholders the server reports, an execution hands it the
last value bound to each of them and nothing else. -/

namespace OmpMySQL.StatementCalls
open PreparedStatement StatementRuns

variable {serverParams : Nat} {bound : Nat → StmtParam}

theorem after_snoc (hasConnection : Bool) (query : String) (serverParams : Nat) (calls : List Call) (call : Call) :
    after hasConnection query serverParams (calls ++ [call]) =
      (after hasConnection query serverParams calls).perform serverParams call := by
  rw [after, after, List.foldl_append, List.foldl_cons, List.foldl_nil]

theorem lastBound_snoc (calls : List Call) (call : Call) :
    lastBound (calls ++ [call]) =
      call.binding.elim (lastBound calls) fun place => bindTo (lastBound calls) place.1 place.2 := by
  rw [lastBound, lastBound, List.foldl_append, List.foldl_cons, List.foldl_nil]

theorem Owner.execute_statement (owner : Owner) (reply : StatementReply) :
    (owner.execute serverParams reply).statement = (owner.statement.execute serverParams reply).statement := by
  rw [Owner.execute]
  split
  next => split <;> rfl
  next => rfl

theorem staged_perform {owner : Owner} (staged : Staged serverParams bound owner.statement) (call : Call) :
    Staged serverParams (call.binding.elim bound fun place => bindTo bound place.1 place.2)
      (owner.perform serverParams call).statement := by
  cases call with
  | bindInt index value => exact staged.bind index (.int value)
  | bindFloat index bits => exact staged.bind index (.float bits)
  | bindString index value => exact staged.bind index (.string value)
  | bindNull index => exact staged.bind index .null
  | execute reply =>
    rw [Owner.perform, Owner.execute_statement]
    exact staged.execute reply

theorem staged_after (hasConnection : Bool) (query : String) (serverParams : Nat) (calls : List Call) :
    Staged serverParams (lastBound calls) (after hasConnection query serverParams calls).statement := by
  induction calls using List.reverseRecOn with
  | nil => exact staged_make hasConnection query
  | append_singleton calls call ih =>
    rw [after_snoc, lastBound_snoc]
    exact staged_perform ih call

/-- The array has an entry for each placeholder of the server, it is the last value
bound there, and no entry is read past the staged values. -/
structure Carries (serverParams : Nat) (bound : Nat → StmtParam) (array : List (Option StmtParam)) : Prop where
  long : serverParams ≤ array.length
  staged : none ∉ array
  entries : ∀ i, i < serverParams → array[i]? = some (some (bound i))

theorem bindArray_reached {statement : PreparedStatement} {reply : StatementReply} {array : List (Option StmtParam)}
    (reached : statement.bindArray serverParams reply = some array) :
    ∃ prepared, statement.prepare serverParams reply = (prepared, true) ∧
      array = (List.range prepared.paramCount).map fun i => prepared.params[i]? := by
  rw [PreparedStatement.bindArray] at reached
  split at reached
  next => cases reached
  split at reached
  next => cases reached
  next prepared same =>
    refine ⟨prepared, same, ?_⟩
    split at reached
    next => cases reached
    next =>
      cases reached
      rfl

theorem carries_bindArray {statement : PreparedStatement} (staged : Staged serverParams bound statement)
    {reply : StatementReply} {array : List (Option StmtParam)}
    (reached : statement.bindArray serverParams reply = some array) : Carries serverParams bound array := by
  obtain ⟨prepared, prepares, rfl⟩ := bindArray_reached reached
  obtain ⟨sized, _, entries⟩ := staged.prepared prepares
  have counted (i : Nat) (within : i < serverParams) : i < prepared.paramCount := by
    rw [← sized]
    exact (List.getElem?_eq_some_iff.mp (entries i within)).1
  refine ⟨?_, ?_, ?_⟩
  · rw [List.length_map, List.length_range]
    by_contra short
    exact Nat.lt_irrefl _ (counted _ (Nat.not_le.mp short))
  · intro outside
    obtain ⟨i, inside, missing⟩ := List.mem_map.mp outside
    have past := List.getElem?_eq_none_iff.mp missing
    have within := List.mem_range.mp inside
    omega
  · intro i within
    rw [List.getElem?_map, List.getElem?_range (counted i within), Option.map_some, entries i within]

theorem bindTo_apply (bound : Nat → StmtParam) (index : Int) (value : StmtParam) (i : Nat) :
    bindTo bound index value i = if 0 ≤ index ∧ i = index.toNat then value else bound i := by
  by_cases negative : index < 0
  · rw [bindTo, if_pos negative, if_neg (by omega)]
  · rw [bindTo, if_neg negative]
    simp only [show 0 ≤ index by omega, true_and]

/-- Leaving out the binds at other indices changes no placeholder of the server. -/
theorem lastBound_filter (calls : List Call) {i : Nat} (within : i < serverParams) :
    lastBound (calls.filter (Call.matters serverParams)) i = lastBound calls i := by
  induction calls using List.reverseRecOn with
  | nil => rfl
  | append_singleton calls call ih =>
    rw [List.filter_append, lastBound_snoc]
    cases bind : call.binding with
    | none =>
      have kept : [call].filter (Call.matters serverParams) = [call] := by simp [Call.matters, bind]
      rw [kept, lastBound_snoc, bind]
      exact ih
    | some place =>
      by_cases matters : 0 ≤ place.1 ∧ place.1 < (serverParams : Int)
      · have kept : [call].filter (Call.matters serverParams) = [call] := by simp [Call.matters, bind, matters]
        rw [kept, lastBound_snoc, bind]
        simp only [Option.elim_some, bindTo_apply, ih]
      · have gone : [call].filter (Call.matters serverParams) = [] := by simp [Call.matters, bind, matters]
        rw [gone, List.append_nil, ih]
        rw [Option.elim_some, bindTo_apply, if_neg (by omega)]

/-- What is sent is the array handed over, as far as the server looks. -/
theorem Carries.sent {array : List (Option StmtParam)} (carries : Carries serverParams bound array) :
    array.take serverParams = ((List.range serverParams).map bound).map some := by
  apply List.ext_getElem?
  intro i
  rw [List.getElem?_take, List.map_map, List.getElem?_map]
  by_cases within : i < serverParams
  · rw [if_pos within, carries.entries i within, List.getElem?_range within]
    rfl
  · rw [if_neg within, List.getElem?_eq_none (by rw [List.length_range]; omega)]
    rfl

/-- An execution that gets to binding hands over the most recent value of each of the
server's placeholders, what it sends is what it handed over as far as the server looks, and no
other bind changes it. -/
theorem staging_reconciles (hasConnection : Bool) (query : String) (serverParams : Nat) (calls : List Call)
    (reply : StatementReply) (array : List (Option StmtParam))
    (reached : (after hasConnection query serverParams calls).statement.bindArray serverParams reply = some array) :
    Carries serverParams (lastBound calls) array ∧
      ∀ values, ((after hasConnection query serverParams calls).statement.execute serverParams reply).sent = some values →
        values = (List.range serverParams).map (lastBound (calls.filter (Call.matters serverParams))) ∧
          array.take serverParams = values.map some := by
  have staged := staged_after hasConnection query serverParams calls
  have carries := carries_bindArray staged reached
  refine ⟨carries, ?_⟩
  intro values sent
  have own := staged.sends sent
  refine ⟨?_, own ▸ carries.sent⟩
  rw [own]
  apply List.map_congr_left
  intro i inside
  exact (lastBound_filter calls (List.mem_range.mp inside)).symm

/-- The server refuses the text first, and is asked once more. -/
private def refusedFirst : List Call := [.bindInt 3 9, .bindInt (-1) 8, .execute { prepare := false }, .bindString 0 "x"]

/-- The estimate is two, a bind raises it to four, and the server has three. -/
theorem staging_reconciles_three :
    ∃ array, (after true "SELECT ?, ?" 3 refusedFirst).statement.bindArray 3 {} = some array ∧
      Carries 3 (lastBound refusedFirst) array ∧
      ((after true "SELECT ?, ?" 3 refusedFirst).statement.execute 3 {}).sent = some [.string "x", .null, .null] ∧
      array.take 3 = [some (.string "x"), some .null, some .null] := by
  have reached : ((after true "SELECT ?, ?" 3 refusedFirst).statement.bindArray 3 {}).isSome := by decide
  have sent : ((after true "SELECT ?, ?" 3 refusedFirst).statement.execute 3 {}).sent =
      some [.string "x", .null, .null] := by decide
  obtain ⟨array, same⟩ := Option.isSome_iff_exists.mp reached
  obtain ⟨carries, shows⟩ := staging_reconciles _ _ _ _ _ _ same
  exact ⟨array, same, carries, sent, (shows _ sent).2⟩

end OmpMySQL.StatementCalls
