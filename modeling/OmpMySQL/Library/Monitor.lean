/-! Threads that share one mutex and wait on one condition variable. A wait
evaluates its predicate with the mutex held and, when that comes out false,
releases the mutex and blocks in one step. -/

namespace OmpMySQL.Library

universe u
variable {α : Type u}

/-- Where a thread stands with respect to the monitor. `refused` has seen its
predicate come out false and not blocked yet; `admitted` has seen it come out true. -/
inductive Waiter (α : Type u) where
  | entering
  | locked
  | refused
  | blocked
  | woken
  | admitted
  | outside (place : α)
  deriving DecidableEq, Repr

namespace Waiter

def holdsMutex : Waiter α → Bool
  | .locked | .refused | .admitted => true
  | .entering | .blocked | .woken | .outside _ => false

/-- On its way to the predicate, or past it with the mutex still held. -/
def comes : Waiter α → Bool
  | .entering | .locked | .woken | .admitted => true
  | .refused | .blocked | .outside _ => false

def acquire : Waiter α → Option (Waiter α)
  | .entering | .woken => some .locked
  | _ => none

def evaluate (predicate : Bool) : Waiter α → Option (Waiter α)
  | .locked => some (if predicate then .admitted else .refused)
  | _ => none

def block : Waiter α → Option (Waiter α)
  | .refused => some .blocked
  | _ => none

def wake : Waiter α → Option (Waiter α)
  | .blocked => some .woken
  | _ => none

def resume (after : Waiter α) : Waiter α → Option (Waiter α)
  | .admitted => some after
  | _ => none

def notified : Waiter α → Waiter α
  | .blocked => .woken
  | thread => thread

/-- Neither blocked nor bound to block without another look at the predicate. -/
def Attentive (thread : Waiter α) : Prop := thread ≠ .refused ∧ thread ≠ .blocked

theorem attentive_acquire {thread after : Waiter α} (moved : thread.acquire = some after) : after.Attentive := by
  cases thread <;> cases moved <;> exact ⟨nofun, nofun⟩

theorem attentive_evaluate {thread after : Waiter α} (moved : thread.evaluate true = some after) :
    after.Attentive := by
  cases thread <;> cases moved
  exact ⟨nofun, nofun⟩

theorem attentive_wake {thread after : Waiter α} (moved : thread.wake = some after) : after.Attentive := by
  cases thread <;> cases moved
  exact ⟨nofun, nofun⟩

theorem attentive_resume {after thread updated : Waiter α} (attentive : after.Attentive)
    (moved : resume after thread = some updated) : updated.Attentive := by
  cases thread <;> cases moved
  exact attentive

theorem attentive_notified {thread : Waiter α} (seen : thread ≠ .refused) : thread.notified.Attentive := by
  cases thread with
  | refused => exact absurd rfl seen
  | entering | locked | blocked | woken | admitted | outside _ => exact ⟨nofun, nofun⟩

end Waiter

def mutexFree (threads : List (Waiter α)) : Bool := threads.all (!·.holdsMutex)

def moveThread (threads : List (Waiter α)) (index : Nat) (act : Waiter α → Option (Waiter α)) :
    Option (List (Waiter α)) :=
  threads[index]?.bind fun thread => (act thread).map (threads.set index)

def notifyOne [DecidableEq α] (threads : List (Waiter α)) : Option Nat → Option (List (Waiter α))
  | some index => moveThread threads index Waiter.wake
  | none => if .blocked ∈ threads then none else some threads

def notifyAll (threads : List (Waiter α)) : List (Waiter α) := threads.map Waiter.notified

theorem moveThread_eq_some {threads after : List (Waiter α)} {index : Nat}
    {act : Waiter α → Option (Waiter α)} (moved : moveThread threads index act = some after) :
    ∃ thread updated, thread ∈ threads ∧ act thread = some updated ∧ after = threads.set index updated := by
  obtain ⟨thread, found, rest⟩ := Option.bind_eq_some_iff.mp moved
  obtain ⟨updated, acted, rfl⟩ := Option.map_eq_some_iff.mp rest
  exact ⟨thread, updated, List.mem_of_getElem? found, acted, rfl⟩

theorem forall_moveThread {holds : Waiter α → Prop} {threads after : List (Waiter α)} {index : Nat}
    {act : Waiter α → Option (Waiter α)} (all : ∀ thread ∈ threads, holds thread)
    (kept : ∀ thread updated, thread ∈ threads → act thread = some updated → holds updated)
    (moved : moveThread threads index act = some after) : ∀ thread ∈ after, holds thread := by
  obtain ⟨thread, updated, member, acted, rfl⟩ := moveThread_eq_some moved
  intro other present
  rcases List.mem_or_eq_of_mem_set present with old | rfl
  · exact all other old
  · exact kept thread other member acted

theorem countP_set_add {counted : Waiter α → Bool} {threads : List (Waiter α)} {index : Nat} {thread : Waiter α}
    (found : threads[index]? = some thread) (updated : Waiter α) :
    (threads.set index updated).countP counted + (counted thread).toNat =
      threads.countP counted + (counted updated).toNat := by
  obtain ⟨inside, same⟩ := List.getElem?_eq_some_iff.mp found
  have member : thread ∈ threads := same ▸ List.getElem_mem inside
  rw [List.countP_set inside, same]
  cases here : counted thread with
  | false => cases counted updated <;> simp
  | true =>
    have positive : 0 < threads.countP counted := List.countP_pos_iff.mpr ⟨thread, member, here⟩
    cases counted updated
    · simp only [Bool.toNat_true, Bool.toNat_false, if_true, Bool.false_eq_true, if_false]
      omega
    · simp only [Bool.toNat_true, if_true]
      omega

/-- A move changes a count by what it changes for the thread that moves. -/
theorem countP_moveThread {counted : Waiter α → Bool} {threads after : List (Waiter α)} {index : Nat}
    {act : Waiter α → Option (Waiter α)} (moved : moveThread threads index act = some after) :
    ∃ thread updated, thread ∈ threads ∧ act thread = some updated ∧
      after.countP counted + (counted thread).toNat = threads.countP counted + (counted updated).toNat := by
  obtain ⟨thread, found, rest⟩ := Option.bind_eq_some_iff.mp moved
  obtain ⟨updated, acted, rfl⟩ := Option.map_eq_some_iff.mp rest
  exact ⟨thread, updated, List.mem_of_getElem? found, acted, countP_set_add found updated⟩

/-- What a move brings about was there, or is what the thread has become. -/
theorem mem_moveThread {threads after : List (Waiter α)} {index : Nat} {act : Waiter α → Option (Waiter α)}
    (moved : moveThread threads index act = some after) {other : Waiter α} (present : other ∈ after) :
    other ∈ threads ∨ ∃ thread, act thread = some other := by
  obtain ⟨thread, updated, _, acted, rfl⟩ := moveThread_eq_some moved
  rcases List.mem_or_eq_of_mem_set present with old | rfl
  · exact Or.inl old
  · exact Or.inr ⟨thread, acted⟩

theorem moveThread_isSome {threads : List (Waiter α)} {index : Nat} {act : Waiter α → Option (Waiter α)} {thread : Waiter α}
    (found : threads[index]? = some thread) (able : (act thread).isSome) : (moveThread threads index act).isSome := by
  rw [moveThread, found, Option.bind_some, Option.isSome_map]
  exact able

theorem moveThread_ne_nil {threads after : List (Waiter α)} {index : Nat} {act : Waiter α → Option (Waiter α)}
    (moved : moveThread threads index act = some after) : after ≠ [] := by
  obtain ⟨thread, updated, member, _, rfl⟩ := moveThread_eq_some moved
  intro none
  rw [List.set_eq_nil_iff] at none
  exact List.ne_nil_of_mem member none

theorem not_blocked_notifyAll {threads : List (Waiter α)} : .blocked ∉ notifyAll threads := by
  intro present
  obtain ⟨thread, _, same⟩ := List.mem_map.mp present
  cases thread <;> cases same

theorem forall_notifyAll {threads : List (Waiter α)} (seen : ∀ thread ∈ threads, thread ≠ .refused) :
    ∀ thread ∈ notifyAll threads, thread.Attentive := by
  intro after present
  obtain ⟨thread, member, rfl⟩ := List.mem_map.mp present
  exact Waiter.attentive_notified (seen thread member)

end OmpMySQL.Library
