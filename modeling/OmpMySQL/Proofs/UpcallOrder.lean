import OmpMySQL.Proofs.NestedUpcalls

/-! The order of upcalls on the stack. Only a tick gets to a callback, and only from
outside every script; what scripts set off by themselves are hooks. -/

namespace OmpMySQL

/-- A dispatch that stays clear of its job's callback. -/
def Resumption.Hook : Resumption → Prop
  | .audited job _ => job.callback = ""
  | .reported => True
  | .calledBack => False

def Progress.Hooks : Progress → Prop
  | .returned _ => True
  | .calling _ _ resumption => resumption.Hook

namespace Component
variable {component : Component} {job : QueryJob} {script : Nat} {progress : Progress}

theorem rest_hooks (anonymous : job.callback = "") (rest : component.Rest job script progress) : progress.Hooks := by
  cases rest with
  | returned | reported => trivial
  | calledBack _ _ named => exact absurd anonymous named

theorem begin_hooks (strtof : String → Cell) (component : Component) (anonymous : job.callback = "") :
    (component.beginDispatch strtof job).Hooks := by
  have start := component.beginDispatch_start strtof job
  generalize component.beginDispatch strtof job = progress at start
  cases start with
  | unresolved => trivial
  | audited => exact anonymous
  | unaudited _ _ rest => exact rest_hooks anonymous rest

theorem resume_hooks (strtof : String → Cell) (component : Component) {resumption : Resumption} (hook : resumption.Hook) :
    (component.resumeDispatch strtof resumption).Hooks := by
  cases resumption with
  | audited job script => exact rest_hooks hook (component.afterAudit_rest strtof job script)
  | reported => trivial
  | calledBack => exact absurd hook id

end Component

namespace MainThread
open Library

def Caller.isTick : Caller → Bool
  | .tick => true
  | .sync .. | .syncReject => false

/-- A public the main thread called from outside every other. -/
def Waiting.Outer : Waiting → Prop
  | .server | .hash => True
  | .dispatch _ _ caller => caller.isTick = true
  | .reject => False

/-- A public that was called because another one called a native. -/
def Waiting.Inner : Waiting → Prop
  | .reject => True
  | .dispatch _ resumption caller => caller.isTick = false ∧ resumption.Hook
  | .server | .hash => False

inductive Orderly : List Activation → Prop where
  | nil : Orderly []
  | outer {activation} (first : activation.waiting.Outer) : Orderly [activation]
  | inner {activation stack} (nested : activation.waiting.Inner) (inside : stack ≠ []) (below : Orderly stack) :
      Orderly (activation :: stack)

theorem Orderly.tail {activation : Activation} {stack : List Activation} (orderly : Orderly (activation :: stack)) :
    Orderly stack := by
  cases orderly with
  | outer => exact .nil
  | inner _ _ below => exact below

/-- What a tick waits for is the outermost public. -/
theorem Orderly.outermost {activation : Activation} {stack : List Activation} (orderly : Orderly (activation :: stack))
    {serial : Nat} {resumption : Resumption} {caller : Caller} (waits : activation.waiting = .dispatch serial resumption caller)
    (ticks : caller.isTick = true) : stack = [] := by
  cases orderly with
  | outer => rfl
  | inner nested =>
    rw [waits] at nested
    exact absurd ticks (by simp [nested.1])

theorem Orderly.hooks {activation : Activation} {stack : List Activation} (orderly : Orderly (activation :: stack))
    {serial : Nat} {resumption : Resumption} {caller : Caller} (waits : activation.waiting = .dispatch serial resumption caller)
    (asked : caller.isTick = false) : stack ≠ [] ∧ resumption.Hook := by
  cases orderly with
  | outer first =>
    rw [waits] at first
    exact absurd first (by simp [Waiting.Outer, asked])
  | inner nested inside =>
    rw [waits] at nested
    exact ⟨inside, nested.2⟩

end MainThread
end OmpMySQL
