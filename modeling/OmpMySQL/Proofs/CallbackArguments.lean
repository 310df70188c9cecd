import OmpMySQL.HashPool
import OmpMySQL.Proofs.FormatRendering

/-! A callback receives the values that its job was given. Decoding goes through the format
from the front, pushing goes through the arguments from the back. -/

namespace OmpMySQL

/-- A frame's strings lie below the top of its heap. -/
def Frame.Below (frame : Frame) : Prop := ∀ pushed ∈ frame.heap, pushed.1 < frame.hea

/-- The parameter at an index is this argument. -/
def Frame.Shows (frame : Frame) (index : Nat) : CallbackArg → Prop
  | .int value => frame.params[index]? = some (toCell value)
  | .float bits => frame.params[index]? = some bits
  | .string text => ∃ addr, frame.params[index]? = some addr ∧ frame.heap.lookup addr = some (cString text)

def Frame.pushArg (frame : Frame) : CallbackArg → Frame
  | .int value => frame.push (toCell value)
  | .float bits => frame.push bits
  | .string text => frame.pushString text

theorem pushArgs_cons (frame : Frame) (arg : CallbackArg) (rest : List CallbackArg) :
    pushArgs frame (arg :: rest) = (pushArgs frame rest).pushArg arg := by
  rw [pushArgs, List.reverse_cons, List.foldl_append]
  cases arg <;> rfl

section
variable {frame : Frame} {index : Nat}

theorem Frame.Below.pushArg (below : frame.Below) (arg : CallbackArg) : (frame.pushArg arg).Below := by
  cases arg with
  | int | float => exact below
  | string text =>
    intro pushed inside
    have room : frame.hea < frame.hea + 4 * ((cString text).length + 1) := by omega
    rcases List.mem_cons.mp inside with rfl | old
    · exact room
    · exact Int.lt_trans (below pushed old) room

theorem Frame.pushArg_shows (frame : Frame) (arg : CallbackArg) : (frame.pushArg arg).Shows 0 arg := by
  cases arg with
  | int | float => rfl
  | string text => exact ⟨frame.hea, rfl, List.lookup_cons_self⟩

/-- What was pushed before keeps its string, and moves up by one. -/
theorem Frame.Shows.pushArg {held : CallbackArg} (shows : frame.Shows index held) (below : frame.Below)
    (arg : CallbackArg) : (frame.pushArg arg).Shows (index + 1) held := by
  cases arg with
  | int | float => cases held <;> exact shows
  | string text =>
    cases held with
    | int | float => exact shows
    | string other =>
      obtain ⟨addr, param, found⟩ := shows
      refine ⟨addr, param, ?_⟩
      have apart : (addr == frame.hea) = false := by
        rw [beq_eq_false_iff_ne]
        obtain ⟨before, after, split, _⟩ := List.lookup_eq_some_iff.mp found
        have lower := below (addr, cString other) (by rw [split]; simp)
        exact Int.ne_of_lt lower
      rw [Frame.pushArg, Frame.pushString, List.lookup_cons, apart]
      exact found

variable {args : List CallbackArg}

theorem Frame.Below.pushArgs (below : frame.Below) : (pushArgs frame args).Below := by
  induction args with
  | nil => exact below
  | cons arg rest ih =>
    rw [pushArgs_cons]
    exact ih.pushArg arg

theorem Frame.Shows.pushArgs {held : CallbackArg} (shows : frame.Shows index held) (below : frame.Below) :
    (pushArgs frame args).Shows (index + args.length) held := by
  induction args with
  | nil => exact shows
  | cons arg rest ih =>
    rw [pushArgs_cons]
    exact ih.pushArg below.pushArgs arg

theorem pushArgs_length : (pushArgs frame args).params.length = args.length + frame.params.length := by
  induction args with
  | nil => simp [pushArgs]
  | cons arg rest ih =>
    have one : (pushArgs frame (arg :: rest)).params.length = (pushArgs frame rest).params.length + 1 := by
      rw [pushArgs_cons]
      cases arg <;> rfl
    rw [one, ih, List.length_cons]
    omega

theorem pushArgs_shows (below : frame.Below) {arg : CallbackArg} (given : args[index]? = some arg) :
    (pushArgs frame args).Shows index arg := by
  induction args generalizing index with
  | nil => simp at given
  | cons first rest ih =>
    rw [pushArgs_cons]
    cases index with
    | zero =>
      have same : first = arg := Option.some.inj given
      rw [same]
      exact Frame.pushArg_shows _ arg
    | succ index => exact (ih given).pushArg below.pushArgs first

end

theorem AMX.frame_below (amx : AMX) : amx.frame.Below := fun _ inside => absurd inside List.not_mem_nil

/-- What a string argument becomes in the callee. -/
theorem Frame.Shows.text {frame : Frame} {index : Nat} {text : String} (shows : frame.Shows index (.string text))
    (amx : AMX) (name : String) (upcall : Upcall) (active : Option QueryResult) :
    (frame.exec amx name upcall active).text index = some (cString text) := by
  obtain ⟨addr, param, found⟩ := shows
  rw [Invocation.text, Frame.exec]
  simp only [param, Option.bind_some, found]

namespace NativeCall
variable (reader : ScriptReader) (call : NativeCall)

/-- The specifiers that take a value, each with the value it takes. -/
def taken (format : List Char) (values : List Cell) : List (Char × Cell) :=
  (format.filter (· ∈ ['d', 'i', 'f', 's'])).zip values

def decode (spec : Char) (value : Cell) : CallbackArg :=
  if spec = 's' then .string (call.amxStringParam reader value)
  else if spec = 'f' then .float (call.cell value)
  else .int (call.cell value)

theorem decodeFormat_eq (format : List Char) (values : List Cell) :
    call.decodeFormat reader format values =
      (taken format values).map fun pair => call.decode reader pair.1 pair.2 := by
  induction format, values using decodeFormat.induct with
  | case1 values => rfl
  | case2 format some => simp [decodeFormat, taken]
  | case3 spec rest value others int ih =>
    rcases int with rfl | rfl
    · simp [decodeFormat, taken, decode, ih]
    · simp [decodeFormat, taken, decode, ih]
  | case4 spec rest value others ih => simp [decodeFormat, taken, decode, ih]
  | case5 rest value others int float ih => simp [decodeFormat, taken, decode, ih]
  | case6 spec rest value others int float string ih =>
    rw [not_or] at int
    simp [decodeFormat, int, float, string, ih, taken]

/-- A value at its place among the parameters of a callback. -/
def Arrives (received : Invocation) (index : Nat) (spec : Char) (value : Cell) : Prop :=
  if spec = 's' then
    received.text index = some (cString (call.amxStringParam reader value)) ∧
      ∀ addr text, call.getAddr value = some addr → PawnText text → HoldsText call.memory addr text →
        received.text index = some (String.ofList text)
  else received.params[index]? = some (call.cell value)

/-- A callback's parameters are these values in order, and some more. -/
structure Receives (values : List (Char × Cell)) (more : Nat) (received : Invocation) : Prop where
  count : received.params.length = values.length + more
  arrives : ∀ index spec value, values[index]? = some (spec, value) → call.Arrives reader received index spec value

variable {reader} {call}

theorem arrives_of_shows (reads : reader.ReadsText) {frame : Frame} {index : Nat} {spec : Char} {value : Cell}
    (shows : frame.Shows index (call.decode reader spec value)) (amx : AMX) (name : String) (upcall : Upcall)
    (active : Option QueryResult) : call.Arrives reader (frame.exec amx name upcall active) index spec value := by
  rw [decode] at shows
  rw [Arrives]
  split
  next string =>
    rw [if_pos string] at shows
    have text := shows.text amx name upcall active
    refine ⟨text, ?_⟩
    intro addr chars valid pawn holds
    have read : call.amxStringParam reader value = String.ofList chars := by
      rw [amxStringParam, valid, Option.map_some, Option.getD_some]
      exact reads call.memory addr chars pawn holds
    rw [text, read, (cString_eq_iff _).mpr pawn.nulFree]
  next other =>
    rw [if_neg other] at shows
    split at shows
    next => exact shows
    next =>
      rw [Frame.Shows, toCell_cell] at shows
      exact shows

theorem receives_pushed (reads : reader.ReadsText) {frame : Frame} (below : frame.Below) (format : List Char)
    (values : List Cell) (amx : AMX) (name : String) (upcall : Upcall) (active : Option QueryResult) :
    call.Receives reader (taken format values) frame.params.length
      ((pushArgs frame (call.decodeFormat reader format values)).exec amx name upcall active) := by
  have args := call.decodeFormat_eq reader format values
  constructor
  · rw [Frame.exec, pushArgs_length, args, List.length_map]
  · intro index spec value given
    refine arrives_of_shows reads ?_ amx name upcall active
    refine pushArgs_shows below ?_
    rw [args, List.getElem?_map, given]
    rfl

/-- Without a format there are no values either. -/
theorem decodeFormat_short {given : Prop} [Decidable given] {format : List Char} (short : ¬ given → call.params.length ≤ 4) :
    (if given then call.decodeFormat reader format (call.params.drop 4) else []) =
      call.decodeFormat reader format (call.params.drop 4) := by
  split
  next => rfl
  next absent =>
    rw [List.drop_of_length_le (short absent), decodeFormat_eq, taken, List.zip_nil_right, List.map_nil]

/-- With a password and a callback there is a job to hash it, whose arguments are decoded from the rest. -/
theorem mysqlHash_enough (enough : 2 ≤ call.params.length) :
    call.mysqlHash reader = some
      { op := .hash
        password := call.amxStringParam reader (call.param 1)
        callback := call.amxStringParam reader (call.param 2)
        args := call.decodeFormat reader (call.amxStringParam reader (call.param 3)).toList (call.params.drop 4) } := by
  rw [mysqlHash, if_neg (by omega), decodeFormat_short (by omega)]

theorem mysqlVerify_enough (enough : 3 ≤ call.params.length) :
    call.mysqlVerify reader = some
      { op := .verify
        password := call.amxStringParam reader (call.param 1)
        hash := call.amxStringParam reader (call.param 2)
        callback := call.amxStringParam reader (call.param 3)
        args := call.decodeFormat reader (call.amxStringParam reader (call.param 4)).toList (call.params.drop 4) } := by
  rw [mysqlVerify, if_neg (by omega), decodeFormat_short (by omega)]

end NativeCall

namespace Component
variable {component : Component} {amx : AMX}

theorem auditCalls_hooks {job : QueryJob} {call : Invocation} (made : call ∈ component.auditCalls job) :
    call.upcall = .executeHook := by
  unfold auditCalls fireQueryExecuteHook at made
  split at made
  next =>
    split at made
    next => cases made
    next =>
      rw [List.mem_singleton.mp made]
      rfl
  next => cases made

/-- The one call of a callback: it has every argument of its job. -/
def callbackCall (component : Component) (amx : AMX) (job : QueryJob) : Invocation :=
  (pushArgs amx.frame job.args).exec amx job.callback .callback (job.result.or component.activeCache)

theorem callback_call {strtof : String → Cell} {job : QueryJob} {received : Invocation}
    (made : received ∈ (component.dispatchJob strtof job).calls) (callback : received.upcall = .callback) :
    ∃ amx, received = component.callbackCall amx job := by
  cases calls_of_mem made with
  | executeHook => cases callback
  | errorHook => cases callback
  | callback => exact ⟨_, rfl⟩

/-- A job that succeeded, for a player who is still there, has its callback called once. -/
theorem callback_once (strtof : String → Cell) {job : QueryJob} (named : job.callback ≠ "")
    (found : component.findScriptWithPublic job.callback = some amx) (succeeded : job.succeeded = true)
    (present : component.boundPlayerGone job = false) :
    (component.dispatchJob strtof job).calls.filter (·.upcall = .callback) = [component.callbackCall amx job] := by
  have audits : (component.auditCalls job).filter (·.upcall = .callback) = [] := by
    rw [List.filter_eq_nil_iff]
    intro call made
    simp [auditCalls_hooks made]
  have defined := (resolveScript_defines named (resolveScript_of_found named found)).mpr found
  have ran : (component.runCallback amx job).calls = [component.callbackCall amx job] := by
    rw [runCallback, if_pos defined]
    rfl
  have kept : decide ((component.callbackCall amx job).upcall = .callback) = true := rfl
  rw [dispatchJob_calls, resolveScript_of_found named found]
  simp only [callsFrom, present, succeeded, named, if_false, Bool.false_eq_true, Bool.true_eq_false, List.filter_append,
    audits, ran, List.nil_append, List.filter_cons, kept, if_true, List.filter_nil]

end Component

/-- What a hashing callback is told after its values. -/
def ReceivesOutcome (argon2 : HashPool.Argon2) (salt : HashPool.Salt) (job : HashJob) (index : Nat)
    (received : Invocation) : Prop :=
  match job.op with
  | .hash => received.text index = some (argon2.hashArgon2id job.password salt)
  | .verify => received.params[index]? = some (if argon2.verify job.password job.hash then 1 else 0)

theorem cString_cString (text : String) : cString (cString text) = cString text := by
  rw [cString_eq_iff, NulFree, cString, String.toList_ofList]
  intro inside
  exact absurd (List.mem_takeWhile_imp inside) (by decide)

section
variable {argon2 : HashPool.Argon2} {salt : HashPool.Salt} {component : Component} {job : HashJob}

theorem perform_args : (HashPool.perform argon2 salt job).args = job.args := by
  rw [HashPool.perform]
  split
  next => rfl
  next => rfl

theorem perform_callback : (HashPool.perform argon2 salt job).callback = job.callback := by
  rw [HashPool.perform]
  split
  next => rfl
  next => rfl

/-- The outcome as it is pushed. -/
def HashJob.outcome (argon2 : HashPool.Argon2) (salt : HashPool.Salt) (job : HashJob) : CallbackArg :=
  match job.op with
  | .hash => .string (argon2.hashArgon2id job.password salt)
  | .verify => .float (if argon2.verify job.password job.hash then 1 else 0)

/-- The outcome is pushed first, so the arguments come before it. -/
theorem resultFrame_shows (argon2 : HashPool.Argon2) (salt : HashPool.Salt) (job : HashJob) (amx : AMX) :
    ((HashPool.perform argon2 salt job).resultFrame amx).Below ∧
      ((HashPool.perform argon2 salt job).resultFrame amx).params.length = 1 ∧
      ((HashPool.perform argon2 salt job).resultFrame amx).Shows 0 (job.outcome argon2 salt) := by
  rw [HashJob.outcome]
  cases op : job.op with
  | hash =>
    have frame : (HashPool.perform argon2 salt job).resultFrame amx =
        amx.frame.pushArg (.string (argon2.hashArgon2id job.password salt)) := by
      simp only [HashPool.perform, op, HashJob.resultFrame, Frame.pushArg]
    rw [frame]
    exact ⟨amx.frame_below.pushArg _, rfl, Frame.pushArg_shows _ _⟩
  | verify =>
    have frame : (HashPool.perform argon2 salt job).resultFrame amx =
        amx.frame.pushArg (.float (if argon2.verify job.password job.hash then 1 else 0)) := by
      simp only [HashPool.perform, op, HashJob.resultFrame, Frame.pushArg]
    rw [frame]
    exact ⟨amx.frame_below.pushArg _, rfl, Frame.pushArg_shows _ _⟩

theorem receives_outcome {args : List CallbackArg} (amx : AMX) (name : String) (upcall : Upcall)
    (active : Option QueryResult) :
    ReceivesOutcome argon2 salt job args.length
      ((pushArgs ((HashPool.perform argon2 salt job).resultFrame amx) args).exec amx name upcall active) := by
  obtain ⟨below, _, first⟩ := resultFrame_shows argon2 salt job amx
  have last : (pushArgs ((HashPool.perform argon2 salt job).resultFrame amx) args).Shows args.length
      (job.outcome argon2 salt) := Nat.zero_add args.length ▸ first.pushArgs below
  rw [HashJob.outcome] at last
  rw [ReceivesOutcome]
  cases op : job.op with
  | hash =>
    simp only [op] at last
    have text := last.text amx name upcall active
    rw [HashPool.Argon2.hashArgon2id] at text ⊢
    rw [text]
    cases argon2.hashEncoded {} job.password salt with
    | none => rfl
    | some encoded => rw [Option.map_some, Option.getD_some, cString_cString]
  | verify =>
    simp only [op] at last
    exact last

end

theorem dispatchHash_receives {reader : ScriptReader} (reads : reader.ReadsText) {call : NativeCall}
    {format : List Char} {values : List Cell} (argon2 : HashPool.Argon2) (salt : HashPool.Salt) {component : Component}
    {job : HashJob} (args : job.args = call.decodeFormat reader format values) {received : Invocation}
    (made : received ∈ component.dispatchHash (HashPool.perform argon2 salt job)) :
    call.Receives reader (NativeCall.taken format values) 1 received ∧
      ReceivesOutcome argon2 salt job (NativeCall.taken format values).length received := by
  rw [Component.dispatchHash] at made
  split at made
  next => cases made
  split at made
  next => cases made
  next amx _ =>
    cases List.mem_singleton.mp made
    obtain ⟨below, count, _⟩ := resultFrame_shows argon2 salt job amx
    have length : (NativeCall.taken format values).length = (HashPool.perform argon2 salt job).args.length := by
      rw [perform_args, args, NativeCall.decodeFormat_eq, List.length_map]
    refine ⟨?_, length ▸ receives_outcome amx _ _ _⟩
    rw [perform_args, args, ← count]
    exact NativeCall.receives_pushed reads below format values amx _ _ _

/-- A callback of this name is called, in this script, and receives what `receives` says. -/
def CalledOnce (calls : List Invocation) (name : String) (amx : AMX) (receives : Invocation → Prop) : Prop :=
  ∃ received, calls = [received] ∧ received.name = name ∧ received.script = amx.script ∧ receives received

/-- The callback of a finished job is called once, where some script has it, and receives what was decoded for it,
in order; that of a hashing job is told the outcome last. No other call of a callback is made. -/
theorem callback_receives_values {reader : ScriptReader} (reads : reader.ReadsText) (call : NativeCall)
    (format : List Char) (values : List Cell) :
    (∀ (strtof : String → Cell) (component : Component) (job : QueryJob) (outcome : Outcome),
        job.args = call.decodeFormat reader format values →
        (∀ received ∈ (component.dispatchJob strtof (job.complete outcome)).calls, received.upcall = .callback →
          call.Receives reader (NativeCall.taken format values) 0 received) ∧
        ∀ amx, job.callback ≠ "" → component.findScriptWithPublic job.callback = some amx →
          outcome.succeeded = true → component.boundPlayerGone job = false →
          CalledOnce ((component.dispatchJob strtof (job.complete outcome)).calls.filter (·.upcall = .callback))
            job.callback amx (call.Receives reader (NativeCall.taken format values) 0)) ∧
      (∀ (argon2 : HashPool.Argon2) (salt : HashPool.Salt) (component : Component) (job : HashJob),
        job.args = call.decodeFormat reader format values →
        (∀ received ∈ component.dispatchHash (HashPool.perform argon2 salt job),
          call.Receives reader (NativeCall.taken format values) 1 received ∧
            ReceivesOutcome argon2 salt job (NativeCall.taken format values).length received) ∧
        ∀ amx, job.callback ≠ "" → component.findScriptWithPublic job.callback = some amx →
          CalledOnce (component.dispatchHash (HashPool.perform argon2 salt job)) job.callback amx fun received =>
            call.Receives reader (NativeCall.taken format values) 1 received ∧
              ReceivesOutcome argon2 salt job (NativeCall.taken format values).length received) ∧
      (2 ≤ call.params.length → call.mysqlHash reader = some
        { op := .hash
          password := call.amxStringParam reader (call.param 1)
          callback := call.amxStringParam reader (call.param 2)
          args := call.decodeFormat reader (call.amxStringParam reader (call.param 3)).toList (call.params.drop 4) }) ∧
      (3 ≤ call.params.length → call.mysqlVerify reader = some
        { op := .verify
          password := call.amxStringParam reader (call.param 1)
          hash := call.amxStringParam reader (call.param 2)
          callback := call.amxStringParam reader (call.param 3)
          args := call.decodeFormat reader (call.amxStringParam reader (call.param 4)).toList (call.params.drop 4) }) := by
  refine ⟨?_, ?_, NativeCall.mysqlHash_enough, NativeCall.mysqlVerify_enough⟩
  · intro strtof component job outcome args
    have receives : ∀ amx, call.Receives reader (NativeCall.taken format values) 0
        (component.callbackCall amx (job.complete outcome)) := by
      intro amx
      rw [Component.callbackCall, QueryJob.complete_args, args]
      exact NativeCall.receives_pushed reads amx.frame_below format values amx _ _ _
    constructor
    · intro received made callback
      obtain ⟨amx, rfl⟩ := Component.callback_call made callback
      exact receives amx
    · intro amx named found succeeded present
      exact ⟨_, Component.callback_once strtof named found succeeded present, rfl, rfl, receives amx⟩
  · intro argon2 salt component job args
    refine ⟨fun received => dispatchHash_receives reads argon2 salt args, ?_⟩
    intro amx named found
    rw [← @perform_callback argon2 salt job] at named found
    obtain ⟨received, calls, name, script⟩ := Component.dispatchHash_calls named found
    refine ⟨received, calls, name.trans perform_callback, script, ?_⟩
    exact dispatchHash_receives reads argon2 salt args (calls ▸ List.mem_singleton_self received)

/-- A format with an unknown specifier, an integer at 100 and the text `Ann` at 300. -/
def greetCall : NativeCall := formatCall 1 [] ['A', 'n', 'n'] [100, 300]

noncomputable def greetJob : QueryJob :=
  { callback := "OnGreet", args := greetCall.decodeFormat textReader ['d', 'x', 's'] [100, 300] }

noncomputable def greetHash : HashJob :=
  { op := .verify, callback := "OnGreet", args := greetCall.decodeFormat textReader ['d', 'x', 's'] [100, 300] }

def greetScript : AMX := { script := 1, publics := ["OnGreet"] }

def greetHost : Component :=
  { pawn := some { mainScript := some greetScript, sideScripts := [], distinct := by decide } }

theorem callback_receives_greeting :
    CalledOnce ((greetHost.dispatchJob (fun _ => 0) (greetJob.complete ⟨true, 0, "", {}⟩)).calls.filter
        (·.upcall = .callback)) "OnGreet" greetScript (greetCall.Receives textReader [('d', 100), ('s', 300)] 0) ∧
      CalledOnce (greetHost.dispatchHash (HashPool.perform ⟨fun _ _ _ => none, fun _ _ _ => false⟩ [] greetHash))
        "OnGreet" greetScript (fun received => greetCall.Receives textReader [('d', 100), ('s', 300)] 1 received ∧
          received.params[2]? = some 0) := by
  obtain ⟨queries, hashes, _⟩ := callback_receives_values textReader_reads greetCall ['d', 'x', 's'] [100, 300]
  constructor
  · exact (queries (fun _ => 0) greetHost greetJob ⟨true, 0, "", {}⟩ rfl).2 greetScript (by decide) rfl rfl rfl
  · exact (hashes ⟨fun _ _ _ => none, fun _ _ _ => false⟩ [] greetHost greetHash rfl).2 greetScript (by decide) rfl

end OmpMySQL
