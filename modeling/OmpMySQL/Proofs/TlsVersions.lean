import Mathlib.Data.List.Induction
import OmpMySQL.OptionHistory

/-! Which TLS versions a connection attempt is held to. They are what was given last
for them, whatever that is. -/

namespace OmpMySQL
open Library

/-- Of all settings that concern a field, the last one counts. -/
theorem foldl_last {σ α β : Type} (field : σ → β) (pick : α → Option β) (apply : σ → α → σ)
    (law : ∀ state item, field (apply state item) = (pick item).getD (field state)) (items : List α) (start : σ) :
    field (items.foldl apply start) = (items.filterMap pick).getLast?.getD (field start) := by
  induction items using List.reverseRecOn with
  | nil => rfl
  | append_singleton items item ih =>
    rw [List.foldl_append, List.foldl_cons, List.foldl_nil, law, ih, List.filterMap_append]
    cases picked : pick item <;> simp [picked]

def Setting.applied (o : ConnectionOptions) (setting : Setting) : ConnectionOptions := (setting.apply o).getD o

/-- What settings amount to, one after another. -/
def fill (settings : List Setting) : ConnectionOptions := settings.foldl Setting.applied {}

namespace OptionHistory

/-- A set is what it was given, and one that was never created was given nothing. -/
def Kept (history : OptionHistory) (handle : Int) : Prop :=
  match history.sets.options handle with
  | none => history.given handle = []
  | some o => 0 < handle ∧ handle < history.sets.nextOptions ∧ o = fill (history.given handle)

structure Filled (history : OptionHistory) : Prop where
  positive : 0 < history.sets.nextOptions
  kept : ∀ handle, history.Kept handle

variable {history : OptionHistory} {handle : Int}

theorem Kept.none (kept : history.Kept handle) (unset : history.sets.options handle = none) :
    history.given handle = [] := by
  rw [Kept, unset] at kept
  exact kept

theorem Kept.some (kept : history.Kept handle) {o : ConnectionOptions} (found : history.sets.options handle = some o) :
    0 < handle ∧ handle < history.sets.nextOptions ∧ o = fill (history.given handle) := by
  rw [Kept, found] at kept
  exact kept

/-- Nothing changed for a handle but that there may be more sets. -/
theorem Kept.same {after : OptionHistory} (kept : history.Kept handle)
    (options : after.sets.options handle = history.sets.options handle)
    (given : after.given handle = history.given handle)
    (next : history.sets.nextOptions ≤ after.sets.nextOptions) : after.Kept handle := by
  unfold Kept at kept ⊢
  rw [options, given]
  split at kept
  next => exact kept
  next => exact ⟨kept.1, lt_of_lt_of_le kept.2.1 next, kept.2.2⟩

theorem Filled.create (filled : Filled history) : Filled (history.perform .create) := by
  have absent : history.sets.options history.sets.nextOptions = none := by
    cases found : history.sets.options history.sets.nextOptions with
    | none => rfl
    | some o => exact absurd ((filled.kept _).some found).2.1 (lt_irrefl _)
  have added : (history.perform .create).sets.options = history.sets.options.put history.sets.nextOptions {} :=
    Table.emplace_absent absent {}
  have later : history.sets.nextOptions < (history.perform .create).sets.nextOptions := Int.lt_succ _
  refine ⟨filled.positive.trans later, ?_⟩
  intro handle
  by_cases same : handle = history.sets.nextOptions
  · subst same
    rw [Kept, added, Table.put_same]
    refine ⟨filled.positive, later, ?_⟩
    simp only [perform, OptionSets.addOptions, Function.update_self]
    rfl
  · apply (filled.kept handle).same
    · rw [added, Table.put_other _ _ _ _ same]
    · exact Function.update_of_ne same ..
    · exact le_of_lt later

theorem perform_refused {options : Int} {setting : Setting}
    (refused : (history.sets.options options).bind setting.apply = none) :
    history.perform (.set options setting) = history := by
  simp [perform, OptionSets.configSet, OptionSets.getOptions, refused]

theorem perform_accepted {options : Int} {setting : Setting} {changed : ConnectionOptions}
    (accepted : (history.sets.options options).bind setting.apply = some changed) :
    history.perform (.set options setting) =
      { sets := { history.sets with options := history.sets.options.put options changed }
        given := Function.update history.given options (history.given options ++ [setting]) } := by
  simp [perform, OptionSets.configSet, OptionSets.getOptions, accepted]

theorem Filled.set (filled : Filled history) (options : Int) (setting : Setting) :
    Filled (history.perform (.set options setting)) := by
  cases applied : (history.sets.options options).bind setting.apply with
  | none =>
    rw [perform_refused applied]
    exact filled
  | some changed =>
    obtain ⟨o, found, made⟩ := Option.bind_eq_some_iff.mp applied
    obtain ⟨positive, issued, rfl⟩ := (filled.kept options).some found
    rw [perform_accepted applied]
    refine ⟨filled.positive, ?_⟩
    intro handle
    by_cases same : handle = options
    · subst same
      simp only [Kept, Table.put_same, Function.update_self]
      refine ⟨positive, issued, ?_⟩
      rw [fill, List.foldl_append, List.foldl_cons, List.foldl_nil, ← fill, Setting.applied, made, Option.getD_some]
    · apply (filled.kept handle).same
      · exact Table.put_other _ _ _ _ same
      · exact Function.update_of_ne same ..
      · exact le_rfl

theorem filled_run (calls : List OptionCall) : Filled (run calls) := by
  induction calls using List.reverseRecOn with
  | nil => exact ⟨Int.one_pos, fun _ => rfl⟩
  | append_singleton calls call ih =>
    rw [run, List.foldl_append, List.foldl_cons, List.foldl_nil]
    cases call with
    | create => exact Filled.create ih
    | set options setting => exact Filled.set ih options setting
    | reset => exact ⟨Int.one_pos, fun _ => rfl⟩

end OptionHistory

/-! The pin. -/

def Setting.tlsVersion (setting : Setting) : Option String :=
  if setting.option = some .tlsVersion then setting.argument.map (·.text) else none

theorem Setting.tlsVersion_applied (o : ConnectionOptions) (setting : Setting) :
    (setting.applied o).tlsVersion = setting.tlsVersion.getD o.tlsVersion := by
  simp only [applied, apply, tlsVersion]
  cases setting.option with
  | none => rfl
  | some option => cases option <;> cases setting.argument <;> rfl

def configVersion (entry : String × String) : Option String := if entry.1 = "tls_version" then some entry.2 else none

theorem configVersion_applied (o : ConnectionOptions) (entry : String × String) :
    (applyConfig o entry).tlsVersion = (configVersion entry).getD o.tlsVersion := by
  obtain ⟨key, value⟩ := entry
  by_cases here : key = "tls_version"
  · subst here
    rfl
  · simp only [applyConfig, configVersion, here, if_false, Option.getD_none, apply_ite ConnectionOptions.tlsVersion,
      ite_self]

/-- The last value given for the versions on the way a connection takes. -/
def ConnectRoute.lastVersions (history : OptionHistory) (env : Environment) : ConnectRoute → Option String
  | .script _ _ _ _ options => ((history.given options).filterMap Setting.tlsVersion).getLast?
  | .file text => ((configEntries env text).filterMap configVersion).getLast?

/-- A list of versions that names TLS 1.2 and 1.3 only, and one of them at least. -/
def Modern (versions : String) : Bool :=
  (pieces ',' versions.toList).all fun name => trim name = "TLSv1.2".toList || trim name = "TLSv1.3".toList

def MysqlOption.pin : MysqlOption → Option String
  | .tlsVersion versions => some versions
  | _ => none

/-- The values an attempt sets the versions to. -/
def ConnectionAttempt.pins (attempt : ConnectionAttempt) : List String := attempt.options.filterMap MysqlOption.pin

def NeverBelow (attempt : ConnectionAttempt) : Prop :=
  attempt.pins ≠ [] ∧ ∀ versions ∈ attempt.pins, Modern versions = true

theorem ConnectionOptions.pins_attempt (o : ConnectionOptions) :
    o.attempt.pins = if o.tlsVersion = "" then [] else [cString o.tlsVersion] := by
  simp only [attempt, ConnectionAttempt.pins, List.filterMap_append, apply_ite (List.filterMap MysqlOption.pin),
    List.filterMap_cons, List.filterMap_nil, MysqlOption.pin, ite_self, List.nil_append, List.append_nil, ne_eq, ite_not]

theorem ConnectionOptions.neverBelow_attempt (o : ConnectionOptions) :
    NeverBelow o.attempt ↔ Modern (cString o.tlsVersion) = true := by
  rw [NeverBelow, pins_attempt]
  by_cases unset : o.tlsVersion = ""
  · rw [if_pos unset, unset]
    simp
    decide
  · rw [if_neg unset]
    simp

theorem tlsVersion_fill (settings : List Setting) :
    (fill settings).tlsVersion = (settings.filterMap Setting.tlsVersion).getLast?.getD "TLSv1.3,TLSv1.2" :=
  foldl_last ConnectionOptions.tlsVersion Setting.tlsVersion Setting.applied Setting.tlsVersion_applied settings {}

theorem tlsVersion_readConfig (env : Environment) (text : String) :
    (readConfig env text).tlsVersion =
      ((configEntries env text).filterMap configVersion).getLast?.getD "TLSv1.3,TLSv1.2" :=
  foldl_last ConnectionOptions.tlsVersion configVersion applyConfig configVersion_applied (configEntries env text) {}

theorem OptionHistory.Filled.tlsVersion {history : OptionHistory} (filled : history.Filled) (env : Environment)
    (route : ConnectRoute) :
    (route.connectionOptions history env).tlsVersion = (route.lastVersions history env).getD "TLSv1.3,TLSv1.2" := by
  cases route with
  | file text => exact tlsVersion_readConfig env text
  | script host user password database options =>
    rw [ConnectRoute.lastVersions, ← tlsVersion_fill]
    show (if options ≠ 0 then (history.sets.getOptions options).getD {} else {}).tlsVersion = _
    cases found : history.sets.options options with
    | none =>
      rw [(filled.kept options).none found, OptionSets.getOptions, found, Option.getD_none, ite_self]
      rfl
    | some o =>
      obtain ⟨positive, _, same⟩ := (filled.kept options).some found
      rw [if_pos positive.ne', OptionSets.getOptions, found, Option.getD_some, same]

/-- A connection attempt is held to TLS 1.2 and 1.3 exactly when the last value given
for the versions, if there is one, names nothing else and one of them at least. -/
theorem never_below_iff (calls : List OptionCall) (env : Environment) (route : ConnectRoute) :
    NeverBelow (route.connectionOptions (OptionHistory.run calls) env).attempt ↔
      ∀ versions, route.lastVersions (OptionHistory.run calls) env = some versions →
        Modern (cString versions) = true := by
  rw [ConnectionOptions.neverBelow_attempt, (OptionHistory.filled_run calls).tlsVersion]
  cases route.lastVersions (OptionHistory.run calls) env with
  | none =>
    have usual : Modern (cString "TLSv1.3,TLSv1.2") = true := by decide
    simp [usual]
  | some versions => simp

/-- A script asks for TLS 1.1 and gets it. -/
theorem pins_old_versions : ¬ ∀ (calls : List OptionCall) (env : Environment) (route : ConnectRoute),
    NeverBelow (route.connectionOptions (OptionHistory.run calls) env).attempt := by
  intro never
  have modern := (never [.create, .set 1 ⟨15, some ⟨0, "TLSv1.1"⟩⟩] (fun _ => none) (.script "db" "user" "" "" 1)).2
    "TLSv1.1" (by decide)
  exact absurd modern (by decide)

end OmpMySQL
