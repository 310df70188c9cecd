import OmpMySQL.Connect

/-! Option sets over a whole script, with a record of what each set was given. -/

namespace OmpMySQL
open Library

inductive OptionCall where
  | create
  | set (options : Int) (setting : Setting)
  | reset

/-- `given` holds the settings for which `mysql_config_set` returned 1, in order, since
the set was created. The code keeps only what they amount to. -/
structure OptionHistory where
  sets : OptionSets := {}
  given : Int → List Setting := fun _ => []

namespace OptionHistory

def perform (history : OptionHistory) : OptionCall → OptionHistory
  | .create =>
    { sets := history.sets.addOptions.1
      given := Function.update history.given history.sets.addOptions.2 [] }
  | .set options setting =>
    let done := history.sets.configSet options setting
    { sets := done.1
      given :=
        if done.2 = 1 then Function.update history.given options (history.given options ++ [setting])
        else history.given }
  | .reset => { sets := history.sets.reset }

def run (calls : List OptionCall) : OptionHistory := calls.foldl perform {}

end OptionHistory

/-- Where a connection gets its options from. -/
inductive ConnectRoute where
  | script (host user password database : String) (options : Int)
  | file (text : String)

namespace ConnectRoute

def connectionOptions (history : OptionHistory) (env : Environment) : ConnectRoute → ConnectionOptions
  | .script host user password database options => connectOptions history.sets env host user password database options
  | .file text => readConfig env text

end ConnectRoute
end OmpMySQL
