import PackageModel.FileTree.Access
import PackageModel.Settings.Basic

/-!
# PackageModel.Settings.Lookup

Where the settings of a run come from: a file that is named, else the file of the project, else
the file of the user, else the defaults.  Only the first of these that is there counts.
-/

namespace PackageModel.Settings

/-- The variables of the environment. -/
abbrev Environment := String → Option String

/-- The settings file of a project, in its top directory. -/
def projectFile : String := "classmodel.toml"

/-- The variables that are looked at. -/
def variableNames : List String := ["XDG_CONFIG_HOME", "HOME", "APPDATA"]

/-- The settings file of a user. -/
def userFile? (env : Environment) : Option String :=
  let directory :=
    match env "XDG_CONFIG_HOME", env "HOME", env "APPDATA" with
    | some config, _, _ => some (Path.join config "classmodel")
    | none, some home, _ => some (Path.join (Path.join home ".config") "classmodel")
    | none, none, some data => some (Path.join data "classmodel")
    | none, none, none => none
  directory.map (Path.join · "config.toml")

variable {m : Type → Type} [Monad m] [FileAccess m]

/-- Reads the settings from a file. -/
def ofFile (path : String) : m (Except SettingsError Settings) := do
  match ← FileAccess.readText path with
  | .ok text => return ofToml text
  | .error reason => return .error (.unreadable path reason)

/-- The settings of a run. -/
def load (env : Environment) (named : Option String) : m (Except SettingsError Settings) := do
  match named with
  | some path => ofFile path
  | none =>
    if ← FileAccess.isFile projectFile then ofFile projectFile
    else
      match userFile? env with
      | some path => if ← FileAccess.isFile path then ofFile path else return .ok {}
      | none => return .ok {}

end PackageModel.Settings
