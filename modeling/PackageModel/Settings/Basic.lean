import PackageModel.FileTree.Basic
import PackageModel.Logging
import PackageModel.Toml.Document
import PackageModel.Unicode.Quoted

/-!
# PackageModel.Settings.Basic

The settings of a run and their TOML form.  Each setting lies alone in a section of its own;
sections and settings that are left out keep their defaults, and unknown ones are ignored.
-/

namespace PackageModel

/-- The settings of a run. -/
structure Settings where
  /-- How many tokens may wait between the scanner and the reader. -/
  queueCapacity : Nat := 16
  /-- Whether reports are coloured. -/
  colors : Bool := true
  /-- The least level that is logged. -/
  level : LogLevel := .info
  /-- The extension of the files that are looked for in directories. -/
  extension : String := "model"
deriving Repr, DecidableEq, Inhabited

/-- Why there are no settings. -/
inductive SettingsError where
  /-- The settings file cannot be read. -/
  | unreadable (path : String) (reason : FileError)
  /-- The text is no TOML, or a setting has the wrong type. -/
  | malformed
  | noCapacity
  /-- The extension is empty or starts with a dot. -/
  | notBare (extension : String)
deriving Repr, DecidableEq

/-- The text of the error. -/
def SettingsError.message : SettingsError → String
  | unreadable path reason => "IO error reading " ++ path ++ ": " ++ reason.message
  | malformed => "Config parse error: the settings are not well formed"
  | noCapacity => "Invalid configuration: parser.queue_capacity must be at least 1"
  | notBare extension =>
    "Invalid configuration: check.extension must be a bare extension: " ++ Unicode.quoted extension

/-- What the error comes from, each with its own cause behind it. -/
def SettingsError.causes (e : SettingsError) : List String :=
  match e with
  | unreadable _ reason => [e.message, reason.message]
  | _ => [e.message]

namespace Settings

/-- Room for at least one token. -/
def roundedCapacity (s : Settings) : Nat := max 1 s.queueCapacity

/-! ## Reading -/

/-- The setting that a section holds under its name.  A list gives the setting by its first item
and a date gives none; anything else is no section. -/
def setting? (name : String) : Toml.Value → Option (Option Toml.Value)
  | .table _ entries => some (entries.lookup name)
  | .array items => some items.head?
  | .tables items => some (items.head?.map (.table .header))
  | .moment => some none
  | _ => none

/-- Whether the value is a list or a table with nothing in it. -/
def isEmpty : Toml.Value → Bool
  | .table _ entries => entries.isEmpty
  | .array items => items.isEmpty
  | .tables items => items.isEmpty
  | _ => false

/-- A level is the text of its name, or a table whose only key is the name, with nothing under
it. -/
def level? : Toml.Value → Option LogLevel
  | .string s => LogLevel.ofName? s
  | .table _ [(name, v)] => if isEmpty v then LogLevel.ofName? name else none
  | _ => none

/-- The text of a value that is one. -/
def string? : Toml.Value → Option String
  | .string s => some s
  | _ => none

/-- The truth value of a value that is one. -/
def boolean? : Toml.Value → Option Bool
  | .boolean b => some b
  | _ => none

/-- The number of a value that is one and not negative. -/
def natural? : Toml.Value → Option Nat
  | .integer (.ofNat n) => some n
  | _ => none

/-- Reads a setting of a section; without it the default stands. -/
def read {α : Type} (document : Toml.Entries) (sectionName name : String)
    (decode : Toml.Value → Option α) (default : α) : Option α :=
  match document.lookup sectionName with
  | none => some default
  | some s =>
    match setting? name s with
    | none => none
    | some none => some default
    | some (some v) => decode v

/-- Reads the settings of a document. -/
def ofEntries? (document : Toml.Entries) : Option Settings := do
  let d : Settings := {}
  return {
    queueCapacity := ← read document "parser" "queue_capacity" natural? d.queueCapacity
    colors := ← read document "diagnostics" "colors" boolean? d.colors
    level := ← read document "logging" "level" level? d.level
    extension := ← read document "check" "extension" string? d.extension }

/-- The settings, if they make sense. -/
def validated (s : Settings) : Except SettingsError Settings :=
  if s.queueCapacity = 0 then .error .noCapacity
  else if s.extension = "" ∨ s.extension.toList.head? = some '.' then
    .error (.notBare s.extension)
  else .ok s

/-- Reads settings from TOML. -/
def ofToml (text : String) : Except SettingsError Settings :=
  match (Toml.parse? text).bind ofEntries? with
  | some s => s.validated
  | none => .error .malformed

end Settings

end PackageModel
