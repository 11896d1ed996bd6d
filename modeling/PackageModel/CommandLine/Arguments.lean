/-!
# PackageModel.CommandLine.Arguments

The arguments of the command line.  They are read from left to right: options before the command,
the command, then its own options and operands in any order.  The first argument that does not
fit ends the reading, and so does the first one that asks for help or for the version.
-/

namespace PackageModel.CommandLine

/-- What to do with the canonical form of a file. -/
inductive FormatMode where
  | print
  /-- Compare the file with it. -/
  | compare
  /-- Replace the file by it. -/
  | write
deriving Repr, DecidableEq

/-- A command with its operands. -/
inductive Command where
  | check (paths : List String) (json : Bool)
  | format (file : String) (mode : FormatMode)
  | dump (file : String)
  | version
deriving Repr, DecidableEq

/-- A run that the arguments ask for. -/
structure Invocation where
  command : Command
  verbose : Bool := false
  settingsFile : Option String := none
deriving Repr, DecidableEq

/-- Why no command is run. -/
inductive Stop where
  /-- The arguments are not understood. -/
  | misused
  | help
  | version
deriving Repr, DecidableEq

/-! ## Names -/

/-- The names of the commands. -/
inductive CommandName where
  | check
  | format
  | dump
  | version
  | help
deriving Repr, DecidableEq

/-- The command with this name. -/
def CommandName.ofString? : String → Option CommandName
  | "check" => some check
  | "format" => some format
  | "dump" => some dump
  | "version" => some version
  | "help" => some help
  | _ => none

/-- How many operands a command can have, if there is a limit. -/
def CommandName.maxOperands : CommandName → Option Nat
  | check => none
  | format => some 1
  | dump => some 1
  | version => some 0
  | help => some 1

/-- Options without a value. -/
inductive Flag where
  | verbose
  | json
  | compare
  | write
  | help
  | version
deriving Repr, DecidableEq

namespace Flag

/-- The flag with this name, written behind two dashes. -/
def ofName? : String → Option Flag
  | "verbose" => some verbose
  | "json" => some json
  | "check" => some compare
  | "write" => some write
  | "help" => some help
  | "version" => some version
  | _ => none

/-- The flag with this letter, written behind one dash. -/
def ofLetter? : Char → Option Flag
  | 'v' => some verbose
  | 'c' => some compare
  | 'w' => some write
  | 'h' => some help
  | 'V' => some version
  | _ => none

/-- Whether the flag can stand behind the command, or before any command. -/
def allowed : Flag → Option CommandName → Bool
  | verbose, _ => true
  | json, command => command = some .check
  | compare, command => command = some .format
  | write, command => command = some .format
  | help, _ => true
  | version, command => command = none

end Flag

/-! ## Reading -/

/-- The options and operands read so far. -/
structure Options where
  flags : List Flag := []
  settingsFile : Option String := none
  operands : List String := []
deriving Repr, DecidableEq

namespace Options

/-- Takes a flag; each can be given once. -/
def raise (scope : Option CommandName) (o : Options) (f : Flag) : Except Stop Options :=
  if !f.allowed scope then .error .misused
  else
    match f with
    | .help => .error .help
    | .version => .error .version
    | f => if f ∈ o.flags then .error .misused else .ok { o with flags := f :: o.flags }

/-- Takes the name of the settings file, once. -/
def setSettingsFile (o : Options) (path : String) : Except Stop Options :=
  if path = "" ∨ o.settingsFile.isSome then .error .misused
  else .ok { o with settingsFile := some path }

/-- Takes an operand of the command. -/
def addOperand (command : CommandName) (o : Options) (operand : String) : Except Stop Options :=
  if operand = "" ∨ command.maxOperands.any (· ≤ o.operands.length) then .error .misused
  else .ok { o with operands := o.operands ++ [operand] }

end Options

/-- How an argument is to be taken, by its first characters. -/
inductive Argument where
  /-- Two dashes alone: all that follows is operands. -/
  | separator
  /-- Two dashes and a name. -/
  | long (name : String)
  /-- Two dashes, the name of the option that takes a value, and the value. -/
  | settingsFile (path : String)
  /-- One dash and letters. -/
  | short (letters : List Char)
  | operand (text : String)
deriving Repr, DecidableEq

/-- A single dash is an operand. -/
def Argument.ofString (text : String) : Argument :=
  match text.toList with
  | ['-', '-'] => .separator
  | '-' :: '-' :: name =>
    match name with
    | 'c' :: 'o' :: 'n' :: 'f' :: 'i' :: 'g' :: '=' :: path => .settingsFile (String.ofList path)
    | _ => .long (String.ofList name)
  | '-' :: c :: letters => .short (c :: letters)
  | _ => .operand text

/-- Reads options and operands behind a command.  Before a command only options are read, up to
the command's name, and what follows is given back with it. -/
def scan (scope : Option CommandName) :
    List String → Options → Except Stop (Options × Option (CommandName × List String))
  | [], o => .ok (o, none)
  | argument :: rest, o =>
    match Argument.ofString argument, scope with
    | .separator, none => .error .misused
    | .separator, some command =>
      (rest.foldlM (Options.addOperand command) o).map fun o => (o, none)
    | .long "config", _ =>
      match rest with
      | [] => .error .misused
      | value :: rest =>
        match Argument.ofString value with
        | .operand path => do scan scope rest (← o.setSettingsFile path)
        | _ => .error .misused
    | .long name, _ =>
      match Flag.ofName? name with
      | some f => do scan scope rest (← o.raise scope f)
      | none => .error .misused
    | .settingsFile path, _ => do scan scope rest (← o.setSettingsFile path)
    | .short letters, _ => do
      let flags ← letters.foldlM (fun o c =>
        match Flag.ofLetter? c with
        | some f => o.raise scope f
        | none => .error .misused) o
      scan scope rest flags
    | .operand text, none =>
      match CommandName.ofString? text with
      | some command => .ok (o, some (command, rest))
      | none => .error .misused
    | .operand text, some command => do scan scope rest (← o.addOperand command text)

/-- The command that the options and operands behind its name ask for. -/
def Options.command (name : CommandName) (o : Options) : Except Stop Command :=
  match name, o.operands with
  | .check, path :: paths => .ok (.check (path :: paths) (.json ∈ o.flags))
  | .format, [file] =>
    if .compare ∈ o.flags ∧ .write ∈ o.flags then .error .misused
    else if .compare ∈ o.flags then .ok (.format file .compare)
    else if .write ∈ o.flags then .ok (.format file .write)
    else .ok (.format file .print)
  | .dump, [file] => .ok (.dump file)
  | .version, [] => .ok .version
  | _, _ => .error .misused

/-- Reads the arguments of the command line.  Options that go with every command count the same
before and behind it; of two settings files the one behind the command counts. -/
def Invocation.ofArguments (arguments : List String) : Except Stop Invocation := do
  let (before, command?) ← scan none arguments {}
  match command? with
  | none => throw .misused
  | some (.help, topics) =>
    match topics.map CommandName.ofString? with
    | [] => throw .help
    | [some _] => throw .help
    | _ => throw .misused
  | some (name, rest) =>
    let (behind, _) ← scan (some name) rest {}
    return {
      command := ← behind.command name
      verbose := .verbose ∈ before.flags ++ behind.flags
      settingsFile := behind.settingsFile.or before.settingsFile }

end PackageModel.CommandLine
