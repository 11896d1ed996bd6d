import PackageModel.CommandLine.Run

/-!
# PackageModel.Main

The program: the command line on the files of the machine.
-/

namespace PackageModel

/-- The number of a failure on the machine, which is reported with either sign. -/
def failureNumber (code : UInt32) : Nat := (min code (0 - code)).toNat

/-- The reason of a failure on the machine. -/
def FileError.ofMachine (e : IO.Error) : FileError :=
  match e with
  | .noFileOrDirectory .. => .missing
  | .inappropriateType _ code _ =>
    match failureNumber code with
    | 20 => .notDirectory
    | 21 => .isDirectory
    | _ => .other (toString e)
  | .invalidArgument _ code _ =>
    match failureNumber code with
    | 22 => .nulInPath
    | 36 => .tooLong
    | _ => .other (toString e)
  | e => .other (toString e)

/-- The outcome of an action on the machine. -/
def attempt {α : Type} (action : IO α) : IO (Except FileError α) := do
  try return .ok (← action)
  catch e => return .error (.ofMachine e)

/-- What is at a path of the machine, if anything. -/
def machineKind? (path : String) : IO (Option FileTree.EntryKind) := do
  match ← attempt (System.mkFilePath [path]).metadata with
  | .ok data => return some (if data.type == .dir then .directory else .file)
  | .error _ => return none

/-- The names that lead to each file below a directory of the machine. -/
partial def machineFiles (path : String) :
    IO (Except FileTree.WalkError (List (List String))) := do
  match ← attempt (System.mkFilePath [path]).readDir with
  | .error reason => return .error ⟨path, reason⟩
  | .ok entries =>
    let names := (entries.toList.map (·.fileName)).mergeSort fun a b => !decide (b < a)
    let mut found := []
    for name in names do
      let inside := Path.join path name
      match ← machineKind? inside with
      | some .directory =>
        match ← machineFiles inside with
        | .error e => return .error e
        | .ok below => found := found ++ below.map (name :: ·)
      | _ => found := found ++ [[name]]
    return .ok found

/-- Programs run on the files of the machine. -/
instance : FileAccess IO where
  kind? := machineKind?
  filesBelow := machineFiles
  read path := attempt (IO.FS.readBinFile path)
  write path text := attempt (IO.FS.writeFile path text)

end PackageModel

/-- Runs the program with the arguments and the environment of its process. -/
def main (arguments : List String) : IO UInt32 := do
  let values ← PackageModel.Settings.variableNames.mapM fun name => return (name, ← IO.getEnv name)
  let outcome ← PackageModel.CommandLine.run (fun name => (values.lookup name).join) arguments
  IO.print outcome.stdout
  IO.eprint outcome.stderr
  return outcome.exitCode.toUInt32
