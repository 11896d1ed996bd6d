/-!
# PackageModel.Logging

What a run reports while it works.  Each event has a level, and a run shows the events from its
own level upwards.
-/

namespace PackageModel

/-- How much an event matters. -/
inductive LogLevel where
  | debug
  | info
  | warn
  | error
deriving Repr, DecidableEq, Inhabited

namespace LogLevel

/-- All levels, the least one first. -/
def all : List LogLevel := [debug, info, warn, error]

/-- The level's name. -/
def name : LogLevel → String
  | debug => "debug"
  | info => "info"
  | warn => "warn"
  | error => "error"

/-- The level with exactly this name. -/
def ofName? (name : String) : Option LogLevel := all.find? (·.name = name)

/-- The level's place in the order. -/
def rank : LogLevel → Nat
  | debug => 0
  | info => 1
  | warn => 2
  | error => 3

/-- Reads a level.  Capital letters of ASCII count as small ones, and `warning` is another name
of `warn`; a text that names no level is given back as it was compared. -/
def read (text : String) : Except String LogLevel :=
  let name := String.ofList (text.toList.map Char.toLower)
  match ofName? (if name = "warning" then "warn" else name) with
  | some level => .ok level
  | none => .error name

/-- What is said about a text that names no level. -/
def unknownMessage (name : String) : String := "unknown log level: " ++ name

end LogLevel

/-- What happens in a run. -/
inductive Event where
  /-- A source text of so many bytes is about to be checked. -/
  | checking (bytes : Nat)
  /-- A source text is about to be parsed. -/
  | parsing (bytes capacity : Nat)
  | parsed (package : String)
  | unparsed (headline : String)
  | validated (package : String)
  | invalid (message : String)
  | accepted
  /-- A batch is done. -/
  | tallied (files failures : Nat)
  /-- A batch has no files. -/
  | nothingFound (extension : String)
  | checked (files : Nat)
  | formatted (file : String)
deriving Repr, DecidableEq

namespace Event

/-- How important an event is. -/
def level : Event → LogLevel
  | nothingFound _ => .warn
  | checked _ => .info
  | formatted _ => .info
  | _ => .debug

/-- The line that is logged for an event. -/
def message : Event → String
  | checking bytes => "Checking source (" ++ toString bytes ++ " bytes)"
  | parsing bytes capacity =>
    "Starting parse (" ++ toString bytes ++ " bytes, queue capacity " ++ toString capacity ++ ")"
  | parsed package => "Parsed package " ++ package
  | unparsed headline => "Parse failed: " ++ headline
  | validated package => "Validated package " ++ package
  | invalid message => "Validation failed: " ++ message
  | accepted => "Check successful"
  | tallied files failures =>
    "Checked " ++ toString files ++ " files, " ++ toString failures ++ " failed"
  | nothingFound extension => "No ." ++ extension ++ " files found in the specified paths"
  | checked files => "Checked " ++ toString files ++ " files"
  | formatted file => "Formatted " ++ file

/-- A character of a log line.  Characters that could steer a terminal show as their code
points. -/
def escapeControl (c : Char) : String :=
  match c with
  | '\x07' => "\\x07"
  | '\x08' => "\\x08"
  | '\x0c' => "\\x0c"
  | '\x1b' => "\\x1b"
  | '\x7f' => "\\x7f"
  | c =>
    if 0x80 ≤ c.toNat && c.toNat ≤ 0x9F then
      "\\u\x7b" ++ String.ofList (Nat.toDigits 16 c.toNat) ++ "\x7d"
    else String.singleton c

/-- The event's line in a log: the level in five columns, flush right, and the message. -/
def logLine (e : Event) : String :=
  let level := e.level.name.toUpper
  String.ofList (List.replicate (5 - level.length) ' ') ++ level ++ " " ++
    String.join (e.message.toList.map escapeControl) ++ "\n"

/-- The log of a run at the given level. -/
def log (level : LogLevel) (events : List Event) : String :=
  String.join ((events.filter fun e => level.rank ≤ e.level.rank).map logLine)

end Event

end PackageModel
