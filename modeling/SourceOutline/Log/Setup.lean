import SourceOutline.Config.Settings
import SourceOutline.Log.Format

/-!
# Setting the log up

Where log records go: the level from which on they count, and the handlers that write them.

* `LogSetup.replace` puts one console handler and, if the settings name a file, one file handler in
  the place of those before.
* `LogSetup.consoleLines` and `LogSetup.fileLines` are what the handlers write.
-/

namespace SourceOutline

/-- Writes log records. -/
inductive LogHandler where
  /-- To the console with colours and columns. -/
  | rich
  /-- To the console, one line for each record. -/
  | plain (format : String)
  /-- To the end of a file, from a level on. -/
  | file (path : String) (level : Nat)
  deriving DecidableEq

/-- The level of the log and its handlers. -/
structure LogSetup where
  level : Nat
  handlers : List LogHandler
  deriving DecidableEq

namespace LogSetup

/-- The level numbers by their names, in capitals. -/
def levelNames : List (String × Nat) :=
  [("NOTSET", 0), ("DEBUG", 10), ("INFO", 20), ("WARN", 30), ("WARNING", 30), ("ERROR", 40),
    ("FATAL", 50), ("CRITICAL", 50)]

/-- Names in capitals that stand for other things of the log, with what comes of taking them for a
level. -/
def otherNames : List (String × Failure) :=
  [("BASIC_FORMAT", .badValue), ("_STYLES", .unexpectedArgument)]

/-- The level of a name in any case. -/
def levelOf? (name : String) : Option Nat :=
  Table.get? levelNames (Text.upper name)

/-- The format of lines in a log file, after the time. -/
def timelessFormat : String := "%(name)s - %(levelname)s - %(message)s"

/-- The format of lines in a log file. -/
def fileFormat : String := "%(asctime)s - " ++ timelessFormat

/-- The format of a console handler; an empty one shows the message alone. -/
def consoleFormat (format : String) : String :=
  if format = "" then "%(message)s" else format

/-- The handler for the console. -/
def consoleHandler (s : LoggingSettings) : Except Failure LogHandler :=
  if s.useRich then .ok .rich
  else if Log.Format.hasField (consoleFormat s.format) then .ok (.plain (consoleFormat s.format))
  else .error .badValue

/-- Makes the file of a log and the directories around it; a file that is there stays. -/
def openFile (fs : Files) (path : String) : Except Failure Files := do
  let fs ← fs.makeDirectories (Path.parent path)
  match fs.entry? path with
  | some (.file _) => return fs
  | _ => fs.write path []

/-- The level that is asked for: one by name if a name is given, or else that of the settings. -/
def levelFor (s : LoggingSettings) (name : Option String) : Except Failure Nat :=
  match name.filter (· ≠ "") with
  | none => .ok s.level.rank
  | some name =>
    match levelOf? name with
    | some n => .ok n
    | none => .error ((Table.get? otherNames (Text.upper name)).getD .unknownName)

/-- Sets the log up: first the level, then the handler for the console, then that for a file. A
failure leaves what has been done before it. Gives the files after that. -/
def replace (before : LogSetup) (fs : Files) (s : LoggingSettings) (level : Option String) :
    LogSetup × Except Failure Files :=
  match levelFor s level with
  | .error f => (before, .error f)
  | .ok n =>
    match consoleHandler s with
    | .error f => (⟨n, []⟩, .error f)
    | .ok console =>
      match s.file with
      | none => (⟨n, [console]⟩, .ok fs)
      | some path =>
        match openFile fs path with
        | .error f => (⟨n, [console]⟩, .error f)
        | .ok fs => (⟨n, [console, .file path n]⟩, .ok fs)

/-- The event counts at a level. Events without a level never count. -/
def counts (level : Nat) (e : Log.Event) : Bool :=
  0 < e.level && level ≤ e.level

/-- The lines that a format makes of the events that count. -/
def lines (format : String) (level : Nat) (es : List Log.Event) : List String :=
  (es.filter (counts level)).filterMap (Log.Format.line? format)

/-- The lines on the console, unless they are laid out in columns. -/
def consoleLines (l : LogSetup) (es : List Log.Event) : Option (List String) :=
  l.handlers.findSome? fun
    | .plain format => some (lines format l.level es)
    | _ => none

/-- The path of the log file and its lines, without their times. -/
def fileLines (l : LogSetup) (es : List Log.Event) : Option (String × List String) :=
  l.handlers.findSome? fun
    | .file path level => some (path, lines timelessFormat (max l.level level) es)
    | _ => none

end LogSetup

end SourceOutline
