import Std.Time
import SourceOutline.Command.Run

/-!
# The program

Runs a command of `SourceOutline.Command.Run` in the surroundings that it is called from: the
environment, and the files that its words and its settings name. What the command shows, logs and
writes goes to the terminal and to the files.
-/

namespace SourceOutline.Main

/-! ## Surroundings -/

/-- Names of settings, for places where the whole environment cannot be read. -/
def settingNames : List String :=
  [Settings.userConfigName, "CODEPARSE_PARSER", "CODEPARSE_PARSER_DEFAULT_LANGUAGE",
    "CODEPARSE_PARSER_MAX_SOURCE_BYTES", "CODEPARSE_LOGGING", "CODEPARSE_LOGGING_LEVEL",
    "CODEPARSE_LOGGING_FORMAT", "CODEPARSE_LOGGING_FILE", "CODEPARSE_LOGGING_USE_RICH"]

/-- A name and its value, with an equals sign between them. -/
def binding (cs : List Char) : String × String :=
  let name := cs.takeWhile (· ≠ '=')
  (String.ofList name, String.ofList (cs.drop (name.length + 1)))

/-- The environment. -/
def readEnvironment : IO (Table String String) := do
  match ← (IO.FS.readBinFile "/proc/self/environ").toBaseIO with
  | .ok bytes =>
    let texts := (bytes.toList.splitOn 0).filter (· ≠ [])
    return Table.ofPairs (texts.map fun t => binding (Utf8.decodeLossy t))
  | .error _ =>
    settingNames.filterMapM fun name => do
      return (← IO.getEnv name).map fun value => (name, value)

/-- What stands at a path, if anything that can be read. -/
def readEntry (path : String) : IO (Option Entry) := do
  match ← (IO.FS.readBinFile path).toBaseIO with
  | .ok bytes => return some (.file bytes.toList)
  | .error (.inappropriateType ..) => return some .directory
  | .error _ => return none

/-- The absolute path of a place. -/
def pathOf (l : Location) : String :=
  "/" ++ "/".intercalate l.tail

/-- The files with what stands on the way from a place on. -/
def look (files : Files) (here : Location) : List String → IO Files
  | [] => return files
  | p :: ps => do
    let next := if p = ".." then Files.around here else here ++ [p]
    match ← readEntry (pathOf next) with
    | some e => look { files with entries := files.entries.set next e } next ps
    | none => return files

/-- The files with what stands on the way to a path. -/
def lookAt (files : Files) (path : String) : IO Files :=
  look files (files.start path) (Path.parts path)

/-- The paths that a word may name: the word, what follows an equals sign, and what follows a
letter behind a dash. -/
def pathsIn (word : String) : List String :=
  let cs := word.toList
  [word, (binding cs).2, String.ofList (cs.drop 2)].filter (· ≠ "")

/-- The surroundings of a command. The configuration that comes with the program counts as standing
beside it. -/
def surroundings (words : List String) : IO Surroundings := do
  let env ← readEnvironment
  let home := "/" :: Path.parts (← IO.currentDir).toString
  let beside := Path.parent (← IO.appPath).toString
  let bundledConfig := Path.ofParts "/" (Path.parts beside ++ ["default.yaml"])
  let userConfig := (env.get? Settings.userConfigName).toList
  let files ← (".env" :: userConfig ++ words.flatMap pathsIn).foldlM lookAt { home }
  let bundled := Entry.file (Utf8.encode bundledConfigText.toList)
  let files := { files with
    entries := (files.entries.set ("/" :: Path.parts bundledConfig) bundled) }
  let files := (Files.pathsAround bundledConfig).foldl (fun fs path =>
    { fs with entries := fs.entries.set ("/" :: Path.parts path) .directory }) files
  let around : Surroundings := { files, env, bundledConfig }
  match Settings.load around with
  | .ok { logging := { file := some path, .. }, .. } =>
    return { around with files := ← lookAt files path }
  | _ => return around

/-! ## Results -/

/-- What is shown, as lines without styles. -/
def shownLines : Shown → List String
  | .text markup => [Display.plainText markup]
  | .panel title body _ => [Display.plainText title, Display.plainText body]
  | .table title columns rows =>
    Display.plainText title :: (columns.map Prod.fst :: rows).map fun cells =>
      "  ".intercalate (cells.map Display.plainText)

/-- The wording of a failure that ends a command. -/
def failureText : Failure → String
  | .reported r => r.text
  | .invalid issues =>
    s!"{issues.length} validation error" ++ if issues.length = 1 then "" else "s"
  | .unexpectedArgument => "Unexpected argument"
  | .badValue => "Value is not allowed"
  | .missingChild => "Node has no child"
  | .unknownName => "Unknown name"
  | .badSetting => "Setting is not valid JSON"
  | .foreign name => name
  | f => f.readingText?.getD ""

/-- A record as a line on a console with columns. -/
def columnLine (e : Log.Event) : String :=
  Log.levelWord e.level ++ "  " ++ e.message

/-- Writes what has changed in the files. -/
def writeChanges (before after : Files) : IO Unit :=
  after.entries.forM fun (l, e) => do
    if before.at? l ≠ some e then
      match e with
      | .directory => IO.FS.createDirAll (pathOf l)
      | .file bytes => IO.FS.writeBinFile (pathOf l) ⟨bytes.toArray⟩

/-- Writes log records to the console and to the end of the log file. -/
def writeLog (files : Files) (setup : LogSetup) (events : List Log.Event) : IO Unit := do
  let counted := events.filter (LogSetup.counts setup.level)
  let lines := (setup.consoleLines events).getD (counted.map columnLine)
  lines.forM fun line => IO.eprintln line
  match setup.fileLines events with
  | some (path, lines) =>
    match files.locate path with
    | .ok l =>
      let time := (← Std.Time.PlainDateTime.now).format "uuuu-MM-dd HH:mm:ss,SSS"
      let file ← IO.FS.Handle.mk (pathOf l) .append
      lines.forM fun line => file.putStrLn (time ++ " - " ++ line)
    | .error _ => return
  | none => return

/-- Writes all that a command gives. -/
def finish (before : Files) (o : Outcome) : IO UInt32 := do
  let o := o.on .plain
  writeChanges before o.files
  writeLog o.files o.setup (o.log.map Log.Record.event)
  (o.shown.flatMap shownLines).forM fun line => IO.println line
  IO.print o.output
  match o.failure with
  | some f => IO.eprintln (failureText f)
  | none => if o.exit = 2 then IO.eprintln "The words of the command are not understood."
  return o.exit.toUInt32

/-- Runs a command in its surroundings, with the log set up by the settings. -/
def run (words : List String) : IO UInt32 := do
  let around ← surroundings words
  let nothing : LogSetup := ⟨Log.Level.warning.rank, []⟩
  let started := do
    let settings ← Settings.load around
    let (setup, result) := nothing.replace around.files settings.logging none
    return (setup, ← result)
  match started with
  | .error failure => finish around.files { exit := 1, failure, setup := nothing, files := around.files }
  | .ok (setup, files) =>
    finish around.files (Program.run { around with files } .bundled setup words)

end SourceOutline.Main

/-- Runs the program with the words of its command line. -/
def main (words : List String) : IO UInt32 :=
  SourceOutline.Main.run words
