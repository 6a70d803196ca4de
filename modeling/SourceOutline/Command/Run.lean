import SourceOutline.Command.Console
import SourceOutline.Command.Help
import SourceOutline.Command.Options
import SourceOutline.Handler.Registry
import SourceOutline.Log.Setup

/-!
# Commands

The commands of the program as functions of their words and their surroundings.

* `ParseRequest` is what `parse` is asked for; `ParseRequest.outline` finds the handler, reads the
  file and parses it, and `ParseRequest.outcome` is all that the command does up to what it hands to
  the console. `Outcome.on` is what comes of this on a console.
* `Program.run` reads the words and runs a command.
-/

namespace SourceOutline

/-- What a command does. -/
structure Outcome where
  exit : Nat := 0
  /-- What is handed to the console. -/
  shown : List Shown := []
  /-- What is written to the standard output. -/
  output : String := ""
  /-- The failure that ends the command before it is done. -/
  failure : Option Failure := none
  log : List Log.Record := []
  setup : LogSetup
  files : Files

/-- A command has no words for what is asked. -/
def Outcome.misused (setup : LogSetup) (files : Files) : Outcome :=
  { exit := 2, setup, files }

/-- The same with a text in front of the output. -/
def Outcome.after (text : String) (o : Outcome) : Outcome :=
  { o with output := text ++ o.output }

/-- The same on a console: what cannot be shown ends the command, and what comes before it stays. -/
def Outcome.on (o : Outcome) (c : Console) : Outcome :=
  if o.shown.all c.shows then o
  else { o with exit := 1, shown := o.shown.takeWhile c.shows, failure := some Console.badMarkup }

/-- What `parse` is asked for. -/
structure ParseRequest where
  path : String
  language : Option String := none
  module : Option String := none
  json : Bool := false
  details : Bool := false
  output : Option String := none
  verbose : Bool := false

/-- An outline, with the types and their members if they are asked for. -/
structure Parsing where
  language : String
  file : ParsedFile
  details : Option (List TypeDetails) := none

/-- The language for a path: the one that is given, that of the extension, or the default one. -/
def selectLanguage (around : Surroundings) (registry : HandlerRegistry) (path : String)
    (language : Option String) : Run String :=
  match language.filter (· ≠ "") with
  | some l => pure (Text.lower l)
  | none =>
    if registry.canHandle path then Run.ofExcept (registry.languageForPath path)
    else do
      let settings ← Run.ofExcept (Settings.load around)
      match settings.parser.defaultLanguage with
      | some l =>
        let suffix := Path.suffix path
        let shown := if suffix = "" then "files without extension" else suffix
        Run.report Log.commandChannel .info s!"No handler for {shown}, using {l}"
        return l
      | none => Run.ofExcept (registry.languageForPath path)

/-- The text of a source file that is not too large. -/
def readSource (around : Surroundings) (files : Files) (path : String) : Except Failure String := do
  let limit := (← Settings.load around).parser.maxSourceBytes
  let bytes ← files.read path
  if limit < bytes.length then
    .error (.reported (.make .general s!"File is larger than {limit} bytes" []
      [("path", .str path), ("size", .int bytes.length)]))
  else Files.textOf bytes

/-- The types of a source with their members, by a handler that reads syntax trees. -/
def ReadyHandler.details (h : ReadyHandler) (code : String) (trees : SyntaxTrees := Handler.parseTree) :
    Run (Option (List TypeDetails)) :=
  match h with
  | .tree h => some <$> h.detailsIn (.ofString code) (trees h code)
  | .stub _ => pure none

namespace ParseRequest

/-- The options of the handler. -/
def options (r : ParseRequest) : Options :=
  match r.module.filter (· ≠ "") with
  | some m => [("module_name", .str m)]
  | none => []

/-- The types with their members, if they are asked for and the handler can tell. -/
def detailsBy (r : ParseRequest) (h : ReadyHandler) (code : String) (trees : SyntaxTrees := Handler.parseTree) :
    Run (Option (List TypeDetails)) :=
  if r.details then h.details code trees else pure none

/-- The outline that is asked for. The settings are those of the surroundings; the source is read
from `files`, which may hold a new log file beside them. -/
def outline (r : ParseRequest) (around : Surroundings) (files : Files) (registry : HandlerRegistry)
    (trees : SyntaxTrees := Handler.parseTree) : Run Parsing := do
  let path := Path.normal r.path
  let language ← selectLanguage around registry path r.language
  let h ← Run.ofExcept (registry.handlerFor language r.options)
  let code ← Run.ofExcept (readSource around files path)
  let file ← (h.answers trees).parseFile code
  let details ← r.detailsBy h code trees
  return { language, file, details }

/-- The outline as JSON. -/
def payload (p : Parsing) : Json :=
  match p.file.toJson, p.details with
  | .obj fields, some ds => .obj (fields ++ [("typeDetails", .arr (ds.map TypeDetails.toJson))])
  | v, _ => v

/-- The outline as a JSON text, ASCII only. -/
def text (p : Parsing) : String :=
  (payload p).render { Json.Style.indented 2 with asciiOnly := true }

/-- The screens for the outline. -/
def screens (r : ParseRequest) (p : Parsing) : List Shown :=
  Display.parsedFile (Path.normal r.path) p.language p.file
    ++ Display.typeDetails (p.details.getD [])

/-- Writes or shows the outline. -/
def emit (r : ParseRequest) (p : Parsing) (o : Outcome) : Outcome :=
  match r.output.filter (· ≠ "") with
  | some path =>
    match o.files.writeText (Path.normal path) (text p) with
    | .ok files =>
      { o with files, shown := Display.success "Parse Complete" s!"Output written to: {path}" }
    | .error f => { o with exit := 1, failure := some f }
  | none =>
    if r.json then { o with output := text p ++ "\n" } else { o with shown := r.screens p }

/-- Reports a failure on the screen, or ends with it. -/
def giveUp (r : ParseRequest) (f : Failure) (o : Outcome) : Outcome :=
  match f, f.readingText? with
  | .reported report, _ => { o with exit := 1, shown := Display.error "Parse Failed" report.text }
  | _, some text =>
    { o with exit := 1, shown := Display.error "Read Failed" s!"{Path.normal r.path}: {text}" }
  | f, none => { o with exit := 1, failure := some f }

/-- The log as the request wants it: everything, if much is asked to be told. -/
def logFor (r : ParseRequest) (around : Surroundings) (setup : LogSetup) :
    LogSetup × Except Failure Files :=
  if r.verbose then
    match Settings.load around with
    | .ok settings => setup.replace around.files settings.logging (some "DEBUG")
    | .error f => (setup, .error f)
  else (setup, .ok around.files)

/-- All that the command does, up to what it hands to the console. -/
def outcome (r : ParseRequest) (around : Surroundings) (registry : HandlerRegistry)
    (setup : LogSetup) (trees : SyntaxTrees := Handler.parseTree) : Outcome :=
  match r.logFor around setup with
  | (setup, .error f) => { exit := 1, failure := some f, setup, files := around.files }
  | (setup, .ok files) =>
    let run := r.outline around files registry trees
    let log := run.log.filter fun x => setup.level ≤ x.level.rank
    match run.result with
    | .ok p => r.emit p { log, setup, files }
    | .error f => r.giveUp f { log, setup, files }

end ParseRequest

namespace Program

/-- The option for help. -/
def helpOption : CommandOption := { name := "help" }

/-- The options of the program. -/
def options : List CommandOption :=
  [{ name := "version", letter := some 'v' }, helpOption]

/-- The options of `parse`. -/
def parseOptions : List CommandOption :=
  [{ name := "path", letter := some 'p', takesValue := true },
    { name := "language", letter := some 'l', takesValue := true },
    { name := "module", letter := some 'm', takesValue := true },
    { name := "format", letter := some 'f', takesValue := true },
    { name := "details", letter := some 'd' },
    { name := "output", letter := some 'o', takesValue := true },
    { name := "verbose" }, helpOption]

/-- The file that is to be parsed: it must exist and be no directory. -/
def sourcePath? (files : Files) (g : Given) : Option String :=
  (g.value? "path").filter fun p => p ≠ "" ∧ files.isFile p ∧ p.toList.getLast? ≠ some '/'

/-- The output is JSON. -/
def format? (g : Given) : Option Bool :=
  match (g.value? "format").getD "text" with
  | "text" => some false
  | "json" => some true
  | _ => none

/-- What is asked for, if nothing is wrong with it. -/
def request? (files : Files) (g : Given) : Option ParseRequest := do
  let path ← sourcePath? files g
  let json ← format? g
  let output := g.value? "output"
  if g.others ≠ [] ∨ output.any fun p => p ≠ "" ∧ files.isDirectory p then none
  else return {
    path, json, output
    language := g.value? "language"
    module := g.value? "module"
    details := g.flag "details"
    verbose := g.flag "verbose" }

/-- The command that parses a file. -/
def parse (around : Surroundings) (registry : HandlerRegistry) (setup : LogSetup)
    (words : List String) : Outcome :=
  match Given.read? parseOptions true words with
  | none => .misused setup around.files
  | some g =>
    if g.flag "help" then { output := Help.parse, setup, files := around.files }
    else
      match request? around.files g with
      | none => .misused setup around.files
      | some r => r.outcome around registry setup

/-- The screen for the languages of a registry. -/
def languagesScreen (registry : HandlerRegistry) : List Shown :=
  if registry.languages = [] then [.text "[yellow]No language handlers registered.[/]"]
  else Display.languages (registry.languages.map fun l => (l, registry.extensionsOf l))

/-- The command that lists the languages. -/
def languages (around : Surroundings) (registry : HandlerRegistry) (setup : LogSetup)
    (words : List String) : Outcome :=
  match Given.read? [helpOption] true words with
  | none => .misused setup around.files
  | some g =>
    if g.flag "help" then { output := Help.languages, setup, files := around.files }
    else if g.others ≠ [] then .misused setup around.files
    else { shown := languagesScreen registry, setup, files := around.files }

/-- Runs the program with the words of a command line. -/
def run (around : Surroundings) (registry : HandlerRegistry) (setup : LogSetup)
    (words : List String) : Outcome :=
  match Given.read? options false words with
  | none => .misused setup around.files
  | some g =>
    let version := if g.flag "version" then Help.version else ""
    if g.flag "help" then { output := Help.program, setup, files := around.files }
    else
      match g.others with
      | [] =>
        { output := if version = "" then Help.program else version, setup, files := around.files }
      | "parse" :: words => (parse around registry setup words).after version
      | "languages" :: words => (languages around registry setup words).after version
      | _ => .misused setup around.files

end Program

end SourceOutline
