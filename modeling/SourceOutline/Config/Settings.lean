import SourceOutline.Config.EnvFile
import SourceOutline.Config.Layers
import SourceOutline.Json.Reader
import SourceOutline.Log.Record
import SourceOutline.Text.Case
import SourceOutline.Validation.Fields

/-!
# Settings

What can be set, and where it is set from: arguments come first, then the environment, then the
file `.env`, then the defaults.

* `ParserSettings`, `LoggingSettings` and `Settings` are the records, each read from `Sources`.
* `Settings.ofFiles` takes arguments from configuration files; a null in them counts as absent.
* `Settings.load` reads the configuration that comes with the program and the one of the user.
-/

namespace SourceOutline

open Checked

/-! ## Where settings come from -/

/-- What a program finds around it. -/
structure Surroundings where
  files : Files := {}
  env : Table String String := []
  /-- The path of the configuration that comes with the program. -/
  bundledConfig : String := "config/default.yaml"

/-- Names with their values, whatever their case; a later one counts. -/
def lowerNames (t : Table String α) : Table String α :=
  Table.ofPairs (t.map fun e => (Text.lower e.1, e.2))

/-- The values for the fields of one record. -/
structure Sources where
  /-- What the names in the environment begin with, in lower case. -/
  stem : String
  arguments : Table String Json := []
  environment : Table String String := []
  envFile : Table String (Option String) := []

namespace Sources

/-- The argument that has the names in the environment begin with another text. -/
def stemArgument : String := "_env_prefix"

/-- What the names in the environment begin with, unless an argument says otherwise. -/
def stemFrom (arguments : Table String Json) (stem : String) : String :=
  match arguments.get? stemArgument with
  | some (.str other) => Text.lower other
  | _ => stem

/-- What the file `.env` sets, if it is a file. -/
def envFileOf (around : Surroundings) : Except Failure (Table String (Option String)) :=
  if around.files.isFile ".env" then EnvFile.read around.env <$> around.files.readText ".env" else pure []

/-- The sources of a record. -/
def make (around : Surroundings) (stem : String) (arguments : Table String Json) :
    Except Failure Sources := do
  let envFile ← envFileOf around
  return { stem := stemFrom arguments stem, arguments, environment := lowerNames around.env,
           envFile := lowerNames envFile }

/-- The text for a field from outside. -/
def outside? (s : Sources) (field : String) : Option String :=
  match s.environment.get? (s.stem ++ field) with
  | some v => some v
  | none => (s.envFile.get? (s.stem ++ field)).join

/-- The value for a field. -/
def value? (s : Sources) (field : String) : Option Json :=
  match s.arguments.get? field with
  | some v => some v
  | none => (s.outside? field).map .str

/-- Reads a field that has a default value. -/
def read (s : Sources) (field : String) (default : α) (reader : Json → Checked α) : Checked α :=
  match s.value? field with
  | none => .ok default
  | some v => (reader v).under (.key field)

end Sources

/-! ## Values of fields -/

/-- White space that may stand around a number. -/
def isNumberSpace (c : Char) : Bool :=
  Text.isBlank c && !(0x1C ≤ c.toNat && c.toNat ≤ 0x1F)

/-- The number that digits stand for; single underscores may stand between them. -/
def digitsValue? : List Char → Option Nat
  | [] => none
  | cs =>
    let rec go (value : Nat) (afterDigit : Bool) : List Char → Option Nat
      | [] => if afterDigit then some value else none
      | c :: r =>
        if c.isDigit then go (value * 10 + (c.toNat - '0'.toNat)) true r
        else if c = '_' ∧ afterDigit then go value false r
        else none
    go 0 false cs

/-- The text without a point and zeros at its end. -/
def dropZeroFraction (cs : List Char) : List Char :=
  let whole := cs.takeWhile (· ≠ '.')
  if (cs.drop (whole.length + 1)).all (· = '0') then whole else cs

/-- The integer that a text stands for. -/
def integerOfText? (s : String) : Option Int :=
  let cs := (s.toList.dropWhile isNumberSpace).reverse.dropWhile isNumberSpace |>.reverse
  match cs with
  | '-' :: r => (digitsValue? (dropZeroFraction r)).map fun n => -(n : Int)
  | '+' :: r => (digitsValue? (dropZeroFraction r)).map fun n => (n : Int)
  | r => (digitsValue? (dropZeroFraction r)).map fun n => (n : Int)

/-- Reads an integer, a whole number, a truth value or a text that is an integer. -/
def readInteger : Json → Checked Int
  | .int n => .ok n
  | .bool b => .ok (if b then 1 else 0)
  | .float x =>
    match x.toInt? with
    | some n => .ok n
    | none => fail (if x.magnitude?.isSome then .intFromFloat else .finiteNumber)
  | .str s =>
    match integerOfText? s with
    | some n => .ok n
    | none => fail .intParsing
  | _ => fail .intType

/-- Reads an integer that is not below a limit. -/
def readAtLeast (least : Int) (v : Json) : Checked Int := do
  let n ← readInteger v
  if least ≤ n then return n else fail .greaterThanEqual

/-- Reads the name of a language: trimmed, in lower case, and none if nothing is left. -/
def readLanguage : Json → Checked (Option String)
  | .str s =>
    let name := Text.lower (String.ofList (Text.trim s.toList))
    .ok (if name = "" then none else some name)
  | .null => .ok none
  | _ => fail .stringType

/-- The levels by their words. -/
def Log.Level.ofWord? (w : String) : Option Log.Level :=
  [Log.Level.debug, .info, .warning, .error, .critical].find? fun l => l.word = w

/-- Reads a level in any case. -/
def readLevel : Json → Checked Log.Level
  | .str s =>
    match Log.Level.ofWord? (Text.upper s) with
    | some l => .ok l
    | none => fail .literalError
  | _ => fail .literalError

/-- Reads the path of a file; an empty text is none. -/
def readPath : Json → Checked (Option String)
  | .str s => .ok (if s = "" then none else some (Path.normal s))
  | .null => .ok none
  | _ => fail .pathType

/-! ## Records -/

/-- The choice of a language, and limits of what is read. -/
structure ParserSettings where
  /-- The language of files whose extension does not tell it. -/
  defaultLanguage : Option String := none
  /-- The largest source file that is read, in bytes. -/
  maxSourceBytes : Int := 1048576
  deriving DecidableEq

/-- Where log records go. -/
structure LoggingSettings where
  level : Log.Level := .warning
  format : String := "[%(name)s] %(message)s"
  /-- A file that records are also written to. -/
  file : Option String := none
  useRich : Bool := true
  deriving DecidableEq

/-- All settings. -/
structure Settings where
  parser : ParserSettings := {}
  logging : LoggingSettings := {}
  deriving DecidableEq

/-- Reads the settings of the parser. -/
def ParserSettings.ofSources (s : Sources) : Checked ParserSettings :=
  (both (s.read "default_language" none readLanguage)
    (s.read "max_source_bytes" 1048576 (readAtLeast 1))).map
    fun p => { defaultLanguage := p.1, maxSourceBytes := p.2 }

/-- Reads the settings of the log. -/
def LoggingSettings.ofSources (s : Sources) : Checked LoggingSettings :=
  (both (s.read "level" .warning readLevel) <|
    both (s.read "format" ({} : LoggingSettings).format string) <|
    both (s.read "file" none readPath) (s.read "use_rich" true bool)).map
    fun p => { level := p.1, format := p.2.1, file := p.2.2.1, useRich := p.2.2.2 }

/-- The settings of the parser from arguments and from outside. -/
def ParserSettings.make (around : Surroundings) (arguments : Table String Json) :
    Except Failure ParserSettings := do
  (ParserSettings.ofSources (← Sources.make around "codeparse_parser_" arguments)).mapError .invalid

/-- The settings of the log from arguments and from outside. -/
def LoggingSettings.make (around : Surroundings) (arguments : Table String Json) :
    Except Failure LoggingSettings := do
  (LoggingSettings.ofSources (← Sources.make around "codeparse_logging_" arguments)).mapError
    .invalid

namespace Settings

/-- The value that a text from outside stands for; null is none. -/
def jsonOutside? : Option String → Except Failure (Option Json)
  | none => .ok none
  | some text =>
    match Json.parse? text with
    | some .null => .ok none
    | some v => .ok (some v)
    | none => .error .badSetting

/-- One value over another, where there are both. -/
def overlay : Option Json → Option Json → Option Json
  | some upper, some base => some (ConfigValue.layer (.ofJson upper) (some (.ofJson base))).toJson
  | some upper, none => some upper
  | none, base => base

/-- The value for a record of settings: arguments, over JSON from the environment, over JSON from the
file `.env`. Both of these are read, whatever stands over them. -/
def recordValue? (s : Sources) (field : String) : Except Failure (Option Json) := do
  let environment ← jsonOutside? (s.environment.get? (s.stem ++ field))
  let envFile ← jsonOutside? (s.envFile.get? (s.stem ++ field)).join
  return overlay (s.arguments.get? field) (overlay environment envFile)

/-- A record of settings: its default, or read from a value with its issues seen from outside. -/
def recordOf (field : String) (make : Table String Json → Except Failure α) (v : Option Json) :
    Except Failure (Checked α) :=
  match v with
  | none => (make []).map .ok
  | some (.obj fields) =>
    match make fields with
    | .ok a => .ok (.ok a)
    | .error (.invalid is) => .ok (Checked.under (.key field) (.error is))
    | .error f => .error f
  | some _ => .ok (Checked.under (.key field) (fail .modelType))

/-- Settings from arguments and from outside. -/
def make (around : Surroundings) (arguments : Table String Json) : Except Failure Settings := do
  let s ← Sources.make around "codeparse_" arguments
  let parserValue ← recordValue? s "parser"
  let loggingValue ← recordValue? s "logging"
  let parser ← recordOf "parser" (ParserSettings.make around) parserValue
  let logging ← recordOf "logging" (LoggingSettings.make around) loggingValue
  ((both parser logging).map fun (parser, logging) => { parser, logging }).mapError .invalid

/-- A configured value as an argument. A time is no text, and fits no field; nor does a list. -/
def argumentOf : ConfigValue → Json
  | .scalar (.time _) => .arr []
  | v => v.toJson

/-- The entries of a section that are not null, as arguments. Every key must be a text. -/
def sectionArguments (entries : ConfigMap) : Except Failure (Table String Json) :=
  (presentEntries entries).mapM fun (k, v) =>
    match k with
    | .text name => .ok (name, argumentOf v)
    | _ => .error .unexpectedArgument

/-- The arguments in a section of a configuration. -/
def argumentsIn (layers : Layers) (part : String) : Except Failure (Table String Json) := do
  sectionArguments (← layers.sectionOf part)

/-- Settings from a configuration. -/
def ofLayers (around : Surroundings) (layers : Layers) : Except Failure Settings := do
  let parser ← ParserSettings.make around (← argumentsIn layers "parser")
  let logging ← LoggingSettings.make around (← argumentsIn layers "logging")
  let s ← Sources.make around "codeparse_" []
  let _ ← recordValue? s "parser"
  let _ ← recordValue? s "logging"
  return { parser, logging }

/-- Settings from configuration files, later ones over earlier ones. -/
def ofFiles (around : Surroundings) (paths : List String) : Except Failure Settings := do
  ofLayers around (← Layers.ofFiles around.files paths)

/-- The name in the environment for the configuration file of the user. -/
def userConfigName : String := "CODEPARSE_CONFIG"

/-- The configuration files that there are: the one of the program, if it exists, and the one that
the user names. -/
def configPaths (around : Surroundings) : List String :=
  let bundled := around.bundledConfig
  (if (around.files.entry? bundled).isSome then [bundled] else [])
    ++ ((around.env.get? userConfigName).filter (· ≠ "")).toList

/-- The settings of the program. -/
def load (around : Surroundings) : Except Failure Settings :=
  match configPaths around with
  | [] => make around []
  | paths => ofFiles around paths

end Settings

end SourceOutline
