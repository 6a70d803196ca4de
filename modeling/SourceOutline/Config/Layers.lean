import SourceOutline.Config.Value
import SourceOutline.Files.Store
import SourceOutline.Text.Dotted
import SourceOutline.Yaml.Reader

/-!
# Layered configuration

A configuration is put together from files, each layered over those before it.

* `Layers.load` starts over from one file, `Layers.merge` layers another file over what is there.
  Both say what they leave behind, also when they fail, and what they give.
* `Layers.after` is the configuration after some calls of these two.
* `Layers.value?` and `Layers.get` look a value up by a dotted key, `Layers.sectionOf` takes a whole section.
-/

namespace SourceOutline

/-- The values so far, and the files that they come from. -/
structure Layers where
  /-- The file that is loaded if no other is named. -/
  usual : Option String := none
  values : ConfigMap := []
  sources : List String := []

namespace Layers

/-- Complains about a configuration file. -/
def complaint (message path : String) (details : Table String Json) : Failure :=
  .reported (.make .configuration s!"{message}: {path}" [("config_key", .str path)] details)

/-- The mapping that a configuration text holds; nothing at all is an empty mapping. -/
def readMapping (path text : String) : Except Failure ConfigMap :=
  match Yaml.parse? text with
  | .error .malformed =>
    .error (complaint "Invalid YAML in configuration file" path [("error", .str "malformed text")])
  | .error .badValue => .error .badValue
  | .ok v =>
    match v with
    | .scalar .null => .ok []
    | .mapping entries => .ok entries
    | v => .error (complaint s!"Configuration root must be a mapping, got {v.typeWord}" path [])

/-- The mapping in a configuration file. -/
def readFile (fs : Files) (path : String) : Except Failure ConfigMap :=
  match fs.readText path with
  | .ok text => readMapping path text
  | .error (.fileNotFound _) => .error (complaint "Configuration file not found" path [])
  | .error f => .error f

/-- Layers a file over the configuration. The file is read first: one that cannot be read changes
nothing. -/
def merge (fs : Files) (l : Layers) (path : String) : Layers × Except Failure ConfigMap :=
  let path := Path.normal path
  match readFile fs path with
  | .error f => (l, .error f)
  | .ok entries =>
    let l := { l with values := ConfigValue.deepMerge l.values entries }
    let l := { l with sources := l.sources ++ [path] }
    (l, .ok l.values)

/-- Starts over from one file: the one that is named, or else the usual one, if there is one. What
was there is given up before the file is read. -/
def load (fs : Files) (l : Layers) (path : Option String) : Layers × Except Failure ConfigMap :=
  let l := { l with values := [] }
  let l := { l with sources := [] }
  match path.or l.usual with
  | some path => merge fs l path
  | none => (l, .ok l.values)

/-- A change of the configuration. -/
inductive Call where
  | load (path : Option String)
  | merge (path : String)

/-- What a call leaves behind, and what it gives. -/
def call (fs : Files) (l : Layers) : Call → Layers × Except Failure ConfigMap
  | .load path => l.load fs path
  | .merge path => l.merge fs path

/-- The configuration after some calls, those that fail included. -/
def after (fs : Files) (l : Layers) (calls : List Call) : Layers :=
  calls.foldl (fun l c => (l.call fs c).1) l

/-- The value at a dotted key. -/
def value? (l : Layers) (key : String) : Option ConfigValue :=
  ConfigValue.lookUp? (.mapping l.values) (Dotted.parts key)

/-- The value at a dotted key, or what is given for keys without one. -/
def get (l : Layers) (key : String) (default : ConfigValue) : ConfigValue :=
  (l.value? key).getD default

/-- Complains about a section of a configuration that comes from some files. -/
def sectionComplaint (sources : List String) (name : String) : Failure :=
  .reported (.make .configuration s!"Configuration section '{name}' must be a mapping"
    [("config_key", .str name)] [("sources", .strs sources)])

/-- A section; one that is absent or null is empty. -/
def sectionOf (l : Layers) (name : String) : Except Failure ConfigMap :=
  match l.values.get? (.text name) with
  | none => .ok []
  | some (.scalar .null) => .ok []
  | some (.mapping entries) => .ok entries
  | some _ => .error (sectionComplaint l.sources name)

/-- The configuration with a file over it, if the file can be read. -/
def withFile (fs : Files) (l : Layers) (path : String) : Except Failure Layers :=
  let (l, outcome) := l.merge fs path
  outcome.map fun _ => l

/-- The configuration of several files; the first one that cannot be read is in the way. -/
def ofFiles (fs : Files) (paths : List String) : Except Failure Layers :=
  paths.foldlM (withFile fs) {}

end Layers

/-- The entries of a section that are not null. -/
def presentEntries (entries : ConfigMap) : ConfigMap :=
  entries.filter fun e => !e.2.isNull

/-- The configuration that comes with the program. -/
def bundledConfigText : String :=
  String.join <| List.map (· ++ "\n")
    ["parser:",
      "  # Language used when a file extension does not identify one (java, python)",
      "  default_language: null",
      "  # Largest source file that is read, in bytes",
      "  max_source_bytes: 1048576",
      "",
      "logging:",
      "  level: WARNING",
      "  format: \"[%(name)s] %(message)s\"",
      "  file: null",
      "  use_rich: true"]

end SourceOutline
