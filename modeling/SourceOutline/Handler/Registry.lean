import SourceOutline.Files.Path
import SourceOutline.Handler.Tree
import SourceOutline.Java.Grammar
import SourceOutline.Python.Grammar
import SourceOutline.Text.Case

/-!
# The registry of handlers

Languages and file extensions, and the makers of handlers behind them.

* `Maker.make` makes a handler with options, or refuses the options.
* `HandlerRegistry.register` adds a language or replaces its maker; the last call that names an
  extension decides which language it belongs to.
* `HandlerRegistry.select` finds the handler for a language or, if none is given, for a path.
-/

namespace SourceOutline

/-- What a handler is made with, by name. -/
abbrev Options := Table String Json

/-- What turns sources into syntax trees, each in the language of a handler. -/
abbrev SyntaxTrees := Handler → String → Node

/-- The syntax tree of a source in the language of a handler. -/
def Handler.parseTree : Handler → String → Node
  | .java => Java.parse
  | .python _ => Python.parse

/-- A handler that is ready to be asked. -/
inductive ReadyHandler where
  /-- A handler that reads syntax trees. -/
  | tree (h : Handler)
  /-- The stand-in for any language. -/
  | stub (options : Options)

/-- The answers of a handler. -/
def ReadyHandler.answers (h : ReadyHandler) (trees : SyntaxTrees := Handler.parseTree) : LanguageHandler :=
  match h with
  | .tree h => h.answers (trees h)
  | .stub _ => .stub

/-- Makes handlers of one kind. -/
inductive Maker where
  | java
  | python
  | stub
  /-- Any other way to make a handler, or to fail to. -/
  | custom (make : Options → Except Failure ReadyHandler)

/-- The module that is given by an option; none is the same as the empty one. -/
def moduleOption? : Options → Option String
  | [] => some ""
  | [("module_name", .str m)] => some m
  | [("module_name", .null)] => some ""
  | _ => none

/-- Makes a handler. The one for Java takes no options, the one for Python a module, and the
stand-in any; another one gets the options as they are. -/
def Maker.make : Maker → Options → Except Failure ReadyHandler
  | .java, [] => .ok (.tree .java)
  | .java, _ => .error .unexpectedArgument
  | .python, options =>
    match moduleOption? options with
    | some m => .ok (.tree (.python m))
    | none => .error .unexpectedArgument
  | .stub, options => .ok (.stub options)
  | .custom make, options => make options

/-- An extension in lower case, with its dot. -/
def normalExtension (ext : String) : String :=
  let ext := Text.lower ext
  if ['.'].isPrefixOf ext.toList then ext else "." ++ ext

/-- Makers by language, and languages by extension. -/
structure HandlerRegistry where
  makers : Table String Maker := []
  languageOf : Table String String := []

namespace HandlerRegistry

/-- Texts in the order of their characters. -/
def sorted (texts : List String) : List String :=
  texts.mergeSort fun a b => a ≤ b

/-- Adds a language with its extensions, or replaces its maker. Case does not matter. -/
def register (r : HandlerRegistry) (language : String) (maker : Maker)
    (extensions : List String) : HandlerRegistry where
  makers := r.makers.set (Text.lower language) maker
  languageOf := extensions.foldl (fun t e => t.set (normalExtension e) (Text.lower language))
    r.languageOf

/-- Nothing is registered. -/
def empty : HandlerRegistry := {}

/-- Java and Python. -/
def bundled : HandlerRegistry :=
  (empty.register "java" .java [".java"]).register "python" .python [".py", ".pyi"]

/-- All languages. -/
def languages (r : HandlerRegistry) : List String :=
  sorted r.makers.keys

/-- All extensions. -/
def extensions (r : HandlerRegistry) : List String :=
  sorted r.languageOf.keys

/-- The extensions of one language. -/
def extensionsOf (r : HandlerRegistry) (language : String) : List String :=
  sorted ((r.languageOf.filter fun e => e.2 = Text.lower language).map Prod.fst)

/-- The extension that decides on a path. -/
def extensionOf (path : String) : String :=
  Text.lower (Path.suffix path)

/-- The extension of a path is registered. -/
def canHandle (r : HandlerRegistry) (path : String) : Bool :=
  r.languageOf.has (extensionOf path)

/-- There is no handler for a language. -/
def unknownLanguage (r : HandlerRegistry) (language : String) : Report :=
  .make .unsupportedLanguage s!"No handler registered for language '{language}'"
    [("language", .str language)] [("available", .strs r.languages)]

/-- There is no handler for an extension. -/
def unknownExtension (r : HandlerRegistry) (ext : String) : Report :=
  let shown := if ext = "" then "<none>" else ext
  .make .unsupportedLanguage s!"No handler registered for extension '{shown}'"
    [("extension", if ext = "" then .null else .str ext)] [("available", .strs r.extensions)]

/-- Neither a language nor a path was given. -/
def nothingSelected : Report :=
  .make .unsupportedLanguage "Either a language or a file path is required"

/-- Makes the handler for a language. -/
def handlerFor (r : HandlerRegistry) (language : String) (options : Options) :
    Except Failure ReadyHandler :=
  match r.makers.get? (Text.lower language) with
  | some m => m.make options
  | none => .error (.reported (r.unknownLanguage language))

/-- The language of a path. -/
def languageForPath (r : HandlerRegistry) (path : String) : Except Failure String :=
  match r.languageOf.get? (extensionOf path) with
  | some l => .ok l
  | none => .error (.reported (r.unknownExtension (extensionOf path)))

/-- Makes the handler for a path. -/
def handlerForPath (r : HandlerRegistry) (path : String) (options : Options) :
    Except Failure ReadyHandler := do
  r.handlerFor (← r.languageForPath path) options

/-- Makes the handler for a language, or else for a path. An empty language is none. -/
def select (r : HandlerRegistry) (language path : Option String) (options : Options) :
    Except Failure ReadyHandler :=
  match language.filter (· ≠ ""), path with
  | some l, _ => r.handlerFor l options
  | none, some p => r.handlerForPath p options
  | none, none => .error (.reported nothingSelected)

/-- The outline of a source, by the handler for a language or a path. -/
def parseSource (r : HandlerRegistry) (code : String) (language path : Option String)
    (options : Options) : Run ParsedFile := do
  let h ← Run.ofExcept (r.select language path options)
  h.answers.parseFile code

end HandlerRegistry

end SourceOutline
