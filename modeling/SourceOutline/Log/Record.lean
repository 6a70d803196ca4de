/-!
# Log records

What a program reports while it works: a record names the channel that sent it, its level and its
message. Channels form a tree by their dotted names.
-/

namespace SourceOutline.Log

/-- The levels that the program itself uses. -/
inductive Level where
  | debug
  | info
  | warning
  | error
  | critical
  deriving DecidableEq, Repr

/-- The word for a level. -/
def Level.word : Level → String
  | .debug => "DEBUG"
  | .info => "INFO"
  | .warning => "WARNING"
  | .error => "ERROR"
  | .critical => "CRITICAL"

/-- The rank of a level. -/
def Level.rank : Level → Nat
  | .debug => 10
  | .info => 20
  | .warning => 30
  | .error => 40
  | .critical => 50

/-- One report. -/
structure Record where
  channel : String
  level : Level
  message : String
  deriving DecidableEq, Repr

/-! ## Channels -/

/-- Reports on syntax trees. -/
def treeChannel : String := "src.code_parsing.languages.base"

/-- Reports on types found in Java sources. -/
def javaChannel : String := "src.code_parsing.languages.java_handler"

/-- Reports on classes found in Python sources. -/
def pythonChannel : String := "src.code_parsing.languages.python_handler"

/-- Reports on whole files. -/
def fileChannel : String := "src.code_parsing.base"

/-- Reports on the choice of handlers. -/
def registryChannel : String := "src.code_parsing.registry"

/-- Reports of the command line. -/
def commandChannel : String := "src.cli.main"

end SourceOutline.Log
