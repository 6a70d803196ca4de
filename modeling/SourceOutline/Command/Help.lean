/-!
# Help texts

What the commands say about themselves.
-/

namespace SourceOutline.Help

/-- Lines as a text. -/
def ofLines (lines : List String) : String :=
  String.join (lines.map (· ++ "\n"))

/-- The version of the program. -/
def version : String := "codeparse version 0.1.0\n"

/-- The help of the program. -/
def program : String := ofLines [
  "Usage: main [OPTIONS] [COMMAND] [ARGS]...",
  "",
  "  codeparse - extract imports and type declarations from source files.",
  "",
  "Options:",
  "  -v, --version  Show version",
  "  --help         Show this message and exit.",
  "",
  "Commands:",
  "  languages  List the languages that can be parsed.",
  "  parse      Parse a source file into imports and types."]

/-- The help of the command that lists languages. -/
def languages : String := ofLines [
  "Usage: main languages [OPTIONS]",
  "",
  "  List the languages that can be parsed.",
  "",
  "Options:",
  "  --help  Show this message and exit."]

/-- The help of the command that parses a file. -/
def parse : String := ofLines [
  "Usage: main parse [OPTIONS]",
  "",
  "  Parse a source file into imports and types.",
  "",
  "  Examples:     codeparse parse --path src/Main.java     codeparse parse -p",
  "  app/models.py -m app.models -f json --details     codeparse parse -p",
  "  Main.java -o parsed.json",
  "",
  "Options:",
  "  -p, --path FILE           Source file to parse  [required]",
  "  -l, --language TEXT       Language handler to use (default: from file",
  "                            extension)",
  "  -m, --module TEXT         Module name used as the package of Python types",
  "  -f, --format [text|json]  Output format",
  "  -d, --details             Include fields and methods of each type",
  "  -o, --output FILE         Write JSON output to a file",
  "  --verbose                 Verbose logging",
  "  --help                    Show this message and exit."]

end SourceOutline.Help
