import SourceOutline.Error.Report
import SourceOutline.Text.Utf8
import SourceOutline.Validation.Issue

/-!
# Failures

Every way in which an operation can end without a result. `Failure.readingText?` is the wording of
those that come from reading or writing files.
-/

namespace SourceOutline

/-- Why an operation has no result. -/
inductive Failure where
  /-- An error that is reported to people. -/
  | reported (r : Report)
  /-- A value does not fit its record. -/
  | invalid (issues : List Issue)
  /-- A function was called with an argument that it does not take. -/
  | unexpectedArgument
  /-- A value is outside of what is allowed. -/
  | badValue
  /-- A node has no child where one is needed. -/
  | missingChild
  /-- Something is asked for by a name that it does not have. -/
  | unknownName
  /-- A file does not exist. -/
  | fileNotFound (path : String)
  /-- A file stands where a directory is to be made. -/
  | fileExists (path : String)
  /-- A directory stands where a file is expected. -/
  | isDirectory (path : String)
  /-- A path leads through something that is not a directory. -/
  | notDirectory (path : String)
  /-- Bytes are not UTF-8. -/
  | notUtf8 (misfit : Utf8.Misfit)
  /-- A setting of several parts is not given as JSON. -/
  | badSetting
  /-- A failure that a handler of another make, the console or the file system raised, by its name. -/
  | foreign (name : String)

namespace Failure

/-- The wording of a failure to read or write a file. -/
def readingText? : Failure → Option String
  | fileNotFound p => some s!"[Errno 2] No such file or directory: {Text.quoted p}"
  | fileExists p => some s!"[Errno 17] File exists: {Text.quoted p}"
  | notDirectory p => some s!"[Errno 20] Not a directory: {Text.quoted p}"
  | isDirectory p => some s!"[Errno 21] Is a directory: {Text.quoted p}"
  | notUtf8 m => some m.message
  | _ => none

end Failure

end SourceOutline
