import SourceOutline.Error.Failure
import SourceOutline.Files.Path

/-!
# Files

The files and directories that a program can reach, as a value.

* `Files.locate` follows a path step by step; every step but the last must lead to a directory.
* `Files.read`, `Files.write` and `Files.makeDirectories` act on the place that a path leads to.
* `Files.readText` reads a text: UTF-8, with every kind of line end as a line feed.
-/

namespace SourceOutline

/-- What stands at a place. -/
inductive Entry where
  | directory
  | file (bytes : List UInt8)
  deriving DecidableEq

/-- The names on the way to a place, from the working directory on, or from `/` on. -/
abbrev Location := List String

/-- The places that something stands at. The root and the working directory are always there. -/
structure Files where
  entries : Table Location Entry := []
  /-- The working directory, if its place below the root is known. -/
  home : Location := []
  /-- How many bytes the name of a file or a directory may have. -/
  longestName : Nat := 255

namespace Files

/-- What stands at a place. -/
def at? (fs : Files) (l : Location) : Option Entry :=
  if l = [] ∨ l = ["/"] ∨ l = fs.home then some .directory else fs.entries.get? l

/-- The place around a place; the root is around itself. -/
def around (l : Location) : Location :=
  if l = ["/"] then l else l.dropLast

/-- The place that a path starts from. -/
def start (fs : Files) (path : String) : Location :=
  if Path.root path = "" then fs.home else ["/"]

/-- Follows the components of a path from a directory on. -/
def walk (fs : Files) (path : String) (here : Location) : List String → Except Failure Location
  | [] => .ok here
  | [p] => .ok (if p = ".." then around here else here ++ [p])
  | p :: ps =>
    if p = ".." then walk fs path (around here) ps
    else
      match fs.at? (here ++ [p]) with
      | some .directory => walk fs path (here ++ [p]) ps
      | some (.file _) => .error (.notDirectory path)
      | none => .error (.fileNotFound path)

/-- The place that a path leads to. -/
def locate (fs : Files) (path : String) : Except Failure Location :=
  fs.walk path (fs.start path) (Path.parts path)

/-- What a path leads to, if anything. -/
def entry? (fs : Files) (path : String) : Option Entry :=
  match fs.locate path with
  | .ok l => fs.at? l
  | .error _ => none

/-- The path leads to a directory. -/
def isDirectory (fs : Files) (path : String) : Bool :=
  fs.entry? path = some .directory

/-- The path leads to a file. -/
def isFile (fs : Files) (path : String) : Bool :=
  match fs.entry? path with
  | some (.file _) => true
  | _ => false

/-- The bytes of a file. -/
def read (fs : Files) (path : String) : Except Failure (List UInt8) := do
  match fs.at? (← fs.locate path) with
  | some (.file bytes) => return bytes
  | some .directory => .error (.isDirectory path)
  | none => .error (.fileNotFound path)

/-- A name is too long for a file or a directory. -/
def nameTooLong : Failure := .foreign "OSError"

/-- The name of a place has the length that names may have. -/
def allowsName (fs : Files) (l : Location) : Bool :=
  (l.getLast?.getD "").utf8ByteSize ≤ fs.longestName

/-- The files with new bytes in one of them. The directory around it must be there. -/
def write (fs : Files) (path : String) (bytes : List UInt8) : Except Failure Files := do
  let l ← fs.locate path
  if !fs.allowsName l then .error nameTooLong else
  match fs.at? l with
  | some .directory => .error (.isDirectory path)
  | _ => return { fs with entries := fs.entries.set l (.file bytes) }

/-- Makes a directory where nothing stands. A file in its way is this failure. -/
def makeUnless (inTheWay : Failure) (fs : Files) (path : String) : Except Failure Files := do
  let l ← fs.locate path
  if !fs.allowsName l then .error nameTooLong else
  match fs.at? l with
  | some .directory => return fs
  | some (.file _) => .error inTheWay
  | none => return { fs with entries := fs.entries.set l .directory }

/-- The paths from the first component to the one around the last. -/
def pathsAround (path : String) : List String :=
  let parts := Path.parts path
  (List.range (parts.length - 1)).map fun i => Path.ofParts (Path.root path) (parts.take (i + 1))

/-- Makes a directory and those around it. -/
def makeDirectories (fs : Files) (path : String) : Except Failure Files := do
  let fs ← (pathsAround path).foldlM (makeUnless (.notDirectory path)) fs
  fs.makeUnless (.fileExists path) path

/-- Lines end with a line feed alone. -/
def plainLineEnds : List Char → List Char
  | [] => []
  | '\r' :: '\n' :: r => '\n' :: plainLineEnds r
  | '\r' :: r => '\n' :: plainLineEnds r
  | c :: r => c :: plainLineEnds r

/-- The text of bytes. -/
def textOf (bytes : List UInt8) : Except Failure String :=
  match Utf8.decode? bytes with
  | .ok cs => .ok (String.ofList (plainLineEnds cs))
  | .error m => .error (.notUtf8 m)

/-- The text of a file. -/
def readText (fs : Files) (path : String) : Except Failure String := do
  textOf (← fs.read path)

/-- Writes a text. -/
def writeText (fs : Files) (path text : String) : Except Failure Files :=
  fs.write path (Utf8.encode text.toList)

/-- Files with these contents, and the directories around them. -/
def ofList (contents : List (String × List UInt8)) : Files :=
  contents.foldl (fun fs (path, bytes) =>
    let fs := match fs.makeDirectories (Path.parent path) with
      | .ok fs => fs
      | .error _ => fs
    match fs.write path bytes with
    | .ok fs => fs
    | .error _ => fs) {}

end Files

end SourceOutline
