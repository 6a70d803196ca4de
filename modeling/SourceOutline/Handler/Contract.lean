import SourceOutline.Error.Run
import SourceOutline.Model.Reading

/-!
# The contract of a handler, and whole files

A handler answers with imports and with types. `LanguageHandler.parseFile` asks for both, imports
first, and puts the answers into one outline. What is offered as an import or a type may be a raw
value; it is then read as a record.
-/

namespace SourceOutline

/-- A record, or a value that is to be read as one. -/
inductive Offer (α : Type) where
  | made (a : α)
  | raw (v : Json)

/-- The record that is offered. -/
def Offer.accept (read : Json → Checked α) : Offer α → Checked α
  | made a => .ok a
  | raw v => read v

/-- The records that are offered, from position `n` on. -/
def Offer.acceptFrom (read : Json → Checked α) : Nat → List (Offer α) → Checked (List α)
  | _, [] => .ok []
  | n, o :: os =>
    (Checked.both ((o.accept read).under (.index n)) (acceptFrom read (n + 1) os)).map
      fun p => p.1 :: p.2

/-- What answers for a language. A handler may lack one of the two questions. -/
structure LanguageHandler where
  /-- The name under which it is reported. -/
  name : String
  imports? : Option (String → Run (List (Offer Import)))
  types? : Option (String → Run (List (Offer TypeDecl)))

namespace LanguageHandler

/-- Both questions can be asked. -/
def conforms (h : LanguageHandler) : Bool :=
  h.imports?.isSome && h.types?.isSome

/-- Asks a question, which fails if the handler lacks it. -/
def ask (question : Option (String → Run α)) (code : String) : Run α :=
  match question with
  | none => .fail .unknownName
  | some f => f code

/-- The outline made of offered imports and types, with the issues of both. -/
def assemble (is : List (Offer Import)) (ts : List (Offer TypeDecl)) : Checked ParsedFile :=
  (Checked.both ((Offer.acceptFrom Import.ofJson 0 is).under (.key "imports"))
    ((Offer.acceptFrom TypeDecl.ofJson 0 ts).under (.key "types"))).map fun (imports, types) =>
    { imports, types }

/-- The outline of a source. -/
def parseFile (h : LanguageHandler) (code : String) : Run ParsedFile := do
  let is ← ask h.imports? code
  let ts ← ask h.types? code
  Run.report Log.fileChannel .debug s!"{h.name}: {is.length} imports, {ts.length} types"
  match assemble is ts with
  | .ok f => return f
  | .error issues => .fail (.invalid issues)

end LanguageHandler

/-- The handler that gives back the whole code as its one import; it is a stand-in for any
language, and keeps the options that it was made with. -/
def LanguageHandler.stub : LanguageHandler where
  name := "StubHandler"
  imports? := some fun code => pure [.made ⟨code⟩]
  types? := some fun _ => pure []

end SourceOutline
