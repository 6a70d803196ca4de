import SourceOutline.Proofs.Command.Outcome
import SourceOutline.Proofs.Files.Path
import SourceOutline.Proofs.Handler.Registry
import SourceOutline.Proofs.Validation.Fields

/-!
# How a handler is selected

A handler is selected in two places: by the command line, which finds a language first and then the handler
for it, and by the registry for those who call it with a language or a path. Both let a language go before
the extension of the path; only the command line knows of a default language, and puts it last.

* `commandHandler`: what the command line selects; an outline is made by it, `Finds.commandHandler_eq`, or
  fails as it does, `outline_eq_error_of_commandHandler`.
* `SameChoice`: two selections call the same maker with the same options, or both report a language that is not
  supported.
* `defaultLanguage_ne_empty`: no settings that can be loaded have an empty default language.

Main statement: `command_selects_alike`.
-/

namespace SourceOutline

/-! ## The default language -/

section DefaultLanguage

variable {around : Surroundings} {settings : Settings} {d : String}

theorem ne_empty_of_readLanguage {v : Json} (h : readLanguage v = .ok (some d)) : d ≠ "" := by
  cases v with
  | str s =>
    have hname := Except.ok.inj h
    split at hname
    · cases hname
    · rename_i hne
      exact Option.some.inj hname ▸ hne
  | null => cases Except.ok.inj h
  | _ => cases h

theorem ParserSettings.ne_empty_of_make {arguments : Table String Json} {p : ParserSettings}
    (h : make around arguments = .ok p) (hd : p.defaultLanguage = some d) : d ≠ "" := by
  obtain ⟨s, -, h⟩ := bind_eq_ok_iff.mp h
  obtain ⟨⟨language, bytes⟩, hboth, rfl⟩ := map_eq_ok_iff.mp (mapError_eq_ok_iff.mp h)
  obtain ⟨hlanguage, -⟩ := Checked.both_eq_ok_iff.mp hboth
  obtain rfl : language = some d := hd
  unfold Sources.read at hlanguage
  split at hlanguage
  · cases hlanguage
  · exact ne_empty_of_readLanguage (Checked.under_eq_ok_iff.mp hlanguage)

/-- A record of settings is made from some arguments. -/
theorem Settings.exists_make_of_recordOf {field : String} {make : Table String Json → Except Failure α}
    {v : Option Json} {a : α} (h : recordOf field make v = .ok (.ok a)) : ∃ arguments, make arguments = .ok a := by
  unfold recordOf at h
  split at h
  · obtain ⟨b, hb, heq⟩ := map_eq_ok_iff.mp h
    exact ⟨[], Except.ok.inj heq ▸ hb⟩
  · rename_i fields
    split at h
    · rename_i hmake
      exact ⟨fields, Except.ok.inj (Except.ok.inj h) ▸ hmake⟩
    · cases h
    · cases h
  · cases h

/-- The parser settings of settings that are loaded are made from some arguments. -/
theorem Settings.exists_make_of_load (h : load around = .ok settings) :
    ∃ arguments, ParserSettings.make around arguments = .ok settings.parser := by
  unfold load at h
  split at h
  · obtain ⟨s, -, h⟩ := bind_eq_ok_iff.mp h
    obtain ⟨parserValue, -, h⟩ := bind_eq_ok_iff.mp h
    obtain ⟨loggingValue, -, h⟩ := bind_eq_ok_iff.mp h
    obtain ⟨parser, hparser, h⟩ := bind_eq_ok_iff.mp h
    obtain ⟨logging, -, h⟩ := bind_eq_ok_iff.mp h
    obtain ⟨⟨p, l⟩, hboth, rfl⟩ := map_eq_ok_iff.mp (mapError_eq_ok_iff.mp h)
    obtain ⟨rfl, -⟩ := Checked.both_eq_ok_iff.mp hboth
    exact exists_make_of_recordOf hparser
  · obtain ⟨layers, -, h⟩ := bind_eq_ok_iff.mp h
    obtain ⟨arguments, -, h⟩ := bind_eq_ok_iff.mp h
    obtain ⟨parser, hparser, h⟩ := bind_eq_ok_iff.mp h
    obtain ⟨_, -, h⟩ := bind_eq_ok_iff.mp h
    obtain ⟨_, -, h⟩ := bind_eq_ok_iff.mp h
    obtain ⟨_, -, h⟩ := bind_eq_ok_iff.mp h
    obtain ⟨_, -, h⟩ := bind_eq_ok_iff.mp h
    obtain ⟨_, -, h⟩ := bind_eq_ok_iff.mp h
    exact ⟨arguments, Except.ok.inj h ▸ hparser⟩

/-- No settings that can be loaded have an empty default language. -/
theorem defaultLanguage_ne_empty (h : Settings.load around = .ok settings)
    (hd : settings.parser.defaultLanguage = some d) : d ≠ "" := by
  obtain ⟨arguments, hparser⟩ := Settings.exists_make_of_load h
  exact ParserSettings.ne_empty_of_make hparser hd

end DefaultLanguage

/-! ## The language that the command line finds -/

section Language

variable {around : Surroundings} {r : HandlerRegistry} {path : String} {language : Option String}

theorem extensionOf_normal (path : String) :
    HandlerRegistry.extensionOf (Path.normal path) = HandlerRegistry.extensionOf path := by
  rw [HandlerRegistry.extensionOf, Path.suffix_normal, HandlerRegistry.extensionOf]

theorem canHandle_normal (r : HandlerRegistry) (path : String) :
    r.canHandle (Path.normal path) = r.canHandle path := by
  rw [HandlerRegistry.canHandle, extensionOf_normal, HandlerRegistry.canHandle]

theorem languageForPath_normal (r : HandlerRegistry) (path : String) :
    r.languageForPath (Path.normal path) = r.languageForPath path := by
  rw [HandlerRegistry.languageForPath, extensionOf_normal, HandlerRegistry.languageForPath]

theorem selectLanguage_of_given {l : String} (h : language.filter (· ≠ "") = some l) :
    (selectLanguage around r path language).result = .ok (Text.lower l) := by
  rw [selectLanguage, h]
  rfl

theorem selectLanguage_of_canHandle (h : language.filter (· ≠ "") = none) (hpath : r.canHandle path = true) :
    (selectLanguage around r path language).result = r.languageForPath path := by
  rw [selectLanguage, h]
  dsimp only
  rw [if_pos hpath]
  rfl

theorem selectLanguage_of_default {settings : Settings} (h : language.filter (· ≠ "") = none)
    (hpath : r.canHandle path = false) (hload : Settings.load around = .ok settings) :
    (selectLanguage around r path language).result =
      match settings.parser.defaultLanguage with
      | some d => .ok d
      | none => r.languageForPath path := by
  rw [selectLanguage, h]
  dsimp only
  rw [if_neg (by simp [hpath]), Run.result_bind_of_ok hload]
  cases settings.parser.defaultLanguage <;> rfl

end Language

/-! ## The handler that the command line selects -/

/-- The handler that the command line asks for: a language first, then the handler for it. -/
def commandHandler (around : Surroundings) (r : HandlerRegistry) (path : String) (language : Option String)
    (options : Options) : Except Failure ReadyHandler :=
  (selectLanguage around r (Path.normal path) language).result >>= fun l => r.handlerFor l options

namespace ParseRequest

variable {request : ParseRequest} {around : Surroundings} {files : Files} {r : HandlerRegistry}

/-- A request whose handler cannot be selected has no outline, and fails in the same way. -/
theorem outline_eq_error_of_commandHandler {f : Failure}
    (h : commandHandler around r request.path request.language request.options = .error f) :
    (request.outline around files r).result = .error f := by
  unfold outline
  rcases bind_eq_error_iff.mp h with hlanguage | ⟨l, hlanguage, hhandler⟩
  · exact Run.result_bind_of_error hlanguage
  · rw [Run.result_bind_of_ok hlanguage]
    exact Run.result_bind_of_error hhandler

/-- An outline is made by the handler that is selected. -/
theorem Finds.commandHandler_eq {l code : String} {ready : ReadyHandler}
    (h : request.Finds around files r l ready code) :
    commandHandler around r request.path request.language request.options = .ok ready :=
  bind_eq_ok_iff.mpr ⟨l, h.selected, h.made⟩

end ParseRequest

/-! ## Two ways to select -/

/-- Whatever the options: two selections make the handler with the same maker and these options, or both
report a language that is not supported. -/
inductive SameChoice (r : HandlerRegistry) (f g : Options → Except Failure ReadyHandler) : Prop
  | made {l : String} {m : Maker} : r.makers.get? l = some m → (∀ o, f o = m.make o) → (∀ o, g o = m.make o) →
    SameChoice r f g
  | refused {p q : Report} : p.subject = .unsupportedLanguage → q.subject = .unsupportedLanguage →
    (∀ o, f o = .error (.reported p)) → (∀ o, g o = .error (.reported q)) → SameChoice r f g

namespace SameChoice

variable {r : HandlerRegistry}

/-- Case does not matter to the choice, though a report shows the language as it was given. -/
theorem of_lower {l l' : String} (h : Text.lower l = Text.lower l') :
    SameChoice r (r.handlerFor l) (r.handlerFor l') := by
  cases hmaker : r.makers.get? (Text.lower l') with
  | none =>
    refine .refused (p := r.unknownLanguage l) (q := r.unknownLanguage l') rfl rfl (fun o => ?_) fun o => ?_
    · simp only [HandlerRegistry.handlerFor, h, hmaker]
    · simp only [HandlerRegistry.handlerFor, hmaker]
  | some m =>
    refine .made hmaker (fun o => ?_) fun o => ?_
    · simp only [HandlerRegistry.handlerFor, h, hmaker]
    · simp only [HandlerRegistry.handlerFor, hmaker]

/-- A path alone makes for one choice. -/
theorem handlerForPath (r : HandlerRegistry) (path : String) :
    SameChoice r (r.handlerForPath path) (r.handlerForPath path) := by
  cases hpath : r.languageForPath path with
  | error f =>
    obtain ⟨-, rfl⟩ := HandlerRegistry.languageForPath_eq_error_iff.mp hpath
    have hhandler : ∀ o, r.handlerForPath path o = .error (.reported _) := fun o =>
      HandlerRegistry.handlerForPath_of_error hpath
    exact .refused rfl rfl hhandler hhandler
  | ok l =>
    have hhandler : r.handlerForPath path = r.handlerFor l := by
      funext o
      rw [HandlerRegistry.handlerForPath, hpath]
      rfl
    rw [hhandler]
    exact of_lower rfl

end SameChoice

section Selection

theorem select_of_given {r : HandlerRegistry} {path language : Option String} {l : String}
    (h : language.filter (· ≠ "") = some l) : r.select language path = r.handlerFor l := by
  funext options
  simp only [HandlerRegistry.select, h]

theorem select_of_path {r : HandlerRegistry} {path : String} {language : Option String}
    (h : language.filter (· ≠ "") = none) : r.select language (some path) = r.handlerForPath path := by
  funext options
  simp only [HandlerRegistry.select, h]

variable {around : Surroundings} {r : HandlerRegistry} {path : String} {language : Option String}

theorem commandHandler_of_ok {l : String}
    (h : (selectLanguage around r (Path.normal path) language).result = .ok l) (options : Options) :
    commandHandler around r path language options = r.handlerFor l options := by
  rw [commandHandler, h]
  rfl

theorem commandHandler_of_languageForPath
    (h : (selectLanguage around r (Path.normal path) language).result = r.languageForPath (Path.normal path)) :
    commandHandler around r path language = r.handlerForPath path := by
  funext options
  rw [commandHandler, h, languageForPath_normal, HandlerRegistry.handlerForPath]

theorem sameChoice_of_given {l : String} (hgiven : language.filter (· ≠ "") = some l) :
    SameChoice r (commandHandler around r path language) (r.select language (some path)) := by
  have hcommand : commandHandler around r path language = r.handlerFor (Text.lower l) :=
    funext (commandHandler_of_ok (selectLanguage_of_given hgiven))
  rw [hcommand, select_of_given hgiven]
  exact .of_lower (Text.lower_lower l)

theorem sameChoice_of_path (hgiven : language.filter (· ≠ "") = none)
    (h : (selectLanguage around r (Path.normal path) language).result = r.languageForPath (Path.normal path)) :
    SameChoice r (commandHandler around r path language) (r.select language (some path)) := by
  rw [commandHandler_of_languageForPath h, select_of_path hgiven]
  exact .handlerForPath r path

theorem commandHandler_of_default {s : Settings} {d : String} (hgiven : language.filter (· ≠ "") = none)
    (hpath : r.canHandle path = false) (hload : Settings.load around = .ok s)
    (hdefault : s.parser.defaultLanguage = some d) (options : Options) :
    commandHandler around r path language options = r.select (some d) none options := by
  have hlanguage : (selectLanguage around r (Path.normal path) language).result = .ok d := by
    rw [selectLanguage_of_default hgiven (by rwa [canHandle_normal]) hload, hdefault]
  have hd : (some d).filter (· ≠ "") = some d := by
    simpa using defaultLanguage_ne_empty hload hdefault
  rw [commandHandler_of_ok hlanguage, select_of_given hd]

/-- **The command line and the registry select alike.** If a language is given, or the extension of the path
is registered, or no default language is set, both make the same handler, or both report a language that is
not supported. If it comes to the default language, the command line selects as if this had been given. -/
theorem command_selects_alike (around : Surroundings) (r : HandlerRegistry) (path : String)
    (language : Option String) :
    ((language.filter (· ≠ "") ≠ none ∨ r.canHandle path = true ∨
        ∃ s, Settings.load around = .ok s ∧ s.parser.defaultLanguage = none) →
      SameChoice r (commandHandler around r path language) (r.select language (some path))) ∧
    ∀ s d, language.filter (· ≠ "") = none → r.canHandle path = false → Settings.load around = .ok s →
      s.parser.defaultLanguage = some d →
      ∀ options, commandHandler around r path language options = r.select (some d) none options := by
  refine ⟨fun hcase => ?_, fun s d hgiven hpath hload hdefault =>
    commandHandler_of_default hgiven hpath hload hdefault⟩
  cases hgiven : language.filter (· ≠ "") with
  | some l => exact sameChoice_of_given hgiven
  | none =>
    refine sameChoice_of_path hgiven ?_
    by_cases hpath : r.canHandle path = true
    · exact selectLanguage_of_canHandle hgiven (by rwa [canHandle_normal])
    · -- only the default language is left, and there is none
      obtain ⟨s, hload, hdefault⟩ := (hcase.resolve_left (· hgiven)).resolve_left hpath
      rw [selectLanguage_of_default hgiven (by rwa [canHandle_normal, ← Bool.not_eq_true]) hload, hdefault]

/-- Java is the default language. -/
def javaByDefault : Surroundings where
  env := [("CODEPARSE_PARSER_DEFAULT_LANGUAGE", "Java")]

/-- The default language for notes; the extension, which goes before it, for Python. -/
theorem command_selects_alike_javaByDefault :
    let r := HandlerRegistry.bundled
    (r.canHandle "docs//a.py" = true ∧
      SameChoice r (commandHandler javaByDefault r "docs//a.py" none) (r.select none (some "docs//a.py"))) ∧
    r.canHandle "notes.txt" = false ∧ ∃ s, Settings.load javaByDefault = .ok s ∧
      s.parser.defaultLanguage = some "java" ∧
      ∀ options, commandHandler javaByDefault r "notes.txt" none options =
        r.select (some "java") none options := by
  intro r
  have hpython : r.canHandle "docs//a.py" = true := by decide +kernel
  have hnotes : r.canHandle "notes.txt" = false := by decide +kernel
  obtain ⟨s, hload, hdefault⟩ := exists_eq_ok_of_any (x := Settings.load javaByDefault)
    (p := fun s => s.parser.defaultLanguage = some "java") (by decide +kernel)
  have hdefault : s.parser.defaultLanguage = some "java" := by simpa using hdefault
  refine ⟨⟨hpython, (command_selects_alike javaByDefault r "docs//a.py" none).1 (.inr (.inl hpython))⟩, hnotes,
    s, hload, hdefault, ?_⟩
  exact (command_selects_alike javaByDefault r "notes.txt" none).2 s "java" rfl hnotes hload hdefault

end Selection

end SourceOutline
