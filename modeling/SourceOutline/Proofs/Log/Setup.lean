import Mathlib.Data.List.Induction
import SourceOutline.Log.Setup
import SourceOutline.Proofs.Outcome

/-!
# Setting the log up time and again

A call puts handlers of its own in the place of those before, so they never pile up. It first finds out what
is asked for, and a failure up to there changes nothing. From then on it sets the level and makes one
handler after the other, and a failure leaves what has been done before it.

* `SetupCall.Refused`, `SetupCall.LacksConsole`, `SetupCall.LacksFile`: the three places to fail at.
* `Called`: what a call comes to, told from how far it gets; `call_cases`.
* `Tidy`: the handlers are the first ones, or those of one call; `Tidy.call` is its step lemma, and
  `tidy_after` says so of any number of calls.

Main statement: `after_calls_handlers`.
-/

namespace SourceOutline

/-- A call that sets the log up. -/
structure SetupCall where
  /-- The settings, or what keeps them from being loaded. -/
  settings : Except Failure LoggingSettings
  /-- The name of a level that goes before the one in the settings. -/
  level : Option String := none
  /-- The files that the call finds. -/
  files : Files := {}

namespace SetupCall

open LogSetup (levelFor consoleHandler openFile)

/-- The settings of the call, and the level that it asks for. -/
structure Asks (c : SetupCall) (s : LoggingSettings) (n : Nat) : Prop where
  settings : c.settings = .ok s
  level : levelFor s c.level = .ok n

/-- It does not come out what the call asks for. -/
inductive Refused (c : SetupCall) : Failure → Prop
  | settings {f : Failure} : c.settings = .error f → Refused c f
  | level {s : LoggingSettings} {f : Failure} : c.settings = .ok s → levelFor s c.level = .error f → Refused c f

/-- The handler for the console cannot be made. -/
def LacksConsole (c : SetupCall) (n : Nat) (f : Failure) : Prop :=
  ∃ s, c.Asks s n ∧ consoleHandler s = .error f

/-- The handler for the console can be made, and the one for a file cannot. -/
def LacksFile (c : SetupCall) (n : Nat) (h : LogHandler) (f : Failure) : Prop :=
  ∃ s path, c.Asks s n ∧ consoleHandler s = .ok h ∧ s.file = some path ∧ openFile c.files path = .error f

end SetupCall

/-- The handler writes to the console. -/
def LogHandler.isConsole : LogHandler → Bool
  | .rich => true
  | .plain _ => true
  | .file _ _ => false

namespace LogSetup

/-- Makes a call. Gives the files after it, or why it fails. -/
def call (l : LogSetup) (c : SetupCall) : LogSetup × Except Failure Files :=
  match c.settings with
  | .error f => (l, .error f)
  | .ok s => l.replace c.files s c.level

/-- Makes calls one after another, whether they fail or not. -/
def after (l : LogSetup) (calls : List SetupCall) : LogSetup :=
  calls.foldl (fun l c => (l.call c).1) l

variable {l l' before : LogSetup} {c : SetupCall} {calls : List SetupCall}

/-! ## One call -/

section Call

theorem isConsole_of_consoleHandler {s : LoggingSettings} {h : LogHandler} (hc : consoleHandler s = .ok h) :
    h.isConsole = true := by
  unfold consoleHandler at hc
  split at hc
  · exact Except.ok.inj hc ▸ rfl
  · split at hc
    · exact Except.ok.inj hc ▸ rfl
    · cases hc

/-- What a call comes to, told from how far it gets. -/
inductive Called (l : LogSetup) (c : SetupCall) : LogSetup × Except Failure Files → Prop
  | refused {f : Failure} : c.Refused f → Called l c (l, .error f)
  | lacksConsole {n : Nat} {f : Failure} : c.LacksConsole n f → Called l c (⟨n, []⟩, .error f)
  | lacksFile {n : Nat} {h : LogHandler} {f : Failure} : c.LacksFile n h f → Called l c (⟨n, [h]⟩, .error f)
  | console {s : LoggingSettings} {n : Nat} {h : LogHandler} :
    c.Asks s n → consoleHandler s = .ok h → s.file = none → Called l c (⟨n, [h]⟩, .ok c.files)
  | both {s : LoggingSettings} {n : Nat} {h : LogHandler} {path : String} {fs : Files} :
    c.Asks s n → consoleHandler s = .ok h → s.file = some path → openFile c.files path = .ok fs →
      Called l c (⟨n, [h, .file path n]⟩, .ok fs)

theorem call_cases (l : LogSetup) (c : SetupCall) : Called l c (l.call c) := by
  unfold call
  cases hsettings : c.settings with
  | error f => exact .refused (.settings hsettings)
  | ok s =>
    dsimp only
    unfold replace
    cases hlevel : levelFor s c.level with
    | error f => exact .refused (.level hsettings hlevel)
    | ok n =>
      have hasks : c.Asks s n := ⟨hsettings, hlevel⟩
      cases hconsole : consoleHandler s with
      | error f => exact .lacksConsole ⟨s, hasks, hconsole⟩
      | ok h =>
        cases hfile : s.file with
        | none => exact .console hasks hconsole hfile
        | some path =>
          dsimp only
          cases hopen : openFile c.files path with
          | error f => exact .lacksFile ⟨s, path, hasks, hconsole, hfile, hopen⟩
          | ok fs => exact .both hasks hconsole hfile hopen

/-- A level that is given goes before the one in the settings; an empty name is none. -/
theorem levelFor_eq_ok_iff {s : LoggingSettings} {name : Option String} {n : Nat} :
    levelFor s name = .ok n ↔
      (∀ w, name.filter (· ≠ "") = some w → levelOf? w = some n) ∧
        (name.filter (· ≠ "") = none → n = s.level.rank) := by
  unfold levelFor
  cases name.filter (· ≠ "") with
  | none => simp [eq_comm]
  | some w => cases hw : levelOf? w <;> simp [hw]

end Call

/-! ## Any number of calls -/

section Calls

/-- One handler for the console, and perhaps one for a file. -/
inductive Settled : List LogHandler → Prop
  | console {h : LogHandler} : h.isConsole = true → Settled [h]
  | both {h : LogHandler} {path : String} {n : Nat} : h.isConsole = true → Settled [h, .file path n]

/-- The handlers are those before any call, or those of one call; there are none only after a call whose
handler for the console could not be made. -/
def Tidy (before : LogSetup) (calls : List SetupCall) (l : LogSetup) : Prop :=
  l.handlers = before.handlers ∨ Settled l.handlers ∨
    (l.handlers = [] ∧ ∃ c ∈ calls, ∃ n f, c.LacksConsole n f)

theorem after_concat (l : LogSetup) (calls : List SetupCall) (c : SetupCall) :
    l.after (calls ++ [c]) = ((l.after calls).call c).1 := by
  simp [after, List.foldl_append]

/-- A call keeps the handlers tidy, also if it fails. -/
theorem Tidy.call (hl : Tidy before calls l) (c : SetupCall) : Tidy before (calls ++ [c]) (l.call c).1 := by
  have hcalled := call_cases l c
  generalize l.call c = outcome at hcalled
  cases hcalled with
  | refused _ =>
    refine hl.imp_right fun h => h.imp_right ?_
    rintro ⟨hnone, d, hd, hlacks⟩
    exact ⟨hnone, d, List.mem_append_left _ hd, hlacks⟩
  | lacksConsole hlacks => exact .inr (.inr ⟨rfl, c, by simp, _, _, hlacks⟩)
  | lacksFile hlacks =>
    obtain ⟨s, path, -, hconsole, -, -⟩ := hlacks
    exact .inr (.inl (.console (isConsole_of_consoleHandler hconsole)))
  | console _ hconsole _ => exact .inr (.inl (.console (isConsole_of_consoleHandler hconsole)))
  | both _ hconsole _ _ => exact .inr (.inl (.both (isConsole_of_consoleHandler hconsole)))

theorem tidy_after (before : LogSetup) (calls : List SetupCall) : Tidy before calls (before.after calls) := by
  induction calls using List.reverseRecOn with
  | nil => exact .inl rfl
  | append_singleton calls c ih =>
    rw [after_concat]
    exact ih.call c

/-- The log is set up as a call with these settings asks for. -/
structure SetUpBy (l : LogSetup) (c : SetupCall) (s : LoggingSettings) : Prop where
  settings : c.settings = .ok s
  /-- The level is the one that is given. -/
  given : ∀ w, c.level.filter (· ≠ "") = some w → levelOf? w = some l.level
  /-- If none is given, it is that of the settings. -/
  usual : c.level.filter (· ≠ "") = none → l.level = s.level.rank
  /-- There is a handler for the console, and one for a file just if the settings name one. -/
  handlers : ∃ h, h.isConsole = true ∧
    l.handlers = h :: (s.file.map fun path => LogHandler.file path l.level).toList

theorem setUpBy_of_asks {s : LoggingSettings} {n : Nat} {h : LogHandler} (hasks : c.Asks s n)
    (hconsole : consoleHandler s = .ok h) :
    SetUpBy ⟨n, h :: (s.file.map fun path => LogHandler.file path n).toList⟩ c s := by
  obtain ⟨hgiven, husual⟩ := levelFor_eq_ok_iff.mp hasks.level
  exact ⟨hasks.settings, hgiven, husual, h, isConsole_of_consoleHandler hconsole, rfl⟩

/-- A call that succeeds leaves the log as it asks for. -/
theorem exists_setUpBy_of_call {fs : Files} (hok : (l.call c).2 = .ok fs) : ∃ s, SetUpBy (l.call c).1 c s := by
  have hcalled := call_cases l c
  generalize l.call c = outcome at hcalled hok
  cases hcalled with
  | refused _ => cases hok
  | lacksConsole _ => cases hok
  | lacksFile _ => cases hok
  | @console s n h hasks hconsole hfile =>
    have hsetUp := setUpBy_of_asks hasks hconsole
    rw [hfile] at hsetUp
    exact ⟨s, hsetUp⟩
  | @both s n h path fs hasks hconsole hfile hopen =>
    have hsetUp := setUpBy_of_asks hasks hconsole
    rw [hfile] at hsetUp
    exact ⟨s, hsetUp⟩

/-- A call that is refused changes nothing. -/
theorem call_of_refused {f : Failure} (h : c.Refused f) : l.call c = (l, .error f) := by
  cases h with
  | settings hsettings => simp only [call, hsettings]
  | level hsettings hlevel => simp only [call, hsettings, replace, hlevel]

/-- A call that fails otherwise leaves the new level, and the handlers that it has made. -/
theorem cases_of_call_eq_error {f : Failure} (herror : (l.call c).2 = .error f) :
    c.Refused f ∨ (∃ n, c.LacksConsole n f ∧ (l.call c).1 = ⟨n, []⟩) ∨
      ∃ n h, c.LacksFile n h f ∧ (l.call c).1 = ⟨n, [h]⟩ := by
  have hcalled := call_cases l c
  generalize l.call c = outcome at hcalled herror
  cases hcalled with
  | refused hrefused => exact .inl (Except.error.inj herror ▸ hrefused)
  | lacksConsole hlacks => exact .inr (.inl ⟨_, Except.error.inj herror ▸ hlacks, rfl⟩)
  | lacksFile hlacks => exact .inr (.inr ⟨_, _, Except.error.inj herror ▸ hlacks, rfl⟩)
  | console => cases herror
  | both => cases herror

/-- **Handlers never pile up.** After any calls, whether they failed or not, the handlers are those before
the first call, or one for the console with perhaps one for a file, or none, the last only if some call could
not make its handler for the console. A call that succeeds leaves the log as it asks for. A call that is
refused, over its settings or its level, changes nothing; one that fails over a handler has set the level
and removed the handlers before, and leaves those that it has made until then. -/
theorem after_calls_handlers (before : LogSetup) (calls : List SetupCall) (c : SetupCall) :
    let l := before.after calls
    Tidy before calls l ∧
    (∀ fs, (l.call c).2 = .ok fs → ∃ s, SetUpBy (l.call c).1 c s) ∧
    (∀ f, c.Refused f → l.call c = (l, .error f)) ∧
    ∀ f, (l.call c).2 = .error f → c.Refused f ∨
      (∃ n, c.LacksConsole n f ∧ (l.call c).1 = ⟨n, []⟩) ∨
      ∃ n h, c.LacksFile n h f ∧ (l.call c).1 = ⟨n, [h]⟩ := by
  intro l
  refine ⟨tidy_after before calls, fun fs hok => ?_, fun f hrefused => ?_, fun f herror => ?_⟩
  · exact exists_setUpBy_of_call hok
  · exact call_of_refused hrefused
  · exact cases_of_call_eq_error herror

/-- A file for the log below another file. -/
def strayLog : SetupCall where
  settings := .ok { level := .error, file := some "f/a.log", useRich := false }
  files := { entries := [(["f"], .file [])] }

/-- A format that shows nothing of a record. -/
def blankFormat : SetupCall where
  settings := .ok { format := "no fields", useRich := false }

/-- A file for the log that can be made. -/
def fileLog : SetupCall where
  settings := .ok { file := some "logs/a.log" }
  level := some "debug"

/-- After calls that failed, a call that succeeds leaves its own two handlers. -/
theorem setUpBy_after_failures :
    let l := after ⟨30, [.rich]⟩ [strayLog, blankFormat]
    (∃ fs, (l.call fileLog).2 = .ok fs) ∧ (∃ s, SetUpBy (l.call fileLog).1 fileLog s) ∧
      (l.call fileLog).1 = ⟨10, [.rich, .file "logs/a.log" 10]⟩ := by
  intro l
  obtain ⟨fs, hok, -⟩ : ∃ fs, (l.call fileLog).2 = .ok fs ∧ _ :=
    exists_eq_ok_of_any (p := fun _ => true) (by decide +kernel)
  have hsetUp := (after_calls_handlers ⟨30, [.rich]⟩ [strayLog, blankFormat] fileLog).2.1 fs hok
  exact ⟨⟨fs, hok⟩, hsetUp, by decide +kernel⟩

/-- **Calls that fail halfway**: over the file, with another level and other handlers than before, and over the
format, with no handler left. -/
theorem exists_call_left_halfway :
    let l : LogSetup := ⟨30, [.rich]⟩
    (∃ f, (l.call strayLog).2 = .error f) ∧ (l.call strayLog).1.level ≠ l.level ∧
      (l.call strayLog).1.handlers ≠ l.handlers ∧
      (∃ f, (l.call blankFormat).2 = .error f) ∧ (l.call blankFormat).1.handlers = [] := by
  intro l
  obtain ⟨f, hstray, -⟩ : ∃ f, (l.call strayLog).2 = .error f ∧ _ :=
    exists_eq_error_of_failsWith (p := fun _ => true) (by decide +kernel)
  obtain ⟨g, hblank, -⟩ : ∃ f, (l.call blankFormat).2 = .error f ∧ _ :=
    exists_eq_error_of_failsWith (p := fun _ => true) (by decide +kernel)
  have hlevel : (l.call strayLog).1.level ≠ l.level := by decide +kernel
  have hhandlers : (l.call strayLog).1.handlers ≠ l.handlers := by decide +kernel
  have hnone : (l.call blankFormat).1.handlers = [] := by decide +kernel
  exact ⟨⟨f, hstray⟩, hlevel, hhandlers, ⟨g, hblank⟩, hnone⟩

end Calls

end LogSetup

end SourceOutline
