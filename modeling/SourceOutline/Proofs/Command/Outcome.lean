import SourceOutline.Command.Run
import SourceOutline.Proofs.Outcome

/-!
# What `parse` comes to

The command sets the log up, finds the outline that is asked for, and gives it out; each of the three
may fail.

* `result_outline_eq_ok_iff`: the parts of an outline.
* `outcome_cases`: the command ends at the log, at the outline, or with an outline to give out.
* `exit_eq_zero_iff`: the command succeeds exactly if the log can be set up, there is an outline, and the
  file that is asked for can be written.
-/

namespace SourceOutline

/-- What a request stands for: a language, the handler for it, and a source. -/
structure ParseRequest.Finds (r : ParseRequest) (around : Surroundings) (files : Files)
    (registry : HandlerRegistry) (language : String) (h : ReadyHandler) (code : String) : Prop where
  selected : (selectLanguage around registry (Path.normal r.path) r.language).result = .ok language
  made : registry.handlerFor language r.options = .ok h
  read : readSource around files (Path.normal r.path) = .ok code

namespace ParseRequest

variable {r : ParseRequest} {around : Surroundings} {registry : HandlerRegistry} {setup : LogSetup}
  {files : Files} {p : Parsing} {trees : SyntaxTrees}

/-- The path of the file that the outline is to be written to. -/
def outputPath? (r : ParseRequest) : Option String :=
  r.output.filter (· ≠ "")

/-- An outline is that of the source, with the types and their members if they are asked for. -/
theorem result_outline_eq_ok_iff :
    (r.outline around files registry trees).result = .ok p ↔
      ∃ h code, r.Finds around files registry p.language h code ∧
        ((h.answers trees).parseFile code).result = .ok p.file ∧
        (r.detailsBy h code trees).result = .ok p.details := by
  unfold outline
  simp only [Run.result_bind, bind_eq_ok_iff]
  constructor
  · rintro ⟨language, hlanguage, h, hh, code, hcode, file, hfile, details, hdetails, hp⟩
    obtain rfl := Except.ok.inj hp
    exact ⟨h, code, ⟨hlanguage, hh, hcode⟩, hfile, hdetails⟩
  · rintro ⟨h, code, ⟨hlanguage, hh, hcode⟩, hfile, hdetails⟩
    exact ⟨_, hlanguage, h, hh, code, hcode, _, hfile, _, hdetails, rfl⟩

/-- What the command comes to, told from how far it gets. -/
inductive Ends (r : ParseRequest) (around : Surroundings) (registry : HandlerRegistry) (setup : LogSetup)
    (trees : SyntaxTrees) : Outcome → Prop
  /-- The log cannot be set up. -/
  | log {setup' : LogSetup} {f : Failure} :
    r.logFor around setup = (setup', .error f) →
      Ends r around registry setup trees { exit := 1, failure := some f, setup := setup', files := around.files }
  /-- There is no outline. -/
  | outline {setup' : LogSetup} {files : Files} {f : Failure} {log : List Log.Record} :
    r.logFor around setup = (setup', .ok files) → (r.outline around files registry trees).result = .error f →
      Ends r around registry setup trees (r.giveUp f { log, setup := setup', files })
  /-- There is an outline to give out. -/
  | emit {setup' : LogSetup} {files : Files} {p : Parsing} {log : List Log.Record} :
    r.logFor around setup = (setup', .ok files) → (r.outline around files registry trees).result = .ok p →
      Ends r around registry setup trees (r.emit p { log, setup := setup', files })

theorem outcome_cases (r : ParseRequest) (around : Surroundings) (registry : HandlerRegistry)
    (setup : LogSetup) (trees : SyntaxTrees) :
    r.Ends around registry setup trees (r.outcome around registry setup trees) := by
  unfold outcome
  split
  · rename_i hlog
    exact .log hlog
  · rename_i hlog
    dsimp only
    split
    · rename_i hp
      exact .emit hlog hp
    · rename_i hf
      exact .outline hlog hf

/-! ## Giving out and giving up -/

theorem emit_of_no_path {o : Outcome} (h : r.outputPath? = none) :
    r.emit p o = if r.json then { o with output := text p ++ "\n" } else { o with shown := r.screens p } := by
  rw [emit, ← outputPath?, h]

theorem emit_of_written {o : Outcome} {path : String} (h : r.outputPath? = some path)
    (hwrite : o.files.writeText (Path.normal path) (text p) = .ok files) :
    r.emit p o =
      { o with files, shown := Display.success "Parse Complete" s!"Output written to: {path}" } := by
  rw [emit, ← outputPath?, h]
  dsimp only
  rw [hwrite]

theorem emit_of_not_written {o : Outcome} {path : String} {f : Failure} (h : r.outputPath? = some path)
    (hwrite : o.files.writeText (Path.normal path) (text p) = .error f) :
    r.emit p o = { o with exit := 1, failure := some f } := by
  rw [emit, ← outputPath?, h]
  dsimp only
  rw [hwrite]

theorem exit_giveUp (f : Failure) (o : Outcome) : (r.giveUp f o).exit = 1 := by
  unfold giveUp
  split <;> rfl

/-- An outline is given out unless a file for it is asked for and cannot be written. -/
theorem exit_emit_eq_zero_iff {o : Outcome} (ho : o.exit = 0) :
    (r.emit p o).exit = 0 ↔
      ∀ path, r.outputPath? = some path → ∃ files, o.files.writeText (Path.normal path) (text p) = .ok files := by
  cases hpath : r.outputPath? with
  | none =>
    rw [emit_of_no_path hpath]
    split <;> simp [ho]
  | some path =>
    cases hwrite : o.files.writeText (Path.normal path) (text p) with
    | ok files =>
      rw [emit_of_written hpath hwrite]
      simp [ho, hwrite]
    | error f =>
      rw [emit_of_not_written hpath hwrite]
      simp [hwrite]

/-- The command succeeds exactly if it gets through its three steps. -/
theorem exit_eq_zero_iff :
    (r.outcome around registry setup).exit = 0 ↔
      ∃ setup' files p, r.logFor around setup = (setup', .ok files) ∧
        (r.outline around files registry).result = .ok p ∧
        ∀ path, r.outputPath? = some path →
          ∃ files', files.writeText (Path.normal path) (text p) = .ok files' := by
  unfold outcome
  split
  · rename_i setup' f hlog
    simp [hlog]
  · rename_i setup' files hlog
    dsimp only
    split
    · rename_i p hp
      rw [exit_emit_eq_zero_iff rfl]
      constructor
      · intro h
        exact ⟨setup', files, p, hlog, hp, h⟩
      · rintro ⟨setup'', files', p', hlog', hp', h⟩
        obtain ⟨-, hfiles⟩ := Prod.mk.inj (hlog.symm.trans hlog')
        obtain rfl := Except.ok.inj hfiles
        obtain rfl := Except.ok.inj (hp.symm.trans hp')
        exact h
    · rename_i f hf
      rw [exit_giveUp]
      simp [hlog, hf]

end ParseRequest

end SourceOutline
