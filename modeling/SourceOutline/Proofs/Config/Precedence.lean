import SourceOutline.Config.Settings
import SourceOutline.Proofs.Config.Merging
import SourceOutline.Proofs.Validation.Reports

/-!
# Which value a setting takes

Every field of the settings is read by itself: from the value that the configuration files give it, whatever
stands in the environment, or else, if there is none or it is null, from outside alone
(`Sources.settle`).

* `ConfigMap.configured?` is the value that merged files give a field, `FieldOutcomes` holds the outcomes of
  all fields.
* `Settings.sectionArguments_eq_ok`: the arguments that a section becomes.
* `ParserSettings.make_cases`, `LoggingSettings.make_cases`: a record of settings has the outcomes of its
  fields, or all of their issues.
* `Settings.ofLayers_congr`: nulls count as absent.

Main statement: `Settings.ofFiles_outcomes`.
-/

namespace SourceOutline

open Checked

/-! ## Values in merged files -/

namespace ConfigMap

/-- The section is there, and it is neither a mapping nor null. -/
def isBadSection (m : ConfigMap) (part : String) : Bool :=
  match m.get? (.text part) with
  | none => false
  | some v => !v.isNull && v.mapping?.isNone

/-- The value of a field in a section, unless it is null. -/
def configured? (m : ConfigMap) (part field : String) : Option ConfigValue :=
  ((m.entriesOf part).get? (.text field)).filter fun v => !v.isNull

/-- A section without its nulls. -/
def sectionWithoutNulls : ConfigValue → ConfigValue
  | .mapping entries => .mapping (presentEntries entries)
  | v => v

/-- The mapping without null sections, and its sections without nulls. -/
def withoutNulls (m : ConfigMap) : ConfigMap :=
  (presentEntries m).map fun e => (e.1, sectionWithoutNulls e.2)

end ConfigMap

/-! ## Outcomes of fields -/

/-- The outcome for a field: its configured value is read, and if there is none, what stands outside. -/
def Sources.settle (s : Sources) (field : String) (default : α) (reader : Json → Checked α)
    (configured : Option ConfigValue) : Checked α :=
  match configured with
  | some v => (reader (Settings.argumentOf v)).under (.key field)
  | none => s.read field default reader

/-- The outcomes for all fields of the settings. -/
structure FieldOutcomes where
  defaultLanguage : Checked (Option String)
  maxSourceBytes : Checked Int
  level : Checked Log.Level
  format : Checked String
  file : Checked (Option String)
  useRich : Checked Bool

namespace FieldOutcomes

/-- Each field settled by itself, over what stands outside. -/
def of (s : Sources) (m : ConfigMap) : FieldOutcomes :=
  let parser : Sources := { s with stem := "codeparse_parser_" }
  let logging : Sources := { s with stem := "codeparse_logging_" }
  { defaultLanguage :=
      parser.settle "default_language" none readLanguage (m.configured? "parser" "default_language")
    maxSourceBytes :=
      parser.settle "max_source_bytes" 1048576 (readAtLeast 1) (m.configured? "parser" "max_source_bytes")
    level := logging.settle "level" .warning readLevel (m.configured? "logging" "level")
    format := logging.settle "format" "[%(name)s] %(message)s" string (m.configured? "logging" "format")
    file := logging.settle "file" none readPath (m.configured? "logging" "file")
    useRich := logging.settle "use_rich" true bool (m.configured? "logging" "use_rich") }

/-- The fields of the parser all have values. -/
def parserOk (o : FieldOutcomes) : Bool :=
  o.defaultLanguage.isOk && o.maxSourceBytes.isOk

/-- The fields of the log all have values. -/
def loggingOk (o : FieldOutcomes) : Bool :=
  o.level.isOk && o.format.isOk && o.file.isOk && o.useRich.isOk

/-- The issues of the fields of the parser, field after field. -/
def parserIssues (o : FieldOutcomes) : List Issue :=
  o.defaultLanguage.issues ++ o.maxSourceBytes.issues

/-- The issues of the fields of the log, field after field. -/
def loggingIssues (o : FieldOutcomes) : List Issue :=
  o.level.issues ++ (o.format.issues ++ (o.file.issues ++ o.useRich.issues))

/-- The settings have the outcomes as their fields. -/
def Give (o : FieldOutcomes) (settings : Settings) : Prop :=
  o.defaultLanguage = .ok settings.parser.defaultLanguage ∧
  o.maxSourceBytes = .ok settings.parser.maxSourceBytes ∧
  o.level = .ok settings.logging.level ∧
  o.format = .ok settings.logging.format ∧
  o.file = .ok settings.logging.file ∧
  o.useRich = .ok settings.logging.useRich

end FieldOutcomes

/-! ## Sections as arguments -/

section Arguments

theorem presentEntries_get? {entries : ConfigMap} (h : entries.keys.Nodup) (key : Scalar) :
    (presentEntries entries).get? key = (entries.get? key).filter fun v => !v.isNull :=
  Table.get?_filter_values (fun v : ConfigValue => !v.isNull) h key

theorem Layers.sectionOf_of_bad {l : Layers} {part : String} (h : l.values.isBadSection part) :
    l.sectionOf part = .error (sectionComplaint l.sources part) := by
  unfold ConfigMap.isBadSection at h
  unfold Layers.sectionOf
  cases hpart : l.values.get? (.text part) with
  | none => simp [hpart] at h
  | some v =>
    cases v with
    | scalar s => cases s <;> simp_all [ConfigValue.isNull]
    | list items => rfl
    | mapping entries => simp [hpart, ConfigValue.mapping?] at h

theorem Layers.sectionOf_of_not_bad {l : Layers} {part : String} (h : l.values.isBadSection part = false) :
    l.sectionOf part = .ok (l.values.entriesOf part) := by
  unfold ConfigMap.isBadSection at h
  unfold Layers.sectionOf ConfigMap.entriesOf
  cases hpart : l.values.get? (.text part) with
  | none => rfl
  | some v =>
    cases v with
    | scalar s => cases s <;> simp_all [ConfigValue.isNull, ConfigValue.mapping?]
    | list items => simp [hpart, ConfigValue.isNull, ConfigValue.mapping?] at h
    | mapping entries => rfl

/-- **The arguments that a section becomes.**  Every field of the section that is not null has an argument,
and nothing else has. -/
theorem Settings.sectionArguments_eq_ok {entries : ConfigMap} (hkeys : entries.keys.Nodup)
    (hnames : ∀ key ∈ entries.keys, ConfigMap.isSettingName key) :
    ∃ arguments, sectionArguments entries = .ok arguments ∧
      ∀ field, arguments.get? field =
        ((entries.get? (.text field)).filter fun v => !v.isNull).map argumentOf := by
  simp only [← presentEntries_get? hkeys]
  have hpresent : ∀ key ∈ (presentEntries entries).keys, ConfigMap.isSettingName key := fun key hkey =>
    hnames key ((List.filter_sublist.map Prod.fst).subset hkey)
  unfold sectionArguments
  generalize presentEntries entries = es at hpresent
  induction es with
  | nil => exact ⟨[], rfl, fun field => rfl⟩
  | cons e es ih =>
    obtain ⟨key, v⟩ := e
    obtain ⟨hkey, hes⟩ := List.forall_mem_cons.mp hpresent
    obtain ⟨arguments, hok, hget⟩ := ih hes
    cases key with
    | text name =>
      refine ⟨(name, argumentOf v) :: arguments, ?_, fun field => ?_⟩
      · rw [List.mapM_cons, hok]
        rfl
      · rw [Table.get?, Table.get?, hget]
        by_cases hname : name = field
        · simp [hname]
        · simp [hname]
    | null => cases hkey
    | bool b => cases hkey
    | int n => cases hkey
    | float x => cases hkey
    | time t => cases hkey

/-- No argument says how settings are read. -/
theorem ConfigMap.Orderly.configured?_stemArgument {m : ConfigMap} (h : m.Orderly) {part : String}
    (hpart : part ∈ ["parser", "logging"]) : m.configured? part Sources.stemArgument = none := by
  have habsent : (m.entriesOf part).get? (.text Sources.stemArgument) = none := by
    rw [Table.get?_eq_none_iff]
    exact fun hkey => absurd (h.names part hpart _ hkey) (by decide)
  rw [configured?, habsent]
  rfl

/-- A section of an orderly configuration that is a mapping, null or absent becomes arguments. -/
theorem Settings.exists_argumentsIn {l : Layers} (h : l.values.Orderly) {part : String}
    (hpart : part ∈ ["parser", "logging"]) (hbad : l.values.isBadSection part = false) :
    ∃ arguments, argumentsIn l part = .ok arguments ∧
      ∀ field, arguments.get? field = (l.values.configured? part field).map argumentOf := by
  obtain ⟨arguments, hok, hget⟩ := sectionArguments_eq_ok (h.nodup_section part) (h.names part hpart)
  refine ⟨arguments, ?_, hget⟩
  rw [argumentsIn, Layers.sectionOf_of_not_bad hbad]
  exact hok

theorem Settings.argumentsIn_of_bad {l : Layers} {part : String} (h : l.values.isBadSection part) :
    argumentsIn l part = .error (Layers.sectionComplaint l.sources part) := by
  rw [argumentsIn, Layers.sectionOf_of_bad h]
  rfl

end Arguments

/-! ## Records from arguments -/

section Records

variable {around : Surroundings} {s : Sources} {m : ConfigMap} {arguments : Table String Json}

namespace Checked

/-- A record is made of a value, and all issues are reported together. -/
theorem mapError_invalid_cases (x : Checked α) (g : α → β) :
    (∃ a, x = .ok a ∧ (x.map g).mapError Failure.invalid = .ok (g a)) ∨
      x.isOk = false ∧ (x.map g).mapError Failure.invalid = .error (.invalid x.issues) := by
  cases x with
  | ok a => exact .inl ⟨a, rfl, rfl⟩
  | error is => exact .inr ⟨rfl, rfl⟩

theorem isOk_both (x : Checked α) (y : Checked β) : (both x y).isOk = (x.isOk && y.isOk) := by
  cases x <;> cases y <;> rfl

end Checked

namespace Sources

theorem arguments_of_make {stem : String} (h : make around stem [] = .ok s) : s.arguments = [] := by
  obtain ⟨envFile, -, h⟩ := bind_eq_ok_iff.mp h
  rw [← Except.ok.inj h]

/-- What stands outside does not depend on the record that is read, nor on its arguments. -/
theorem make_with {stem : String} (hs : make around stem [] = .ok s) (stem' : String)
    (h : arguments.get? stemArgument = none) :
    make around stem' arguments = .ok { s with stem := stem', arguments } := by
  obtain ⟨envFile, henvFile, hs⟩ := bind_eq_ok_iff.mp hs
  unfold make
  rw [henvFile, ← Except.ok.inj hs]
  simp [stemFrom, h, bind, Except.bind, pure, Except.pure]

/-- A field with arguments from a section is settled by what is configured for it. -/
theorem read_with (hs : s.arguments = []) {field : String} {configured : Option ConfigValue}
    (h : arguments.get? field = configured.map Settings.argumentOf) (default : α) (reader : Json → Checked α) :
    read { s with arguments } field default reader = s.settle field default reader configured := by
  cases configured with
  | none => simp [settle, read, value?, outside?, h, hs]
  | some v => simp [settle, read, value?, h]

end Sources

/-- **The settings of the parser** are the outcomes of its fields, or all of their issues. -/
theorem ParserSettings.make_cases (hs : Sources.make around "codeparse_" [] = .ok s)
    (hstem : m.configured? "parser" Sources.stemArgument = none)
    (hget : ∀ field, arguments.get? field = (m.configured? "parser" field).map Settings.argumentOf) :
    let o := FieldOutcomes.of s m
    (∃ p, make around arguments = .ok p ∧ o.defaultLanguage = .ok p.defaultLanguage ∧
      o.maxSourceBytes = .ok p.maxSourceBytes) ∨
    (o.parserOk = false ∧ make around arguments = .error (.invalid o.parserIssues)) := by
  intro o
  have hnone : arguments.get? Sources.stemArgument = none := by rw [hget, hstem, Option.map_none]
  have harguments := Sources.arguments_of_make hs
  have hsettled : make around arguments = ((both o.defaultLanguage o.maxSourceBytes).map fun p =>
      (⟨p.1, p.2⟩ : ParserSettings)).mapError .invalid := by
    unfold make
    rw [Sources.make_with hs _ hnone]
    show (ofSources { s with stem := "codeparse_parser_", arguments }).mapError Failure.invalid = _
    rw [ofSources]
    iterate 2 rw [Sources.read_with (s := { s with stem := "codeparse_parser_" }) harguments (hget _)]
    rfl
  rw [hsettled]
  obtain ⟨⟨language, bytes⟩, hboth, hmake⟩ | ⟨hfailed, hmake⟩ := mapError_invalid_cases
      (both o.defaultLanguage o.maxSourceBytes) fun p => (⟨p.1, p.2⟩ : ParserSettings)
  · obtain ⟨hlanguage, hbytes⟩ := both_eq_ok_iff.mp hboth
    exact .inl ⟨_, hmake, hlanguage, hbytes⟩
  · rw [isOk_both] at hfailed
    rw [issues_both] at hmake
    exact .inr ⟨hfailed, hmake⟩

/-- **The settings of the log** are the outcomes of its fields, or all of their issues. -/
theorem LoggingSettings.make_cases (hs : Sources.make around "codeparse_" [] = .ok s)
    (hstem : m.configured? "logging" Sources.stemArgument = none)
    (hget : ∀ field, arguments.get? field = (m.configured? "logging" field).map Settings.argumentOf) :
    let o := FieldOutcomes.of s m
    (∃ p, make around arguments = .ok p ∧ o.level = .ok p.level ∧ o.format = .ok p.format ∧
      o.file = .ok p.file ∧ o.useRich = .ok p.useRich) ∨
    (o.loggingOk = false ∧ make around arguments = .error (.invalid o.loggingIssues)) := by
  intro o
  have hnone : arguments.get? Sources.stemArgument = none := by rw [hget, hstem, Option.map_none]
  have harguments := Sources.arguments_of_make hs
  have hsettled : make around arguments =
      ((both o.level (both o.format (both o.file o.useRich))).map fun p =>
        (⟨p.1, p.2.1, p.2.2.1, p.2.2.2⟩ : LoggingSettings)).mapError .invalid := by
    unfold make
    rw [Sources.make_with hs _ hnone]
    show (ofSources { s with stem := "codeparse_logging_", arguments }).mapError Failure.invalid = _
    rw [ofSources]
    iterate 4 rw [Sources.read_with (s := { s with stem := "codeparse_logging_" }) harguments (hget _)]
    rfl
  rw [hsettled]
  obtain ⟨⟨level, format, file, useRich⟩, hboth, hmake⟩ | ⟨hfailed, hmake⟩ := mapError_invalid_cases
      (both o.level (both o.format (both o.file o.useRich))) fun p =>
        (⟨p.1, p.2.1, p.2.2.1, p.2.2.2⟩ : LoggingSettings)
  · obtain ⟨hlevel, hrest⟩ := both_eq_ok_iff.mp hboth
    obtain ⟨hformat, hrest⟩ := both_eq_ok_iff.mp hrest
    obtain ⟨hfile, huseRich⟩ := both_eq_ok_iff.mp hrest
    exact .inl ⟨_, hmake, hlevel, hformat, hfile, huseRich⟩
  · rw [isOk_both, isOk_both, isOk_both] at hfailed
    rw [issues_both, issues_both, issues_both] at hmake
    exact .inr ⟨by simpa [FieldOutcomes.loggingOk, Bool.and_assoc] using hfailed, hmake⟩

end Records

/-! ## Nulls -/

section Nulls

theorem ConfigMap.withoutNulls_get? {m : ConfigMap} (h : m.keys.Nodup) (key : Scalar) :
    m.withoutNulls.get? key = ((m.get? key).filter fun v => !v.isNull).map sectionWithoutNulls := by
  rw [withoutNulls, Table.get?_map_values, presentEntries_get? h]

theorem Settings.sectionArguments_presentEntries (entries : ConfigMap) :
    sectionArguments (presentEntries entries) = sectionArguments entries := by
  simp only [sectionArguments, presentEntries, List.filter_filter, Bool.and_self]

/-- The arguments in a section depend on what is not null. -/
theorem Settings.argumentsIn_eq {l : Layers} (h : l.values.keys.Nodup) (part : String) :
    argumentsIn l part =
      match l.values.withoutNulls.get? (.text part) with
      | none => .ok []
      | some (.mapping entries) => sectionArguments entries
      | some _ => .error (Layers.sectionComplaint l.sources part) := by
  rw [ConfigMap.withoutNulls_get? h, argumentsIn, Layers.sectionOf]
  cases l.values.get? (.text part) with
  | none => rfl
  | some v =>
    cases v with
    | scalar s => cases s <;> rfl
    | list items => rfl
    | mapping entries => exact (sectionArguments_presentEntries entries).symm

/-- **Nulls count as absent**, in a section and in its place. -/
theorem Settings.ofLayers_congr (around : Surroundings) {l l' : Layers} (h : l.values.keys.Nodup)
    (h' : l'.values.keys.Nodup) (hsources : l.sources = l'.sources)
    (hvalues : l.values.withoutNulls = l'.values.withoutNulls) : ofLayers around l = ofLayers around l' := by
  unfold ofLayers
  rw [argumentsIn_eq h, argumentsIn_eq h, argumentsIn_eq h', argumentsIn_eq h', hsources, hvalues]

end Nulls

/-! ## Settings from files -/

section Settings

variable {around : Surroundings} {s : Sources}

namespace Settings

theorem ofLayers_of_bad {l : Layers} (h : l.values.isBadSection "parser") :
    ofLayers around l = .error (Layers.sectionComplaint l.sources "parser") := by
  simp [ofLayers, argumentsIn_of_bad h, bind, Except.bind]

/-- What stands outside for a whole section is JSON, in the environment and in the file `.env`. -/
def JsonOutside (s : Sources) : Prop :=
  ∀ part ∈ ["parser", "logging"], ∃ v, recordValue? s part = .ok v

instance (s : Sources) : Decidable (JsonOutside s) :=
  decidable_of_iff (∀ part ∈ ["parser", "logging"], (recordValue? s part).isOk) <| by
    refine forall₂_congr fun part _ => ?_
    cases recordValue? s part <;> simp [Except.isOk, Except.toBool]

theorem jsonOutside?_cases (text : Option String) :
    (∃ v, jsonOutside? text = .ok v) ∨ jsonOutside? text = .error .badSetting := by
  unfold jsonOutside?
  split
  · exact .inl ⟨_, rfl⟩
  · split
    · exact .inl ⟨_, rfl⟩
    · exact .inl ⟨_, rfl⟩
    · exact .inr rfl

theorem recordValue?_cases (s : Sources) (part : String) :
    (∃ v, recordValue? s part = .ok v) ∨ recordValue? s part = .error .badSetting := by
  unfold recordValue?
  obtain ⟨v, hv⟩ | hv := jsonOutside?_cases (s.environment.get? (s.stem ++ part))
  · obtain ⟨u, hu⟩ | hu := jsonOutside?_cases (s.envFile.get? (s.stem ++ part)).join
    · exact .inl ⟨_, by rw [hv, hu]; rfl⟩
    · exact .inr (by rw [hv, hu]; rfl)
  · exact .inr (by rw [hv]; rfl)

/-- With both records, what stands outside for whole sections decides. -/
theorem ofLayers_of_records {l : Layers} {parserArguments loggingArguments : Table String Json}
    {parser : ParserSettings} {logging : LoggingSettings}
    (hparser : argumentsIn l "parser" = .ok parserArguments)
    (hmake : ParserSettings.make around parserArguments = .ok parser)
    (hlogging : argumentsIn l "logging" = .ok loggingArguments)
    (hmake' : LoggingSettings.make around loggingArguments = .ok logging)
    (hs : Sources.make around "codeparse_" [] = .ok s) :
    (JsonOutside s → ofLayers around l = .ok { parser, logging }) ∧
    (¬ JsonOutside s → ofLayers around l = .error .badSetting) := by
  unfold JsonOutside
  obtain ⟨v, hv⟩ | hv := recordValue?_cases s "parser"
  · obtain ⟨u, hu⟩ | hu := recordValue?_cases s "logging" <;>
      simp [ofLayers, hparser, hmake, hlogging, hmake', hs, hv, hu, bind, Except.bind, pure, Except.pure]
  · simp [ofLayers, hparser, hmake, hlogging, hmake', hs, hv, bind, Except.bind]

/-- The settings from an orderly configuration, over what stands outside. -/
theorem ofLayers_outcomes {l : Layers} (h : l.values.Orderly)
    (hs : Sources.make around "codeparse_" [] = .ok s) (hparser : l.values.isBadSection "parser" = false) :
    let o := FieldOutcomes.of s l.values
    (o.parserOk = false → ofLayers around l = .error (.invalid o.parserIssues)) ∧
    (o.parserOk → l.values.isBadSection "logging" →
      ofLayers around l = .error (Layers.sectionComplaint l.sources "logging")) ∧
    (o.parserOk → l.values.isBadSection "logging" = false → o.loggingOk = false →
      ofLayers around l = .error (.invalid o.loggingIssues)) ∧
    (o.parserOk → l.values.isBadSection "logging" = false → o.loggingOk →
      (JsonOutside s → ∃ settings, ofLayers around l = .ok settings ∧ o.Give settings) ∧
      (¬ JsonOutside s → ofLayers around l = .error .badSetting)) := by
  intro o
  obtain ⟨arguments, harguments, hget⟩ := exists_argumentsIn h (by simp) hparser
  obtain ⟨p, hp, hlanguage, hbytes⟩ | ⟨hfailed, hp⟩ :=
    ParserSettings.make_cases hs (h.configured?_stemArgument (by simp)) hget
  · have hok : o.parserOk = true := by
      simp [o, FieldOutcomes.parserOk, hlanguage, hbytes, Except.isOk, Except.toBool]
    refine ⟨fun hfailed => absurd hok (by simp [hfailed]), fun _ hbad => ?_, fun _ hlogging hfailed => ?_,
      fun _ hlogging hok' => ?_⟩
    · simp [ofLayers, harguments, hp, argumentsIn_of_bad hbad, bind, Except.bind]
    · obtain ⟨arguments', harguments', hget'⟩ := exists_argumentsIn h (by simp) hlogging
      obtain ⟨q, hq, hlevel, hformat, hfile, huseRich⟩ | ⟨-, hq⟩ :=
        LoggingSettings.make_cases hs (h.configured?_stemArgument (by simp)) hget'
      · simp [o, FieldOutcomes.loggingOk, hlevel, hformat, hfile, huseRich, Except.isOk, Except.toBool] at hfailed
      · simp [ofLayers, harguments, hp, harguments', hq, bind, Except.bind, o]
    · obtain ⟨arguments', harguments', hget'⟩ := exists_argumentsIn h (by simp) hlogging
      obtain ⟨q, hq, houtcomes⟩ | ⟨hfailed, -⟩ :=
        LoggingSettings.make_cases hs (h.configured?_stemArgument (by simp)) hget'
      · obtain ⟨hjson, hnotJson⟩ := ofLayers_of_records harguments hp harguments' hq hs
        exact ⟨fun h => ⟨_, hjson h, hlanguage, hbytes, houtcomes⟩, hnotJson⟩
      · exact absurd hok' (by simp [o, hfailed])
  · refine ⟨fun _ => ?_, fun hok => ?_, fun hok => ?_, fun hok => ?_⟩
    · simp [ofLayers, harguments, hp, bind, Except.bind, o]
    all_goals exact absurd hok (by simp [o, hfailed])

/-- **Which value a setting takes.**  Let files be read that hold some mappings, whose sections for settings
have only names of settings as keys, and let these be merged.

* If the section of the parser is there and is neither a mapping nor null, this is the complaint.
* Another mapping that differs in nulls only, in the sections or in place of a section, gives the same.
* Unless the file `.env` cannot be read, every field is settled by itself: the value that is configured for
  it is read, whatever stands outside, and else what stands outside.  The settings have these outcomes as
  their fields.  Issues of the parser come before a bad section of the log, and this comes before the issues
  of the log.  Last, what stands outside for a whole section must be JSON, though nothing is taken from it. -/
theorem ofFiles_outcomes {paths : List String} {ms : List ConfigMap}
    (hread : paths.mapM (fun path => Layers.readFile around.files (Path.normal path)) = .ok ms)
    (hnames : ∀ m ∈ ms, m.NamesSettings) :
    let m := ms.foldl ConfigValue.deepMerge []
    let sources := paths.map Path.normal
    (m.isBadSection "parser" → ofFiles around paths = .error (Layers.sectionComplaint sources "parser")) ∧
    (∀ values : ConfigMap, values.keys.Nodup → values.withoutNulls = m.withoutNulls →
      ofLayers around { values, sources } = ofFiles around paths) ∧
    ∀ s, Sources.make around "codeparse_" [] = .ok s → m.isBadSection "parser" = false →
      let o := FieldOutcomes.of s m
      (o.parserOk = false → ofFiles around paths = .error (.invalid o.parserIssues)) ∧
      (o.parserOk → m.isBadSection "logging" →
        ofFiles around paths = .error (Layers.sectionComplaint sources "logging")) ∧
      (o.parserOk → m.isBadSection "logging" = false → o.loggingOk = false →
        ofFiles around paths = .error (.invalid o.loggingIssues)) ∧
      (o.parserOk → m.isBadSection "logging" = false → o.loggingOk →
        (JsonOutside s → ∃ settings, ofFiles around paths = .ok settings ∧ o.Give settings) ∧
        (¬ JsonOutside s → ofFiles around paths = .error .badSetting)) := by
  intro m sources
  have horderly : m.Orderly := Layers.orderly_of_files hread hnames
  have heq : ofFiles around paths = ofLayers around { values := m, sources } := by
    rw [ofFiles, Layers.ofFiles_eq_ok hread]
    rfl
  rw [heq]
  refine ⟨fun hbad => ?_, fun values hkeys hvalues => ?_, fun s hs hparser => ?_⟩
  · exact ofLayers_of_bad (l := { values := m, sources }) hbad
  · exact ofLayers_congr around hkeys horderly.nodup rfl hvalues
  · exact ofLayers_outcomes (l := { values := m, sources }) horderly hs hparser

/-! ### Files in a directory -/

/-- A directory with some texts. -/
def textFiles (texts : List (String × String)) : Files where
  entries := texts.map fun (name, text) => ([name], .file (Utf8.encode text.toList))

/-- A level in a file, a null over it, and other values in the environment. -/
def layeredLevels : Surroundings where
  files := textFiles [("a.yaml", "logging: {level: error}"), ("b.yaml", "logging: {level: ~, use_rich: no}")]
  env := [("CODEPARSE_LOGGING_LEVEL", "debug"), ("CODEPARSE_LOGGING_USE_RICH", "yes")]

/-- The level comes from the environment, since the upper file takes it back; whether output is rich comes
from the file. -/
theorem ofFiles_layeredLevels :
    ∃ ms s settings,
      ["a.yaml", "b.yaml"].mapM (fun path => Layers.readFile layeredLevels.files (Path.normal path)) = .ok ms ∧
      (∀ m ∈ ms, m.NamesSettings) ∧ Sources.make layeredLevels "codeparse_" [] = .ok s ∧ JsonOutside s ∧
      ofFiles layeredLevels ["a.yaml", "b.yaml"] = .ok settings ∧
      settings.logging.level = .debug ∧ settings.logging.useRich = false := by
  obtain ⟨s, hs, hchecked⟩ := exists_eq_ok_of_any (x := Sources.make layeredLevels "codeparse_" [])
    (p := fun s => (["a.yaml", "b.yaml"].mapM fun path =>
      Layers.readFile layeredLevels.files (Path.normal path)).toOption.any fun ms =>
        let m := ms.foldl ConfigValue.deepMerge []
        let o := FieldOutcomes.of s m
        (∀ m ∈ ms, m.NamesSettings) ∧ JsonOutside s ∧
        m.isBadSection "parser" = false ∧ m.isBadSection "logging" = false ∧ o.parserOk ∧ o.loggingOk ∧
        o.level.toOption = some .debug ∧ o.useRich.toOption = some false) (by decide +kernel)
  obtain ⟨ms, hread, hchecked⟩ := exists_eq_ok_of_any hchecked
  obtain ⟨hnames, hjson, hparser, hlogging, hparserOk, hloggingOk, hlevel, huseRich⟩ :=
    of_decide_eq_true hchecked
  obtain ⟨-, -, houtcomes⟩ := ofFiles_outcomes hread hnames
  obtain ⟨-, -, -, hsettled⟩ := houtcomes s hs hparser
  obtain ⟨settings, hsettings, -, -, hlevel', -, -, huseRich'⟩ :=
    (hsettled hparserOk hlogging hloggingOk).1 hjson
  refine ⟨ms, s, settings, hread, hnames, hs, hjson, hsettings, ?_, ?_⟩
  · exact Except.ok.inj (hlevel'.symm.trans (eq_ok_of_toOption hlevel))
  · exact Except.ok.inj (huseRich'.symm.trans (eq_ok_of_toOption huseRich))

/-- A language is configured, and in the environment stands what is no JSON for the whole section. -/
def languageAndNoJson : Surroundings where
  files := textFiles [("c.yaml", "parser: {default_language: java}")]
  env := [("CODEPARSE_PARSER", "x")]

/-- A language is configured, and the file `.env` is not UTF-8. -/
def languageAndNoText : Surroundings where
  files := { entries := (textFiles [("c.yaml", "parser: {default_language: java}")]).entries ++
    [([".env"], .file [0xff])] }

/-- A limit that is too low, and a section that is no mapping. -/
def limitAndNoSection : Surroundings where
  files := textFiles [("c.yaml", "{parser: {max_source_bytes: 0}, logging: 1}")]

/-- A section that says how names in the environment begin. -/
def otherStem : Surroundings where
  files := textFiles [("c.yaml", "parser: {_env_prefix: X_}")]
  env := [("X_MAX_SOURCE_BYTES", "5")]

/-- **What can be in the way of a configured value.**  A language is configured, but there are no settings,
for something outside is no JSON, or no text.  A section is no mapping, but the complaint is about a field of
the other one.  A limit is not configured, and by itself would be the default, but a key of its section
changes it. -/
theorem exists_configured_not_taken :
    (∃ m, Layers.layered languageAndNoJson.files ["c.yaml"] = .ok m ∧
      (m.configured? "parser" "default_language").isSome ∧
      m.isBadSection "parser" = false ∧ m.isBadSection "logging" = false ∧
      ofFiles languageAndNoJson ["c.yaml"] = .error .badSetting) ∧
    (∃ m misfit, Layers.layered languageAndNoText.files ["c.yaml"] = .ok m ∧
      (m.configured? "parser" "default_language").isSome ∧
      m.isBadSection "parser" = false ∧ m.isBadSection "logging" = false ∧
      ofFiles languageAndNoText ["c.yaml"] = .error (.notUtf8 misfit)) ∧
    (∃ m issues, Layers.layered limitAndNoSection.files ["c.yaml"] = .ok m ∧ m.isBadSection "logging" ∧
      ofFiles limitAndNoSection ["c.yaml"] = .error (.invalid issues)) ∧
    (∃ m settings, Layers.layered otherStem.files ["c.yaml"] = .ok m ∧
      m.configured? "parser" "max_source_bytes" = none ∧
      ParserSettings.make otherStem [] = .ok {} ∧
      ofFiles otherStem ["c.yaml"] = .ok settings ∧ settings.parser.maxSourceBytes = 5) := by
  refine ⟨?_, ?_, ?_, ?_⟩
  · obtain ⟨hlayered, hfails⟩ : (Layers.layered languageAndNoJson.files ["c.yaml"]).toOption.any (fun m =>
          (m.configured? "parser" "default_language").isSome ∧
          m.isBadSection "parser" = false ∧ m.isBadSection "logging" = false) ∧
        failsWith (fun f => f.ctorIdx = Failure.badSetting.ctorIdx) (ofFiles languageAndNoJson ["c.yaml"]) := by
      decide +kernel
    obtain ⟨m, hm, hchecked⟩ := exists_eq_ok_of_any hlayered
    obtain ⟨hconfigured, hparser, hlogging⟩ := of_decide_eq_true hchecked
    obtain ⟨f, hf, hkind⟩ := exists_eq_error_of_failsWith hfails
    cases f <;> first | exact ⟨m, hm, hconfigured, hparser, hlogging, hf⟩ | cases hkind
  · obtain ⟨hlayered, hfails⟩ : (Layers.layered languageAndNoText.files ["c.yaml"]).toOption.any (fun m =>
          (m.configured? "parser" "default_language").isSome ∧
          m.isBadSection "parser" = false ∧ m.isBadSection "logging" = false) ∧
        failsWith (fun f => f.ctorIdx = (Failure.notUtf8 ⟨.badStart, 0, 1, 0xff⟩).ctorIdx)
          (ofFiles languageAndNoText ["c.yaml"]) := by
      decide +kernel
    obtain ⟨m, hm, hchecked⟩ := exists_eq_ok_of_any hlayered
    obtain ⟨hconfigured, hparser, hlogging⟩ := of_decide_eq_true hchecked
    obtain ⟨f, hf, hkind⟩ := exists_eq_error_of_failsWith hfails
    cases f <;> first | exact ⟨m, _, hm, hconfigured, hparser, hlogging, hf⟩ | cases hkind
  · obtain ⟨hlayered, hfails⟩ : (Layers.layered limitAndNoSection.files ["c.yaml"]).toOption.any (fun m =>
          m.isBadSection "logging") ∧
        failsWith (fun f => f.ctorIdx = (Failure.invalid []).ctorIdx)
          (ofFiles limitAndNoSection ["c.yaml"]) := by
      decide +kernel
    obtain ⟨m, hm, hbad⟩ := exists_eq_ok_of_any hlayered
    obtain ⟨f, hf, hkind⟩ := exists_eq_error_of_failsWith hfails
    cases f <;> first | exact ⟨m, _, hm, hbad, hf⟩ | cases hkind
  · obtain ⟨hlayered, hmake, hread⟩ : (Layers.layered otherStem.files ["c.yaml"]).toOption.any (fun m =>
          (m.configured? "parser" "max_source_bytes").isNone) ∧
        (ParserSettings.make otherStem []).toOption = some {} ∧
        (ofFiles otherStem ["c.yaml"]).toOption.any (fun settings => settings.parser.maxSourceBytes = 5) := by
      decide +kernel
    obtain ⟨m, hm, hnone⟩ := exists_eq_ok_of_any hlayered
    obtain ⟨settings, hsettings, hlimit⟩ := exists_eq_ok_of_any hread
    exact ⟨m, settings, hm, Option.isNone_iff_eq_none.mp hnone, eq_ok_of_toOption hmake, hsettings,
      of_decide_eq_true hlimit⟩

end Settings

end Settings

end SourceOutline
