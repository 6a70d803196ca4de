import SourceOutline.Proofs.Command.Outcome
import SourceOutline.Proofs.Files.Store
import SourceOutline.Proofs.Handler.Consistency
import SourceOutline.Proofs.Json.Ascii

/-!
# The JSON that `parse` gives out

The text on the output or in the output file is pure ASCII, and it is read back as what the handler
answers for the source.

* `ofJsonText_text`: the text of an outline without members is read back as the outline.
* `withDetails_text`: with members, the outline is what is left without the key `typeDetails`, and every
  item under this key is read back as one of the types with its members.
* `emitted_of_exit_eq_zero`: where the text is to be found.

Main statement: `reads_back_of_exit_eq_zero`.
-/

namespace SourceOutline.ParseRequest

/-! ## The text of an outline -/

section Text

/-- The style of the command. -/
def style : Json.Style :=
  { Json.Style.indented 2 with asciiOnly := true }

theorem style_legal : style.Legal :=
  ⟨⟨[], by simp [style, Json.Style.indented], by simp [Json.Gaps]⟩,
    ⟨[' '], by simp [style, Json.Style.indented], by simp [Json.Gaps, Json.isGap]⟩⟩

theorem style_ascii : style.Ascii where
  asciiOnly := rfl
  comma := by decide
  colon := by decide

/-- What stands behind imports and types. -/
def detailsField (p : Parsing) : List (String × Json) :=
  match p.details with
  | some ds => [("typeDetails", .arr (ds.map TypeDetails.toJson))]
  | none => []

theorem payload_eq (p : Parsing) :
    payload p = .obj ([("imports", .arr (p.file.imports.map Import.toJson)),
      ("types", .arr (p.file.types.map TypeDecl.toJson))] ++ detailsField p) := by
  unfold payload detailsField ParsedFile.toJson
  cases p.details <;> simp

theorem plain_payload (p : Parsing) : (payload p).Plain := by
  have hfile := p.file.plain_toJson
  rw [payload_eq]
  unfold detailsField
  cases p.details with
  | none => exact hfile
  | some ds =>
    refine ⟨by simp, hfile.2.1, hfile.2.2.1, Json.plainItems_map fun d _ => d.plain_toJson, trivial⟩

theorem parse?_text (p : Parsing) : Json.parse? (text p) = some (payload p) :=
  Json.parse?_render style_legal (plain_payload p)

theorem printed_text (p : Parsing) : Json.Printed (text p).toList :=
  Json.printed_render style_ascii (plain_payload p)

/-- Without members the text is that of the outline alone. -/
theorem ofJsonText_text {p : Parsing} (hdetails : p.details = none)
    (h : TypeDecl.consistentAll p.file.types = true) : ParsedFile.ofJsonText (text p) = .ok p.file := by
  have hpayload : payload p = p.file.toJson := by
    rw [payload_eq, detailsField, hdetails]
    rfl
  rw [ParsedFile.ofJsonText, Checked.ofText, parse?_text, hpayload]
  exact ParsedFile.ofJson_toJson h

/-- A text with an outline and with members: the outline is read from it without the key `typeDetails`;
under this key, each item is read as the type with members at its place, and has the type at its place for
its `type`. -/
def WithDetails (text : String) (file : ParsedFile) (ds : List TypeDetails) : Prop :=
  ∃ fields types items, Json.parse? text = some (.obj fields) ∧
    ParsedFile.ofJson (.obj (Table.erase fields "typeDetails")) = .ok file ∧
    Table.get? fields "types" = some (.arr types) ∧
    Table.get? fields "typeDetails" = some (.arr items) ∧
    items.map TypeDetails.ofJson = ds.map .ok ∧ items.map (·.get? "type") = types.map some

theorem withDetails_text {p : Parsing} {ds : List TypeDetails} (hdetails : p.details = some ds)
    (htypes : p.file.types = ds.map TypeDetails.type) (h : ∀ d ∈ ds, d.Consistent) :
    WithDetails (text p) p.file ds := by
  have hconsistent : TypeDecl.consistentAll p.file.types = true := by
    rw [htypes, TypeDecl.consistentAll_iff]
    intro t ht
    obtain ⟨d, hd, rfl⟩ := List.mem_map.mp ht
    exact (h d hd).1
  have hitems : (ds.map TypeDetails.toJson).map TypeDetails.ofJson = ds.map .ok := by
    rw [List.map_map]
    exact List.map_congr_left fun d hd => TypeDetails.ofJson_toJson (h d hd)
  have hplaces : (ds.map TypeDetails.toJson).map (·.get? "type") =
      (p.file.types.map TypeDecl.toJson).map some := by
    rw [htypes, List.map_map, List.map_map, List.map_map]
    rfl
  have hparse := parse?_text p
  rw [payload_eq, detailsField, hdetails] at hparse
  exact ⟨_, _, _, hparse, ParsedFile.ofJson_toJson hconsistent, rfl, rfl, hitems, hplaces⟩

end Text

/-! ## The outline of a source -/

section Outline

/-- The types of an outline are consistent, and if their members are asked for, the types with members
are those that the handler extracts. -/
theorem consistentAll_types {h : ReadyHandler} {code : String} {file : ParsedFile}
    (hfile : (h.answers.parseFile code).result = .ok file) : TypeDecl.consistentAll file.types = true := by
  cases h with
  | tree h =>
    obtain ⟨ds, hds, rfl⟩ := Handler.of_result_fileIn_eq_ok hfile
    rw [TypeDecl.consistentAll_iff]
    intro t ht
    obtain ⟨d, hd, rfl⟩ := List.mem_map.mp ht
    exact (Handler.consistent_of_treeDetails hds d hd).1
  | stub options =>
    obtain rfl := Except.ok.inj hfile
    rfl

theorem details_of_tree {h : Handler} {code : String} {file : ParsedFile} {ds : List TypeDetails}
    (hfile : (ReadyHandler.answers (.tree h) |>.parseFile code).result = .ok file)
    (hds : (h.detailsIn (.ofString code) (h.parseTree code)).result = .ok ds) :
    file.types = ds.map TypeDetails.type ∧ ∀ d ∈ ds, d.Consistent := by
  obtain ⟨ds', hds', rfl⟩ := Handler.of_result_fileIn_eq_ok hfile
  obtain ⟨-, hds⟩ := Handler.of_result_detailsIn_eq_ok hds
  obtain rfl := Except.ok.inj (hds.symm.trans hds')
  exact ⟨rfl, Handler.consistent_of_treeDetails hds⟩

end Outline

/-! ## The text that is given out -/

section Emitted

/-- The outline is given out as JSON. -/
def GivesJson (r : ParseRequest) : Prop :=
  r.json = true ∨ r.outputPath? ≠ none

/-- The text is what the command gave out: it stands in the output file, or on the output and ends
there with a line feed. -/
def Emitted (r : ParseRequest) (o : Outcome) (text : String) : Prop :=
  match r.outputPath? with
  | some path => o.files.readText (Path.normal path) = .ok text
  | none => o.output = text ++ "\n"

variable {r : ParseRequest} {around : Surroundings} {registry : HandlerRegistry} {setup : LogSetup}

theorem emitted_emit {p : Parsing} {o : Outcome} (hjson : r.GivesJson) (ho : o.exit = 0)
    (hexit : (r.emit p o).exit = 0) : r.Emitted (r.emit p o) (text p) := by
  have hwritten := (exit_emit_eq_zero_iff ho).mp hexit
  unfold Emitted
  cases hpath : r.outputPath? with
  | none =>
    have hr : r.json = true := hjson.resolve_right (not_not_intro hpath)
    dsimp only
    rw [emit_of_no_path hpath, if_pos hr]
  | some path =>
    obtain ⟨files, hfiles⟩ := hwritten path hpath
    have hprinted := printed_text p
    have hends : '\r' ∉ (text p).toList := fun hr => by
      rcases hprinted _ hr with heq | ⟨hlow, -⟩
      · exact absurd heq (by decide)
      · exact absurd hlow (by decide)
    dsimp only
    rw [emit_of_written hpath hfiles]
    exact Files.readText_of_writeText hends hfiles

/-- A command that succeeds gives out the text of its outline. -/
theorem emitted_of_exit_eq_zero (hjson : r.GivesJson) (hexit : (r.outcome around registry setup).exit = 0) :
    ∃ setup' files p, r.logFor around setup = (setup', .ok files) ∧
      (r.outline around files registry).result = .ok p ∧ r.Emitted (r.outcome around registry setup) (text p) := by
  have hends := r.outcome_cases around registry setup Handler.parseTree
  generalize r.outcome around registry setup = o at hends hexit
  cases hends with
  | log hlog => simp at hexit
  | outline hlog hf =>
    rw [exit_giveUp] at hexit
    simp at hexit
  | emit hlog hp => exact ⟨_, _, _, hlog, hp, emitted_emit hjson rfl hexit⟩

/-- **The JSON that is given out is read back.** Whenever `parse` succeeds and gives JSON, the text is
pure ASCII. Without members, which only handlers of syntax trees can tell, it is read back as the outline
that the handler answers for the source; with members, what stands beside them is read back as this
outline, and they are read back as the types with members that the handler extracts. -/
theorem reads_back_of_exit_eq_zero (r : ParseRequest) (around : Surroundings) (registry : HandlerRegistry)
    (setup : LogSetup) (hjson : r.GivesJson) (hexit : (r.outcome around registry setup).exit = 0) :
    ∃ text files language h code file,
      r.Emitted (r.outcome around registry setup) text ∧ (∀ c ∈ text.toList, c.toNat < 0x80) ∧
      (r.logFor around setup).2 = .ok files ∧ r.Finds around files registry language h code ∧
      (h.answers.parseFile code).result = .ok file ∧
      ((∀ t, h = .tree t → r.details = false) → ParsedFile.ofJsonText text = .ok file) ∧
      (r.details = true → ∀ t, h = .tree t →
        ∃ ds, (t.detailsIn (.ofString code) (t.parseTree code)).result = .ok ds ∧ WithDetails text file ds) := by
  obtain ⟨setup', files, p, hlog, hp, hemitted⟩ := emitted_of_exit_eq_zero hjson hexit
  obtain ⟨h, code, hfinds, hfile, hdetails⟩ := result_outline_eq_ok_iff.mp hp
  have hfiles : (r.logFor around setup).2 = .ok files := by rw [hlog]
  refine ⟨text p, files, p.language, h, code, p.file, hemitted, (printed_text p).lt, hfiles, hfinds, hfile,
    fun hr => ?_, fun hr t ht => ?_⟩
  · have hnone : p.details = none := by
      cases h with
      | tree t =>
        rw [detailsBy, hr t rfl] at hdetails
        exact (Except.ok.inj hdetails).symm
      | stub options =>
        rw [detailsBy] at hdetails
        split at hdetails <;> exact (Except.ok.inj hdetails).symm
    exact ofJsonText_text hnone (consistentAll_types hfile)
  · subst ht
    rw [detailsBy, hr, if_pos rfl, ReadyHandler.details, Run.result_map] at hdetails
    obtain ⟨ds, hds, hsome⟩ := map_eq_ok_iff.mp hdetails
    obtain ⟨htypes, hconsistent⟩ := details_of_tree hfile hds
    exact ⟨ds, hds, withDetails_text hsome.symm htypes hconsistent⟩

/-! ### A request with names beyond ASCII -/

/-- A directory with one source. -/
def oneSource : Surroundings where
  files := { entries := [(["A.java"], .file (Utf8.encode "class Ä { 𐐀 é; }".toList))] }

/-- The source with its members, to be written to a file. -/
def oneRequest : ParseRequest where
  path := "A.java"
  details := true
  output := some "out.json"

theorem reads_back_of_oneRequest :
    let o := oneRequest.outcome oneSource .bundled ⟨30, []⟩
    o.exit = 0 ∧ ∃ text, oneRequest.Emitted o text ∧ (∀ c ∈ text.toList, c.toNat < 0x80) ∧
      ∃ file ds, WithDetails text file ds := by
  intro o
  have hjson : oneRequest.GivesJson := .inr (by decide +kernel)
  have hexit : o.exit = 0 := by decide +kernel
  have hjava : HandlerRegistry.bundled.handlerFor "java" oneRequest.options = .ok (.tree .java) := rfl
  obtain ⟨text, files, language, h, code, file, hemitted, hascii, -, hfinds, -, -, hdetails⟩ :=
    reads_back_of_exit_eq_zero oneRequest oneSource .bundled ⟨30, []⟩ hjson hexit
  have hlanguage : language = "java" := (Except.ok.inj hfinds.selected).symm
  have htree : h = .tree .java := by
    have hmade := hfinds.made
    rw [hlanguage, hjava] at hmade
    exact (Except.ok.inj hmade).symm
  obtain ⟨ds, -, hds⟩ := hdetails rfl .java htree
  exact ⟨hexit, text, hemitted, hascii, file, ds, hds⟩

end Emitted

end SourceOutline.ParseRequest
