import SourceOutline.Config.Settings
import SourceOutline.Proofs.Config.Merging
import SourceOutline.Proofs.Files.Store

/-!
# Configuration files that cannot be read

A configuration file that is missing, is malformed or holds no mapping is reported as a failure of the
configuration.  Other files that cannot be read are not: their failures escape as they are.

* `Files.ThroughFile`: a path leads through a file; `Files.walk_cases`: what following a path comes to.
* `Layers.Escapes`: the failures that are not reported, one constructor for each reason.
* `Layers.reportedUnless_readFile`, `Layers.reportedUnless_merge`, `Layers.reportedUnless_load`,
  `Layers.reportedUnless_ofFiles`: what reading, merging and loading comes to; the first file that cannot be read
  decides.
* `Layers.Silent`: nothing that reads the file at a path reports a failure of the configuration.

Main statement: `Settings.reported_unless_escapes`.
-/

namespace SourceOutline

/-! ## Paths through files -/

namespace Files

variable {fs : Files} {path : String}

theorem walk_cons {ps : List String} (hps : ps ≠ []) (here : Location) (p : String) :
    fs.walk path here (p :: ps) =
      if p = ".." then fs.walk path (around here) ps
      else
        match fs.at? (here ++ [p]) with
        | some .directory => fs.walk path (here ++ [p]) ps
        | some (.file _) => .error (.notDirectory path)
        | none => .error (.fileNotFound path) := by
  obtain ⟨q, qs, rfl⟩ := List.exists_cons_of_ne_nil hps
  rfl

/-- Some component before the last leads to a file. -/
def ThroughFile (fs : Files) (path : String) (here : Location) (ps : List String) : Prop :=
  ∃ qs q rs l bytes, ps = qs ++ q :: rs ∧ rs ≠ [] ∧ q ≠ ".." ∧ fs.walk path here (qs ++ [q]) = .ok l ∧
    fs.at? l = some (.file bytes)

theorem throughFile_cons_iff {ps : List String} (hps : ps ≠ []) (here : Location) (p : String) :
    fs.ThroughFile path here (p :: ps) ↔
      if p = ".." then fs.ThroughFile path (around here) ps
      else
        match fs.at? (here ++ [p]) with
        | some .directory => fs.ThroughFile path (here ++ [p]) ps
        | some (.file _) => True
        | none => False := by
  constructor
  · rintro ⟨_ | ⟨_, qs⟩, q, rs, l, bytes, heq, hrs, hq, hwalk, hat⟩
    · obtain ⟨rfl, rfl⟩ := List.cons.inj heq
      obtain rfl : here ++ [p] = l := by simpa [walk, hq] using hwalk
      rw [if_neg hq, hat]
      trivial
    · obtain ⟨rfl, rfl⟩ := List.cons.inj heq
      rw [List.cons_append, walk_cons (by simp)] at hwalk
      split at hwalk
      · rename_i hp
        rw [if_pos hp]
        exact ⟨qs, q, rs, l, bytes, rfl, hrs, hq, hwalk, hat⟩
      · rename_i hp
        rw [if_neg hp]
        split at hwalk
        · exact ⟨qs, q, rs, l, bytes, rfl, hrs, hq, hwalk, hat⟩
        · cases hwalk
        · cases hwalk
  · intro h
    split at h
    · rename_i hp
      obtain ⟨qs, q, rs, l, bytes, rfl, hrs, hq, hwalk, hat⟩ := h
      refine ⟨p :: qs, q, rs, l, bytes, rfl, hrs, hq, ?_, hat⟩
      rw [List.cons_append, walk_cons (by simp), if_pos hp, hwalk]
    · rename_i hp
      cases hentry : fs.at? (here ++ [p]) with
      | none => simp [hentry] at h
      | some e =>
        cases e with
        | file bytes => exact ⟨[], p, ps, here ++ [p], bytes, rfl, hps, hp, by simp [walk, hp], hentry⟩
        | directory =>
          rw [hentry] at h
          obtain ⟨qs, q, rs, l, bytes, rfl, hrs, hq, hwalk, hat⟩ := h
          refine ⟨p :: qs, q, rs, l, bytes, rfl, hrs, hq, ?_, hat⟩
          rw [List.cons_append, walk_cons (by simp), if_neg hp, hentry]
          exact hwalk

/-- Following a path fails for want of something, or because it leads through a file. -/
theorem walk_cases : ∀ (here : Location) (ps : List String),
    (∃ l, fs.walk path here ps = .ok l ∧ ¬ fs.ThroughFile path here ps) ∨
    (fs.walk path here ps = .error (.fileNotFound path) ∧ ¬ fs.ThroughFile path here ps) ∨
    (fs.walk path here ps = .error (.notDirectory path) ∧ fs.ThroughFile path here ps)
  | here, [] => .inl ⟨here, rfl, by simp [ThroughFile]⟩
  | here, [p] => by
    refine .inl ⟨_, rfl, ?_⟩
    rintro ⟨qs, q, rs, l, bytes, heq, hrs, -⟩
    cases qs <;> simp_all
  | here, p :: q :: ps => by
    have hps : q :: ps ≠ [] := by simp
    rw [walk_cons hps, throughFile_cons_iff hps]
    by_cases hp : p = ".."
    · simp only [if_pos hp]
      exact walk_cases (around here) (q :: ps)
    · simp only [if_neg hp]
      cases fs.at? (here ++ [p]) with
      | none => exact .inr (.inl ⟨rfl, id⟩)
      | some e =>
        cases e with
        | file bytes => exact .inr (.inr ⟨rfl, trivial⟩)
        | directory => exact walk_cases (here ++ [p]) (q :: ps)

end Files

/-! ## What is reported -/

/-- There is a result, or a failure of the configuration is reported. -/
def Reported {α : Type} (x : Except Failure α) : Prop :=
  (∃ a, x = .ok a) ∨ ∃ r : Report, x = .error (.reported r) ∧ r.subject = .configuration

/-- The outcome is a result or reported, unless a failure escapes: then that is the outcome. -/
def ReportedUnless {α : Type} (escapes : Failure → Prop) (x : Except Failure α) : Prop :=
  (Reported x ∧ ∀ f, ¬ escapes f) ∨ ∃ f, escapes f ∧ x = .error f

section Outcomes

variable {α β : Type} {x : Except Failure α} {y : Except Failure β} {escapes : Failure → Prop}

theorem Reported.ok (a : α) : Reported (.ok a : Except Failure α) :=
  .inl ⟨a, rfl⟩

/-- An operation that fails just when and as another one does. -/
theorem ReportedUnless.of_same (h : ReportedUnless escapes x)
    (hsame : (∃ a b, x = .ok a ∧ y = .ok b) ∨ ∃ f, x = .error f ∧ y = .error f) :
    ReportedUnless escapes y := by
  rcases hsame with ⟨a, b, rfl, rfl⟩ | ⟨f, rfl, rfl⟩
  · rcases h with ⟨-, hnone⟩ | ⟨f, -, hf⟩
    · exact .inl ⟨.ok b, hnone⟩
    · cases hf
  · rcases h with ⟨⟨a, ha⟩ | ⟨r, hr, hsubject⟩, hnone⟩ | ⟨f', hescapes, hf⟩
    · cases ha
    · obtain rfl := Except.error.inj hr
      exact .inl ⟨.inr ⟨r, rfl, hsubject⟩, hnone⟩
    · obtain rfl := Except.error.inj hf
      exact .inr ⟨f, hescapes, rfl⟩

/-- What escapes and is not reported makes the outcome unreported. -/
theorem ReportedUnless.not_reported (h : ReportedUnless escapes x)
    (hnever : ∀ f, escapes f → ∀ r, f ≠ .reported r) {f : Failure} (hf : escapes f) : ¬ Reported x := by
  rcases h with ⟨-, hnone⟩ | ⟨f', hescapes, rfl⟩
  · exact absurd hf (hnone f)
  · rintro (⟨a, ha⟩ | ⟨r, hr, -⟩)
    · cases ha
    · exact hnever f' hescapes r (Except.error.inj hr)

end Outcomes

namespace Layers

variable {fs : Files} {path : String} {f : Failure}

/-- The failures to read a configuration file that are not reported. -/
inductive Escapes (fs : Files) (path : String) : Failure → Prop
  /-- The path leads to a directory. -/
  | directory {l : Location} : fs.locate path = .ok l → fs.at? l = some .directory →
    Escapes fs path (.isDirectory path)
  /-- The path leads through a file. -/
  | throughFile : fs.ThroughFile path (fs.start path) (Path.parts path) → Escapes fs path (.notDirectory path)
  /-- The bytes of the file are no text. -/
  | bytes {l : Location} {bytes : List UInt8} {m : Utf8.Misfit} : fs.locate path = .ok l →
    fs.at? l = some (.file bytes) → Utf8.decode? bytes = .error m → Escapes fs path (.notUtf8 m)
  /-- The text holds a number or a time that there is not. -/
  | value {text : String} : fs.readText path = .ok text → Yaml.parse? text = .error .badValue →
    Escapes fs path .badValue

/-! ### One file -/

section Reading

/-- What reading a text comes to, told from where the path leads. -/
theorem readText_eq (fs : Files) (path : String) :
    fs.readText path =
      match fs.locate path with
      | .error f => .error f
      | .ok l =>
        match fs.at? l with
        | some (.file bytes) => Files.textOf bytes
        | some .directory => .error (.isDirectory path)
        | none => .error (.fileNotFound path) := by
  unfold Files.readText Files.read
  cases fs.locate path with
  | error f => rfl
  | ok l =>
    cases hat : fs.at? l with
    | none => simp [bind, Except.bind, hat]
    | some e => cases e <;> simp [bind, Except.bind, pure, Except.pure, hat]

/-- A text is read from a file, or there is nothing, or the failure escapes. -/
theorem readText_cases (fs : Files) (path : String) :
    (∃ text, fs.readText path = .ok text) ∨ fs.readText path = .error (.fileNotFound path) ∨
      ∃ f, Escapes fs path f ∧ fs.readText path = .error f := by
  rw [readText_eq]
  rcases Files.walk_cases (fs.start path) (Path.parts path) with ⟨l, hl, -⟩ | ⟨hwalk, -⟩ | ⟨hwalk, hthrough⟩
  · rw [Files.locate, hl]
    cases hat : fs.at? l with
    | none => exact .inr (.inl (by simp [hat]))
    | some e =>
      cases e with
      | directory => exact .inr (.inr ⟨_, .directory hl hat, by simp [hat]⟩)
      | file bytes =>
        simp only [hat, Files.textOf]
        cases hdecode : Utf8.decode? bytes with
        | ok cs => exact .inl ⟨_, rfl⟩
        | error m => exact .inr (.inr ⟨_, .bytes hl hat hdecode, rfl⟩)
  · rw [Files.locate, hwalk]
    exact .inr (.inl rfl)
  · rw [Files.locate, hwalk]
    exact .inr (.inr ⟨_, .throughFile hthrough, rfl⟩)

/-- A text that is read is a mapping or reported, or a value in it does not exist. -/
theorem readMapping_cases (path text : String) :
    Reported (readMapping path text) ∨ Yaml.parse? text = .error .badValue := by
  unfold readMapping
  split
  · exact .inl (.inr ⟨_, rfl, rfl⟩)
  · exact .inr ‹_›
  · split
    · exact .inl (.ok _)
    · exact .inl (.ok _)
    · exact .inl (.inr ⟨_, rfl, rfl⟩)

/-- What escapes is the outcome of reading, and is not reported. -/
theorem Escapes.readFile_eq (h : Escapes fs path f) : readFile fs path = .error f ∧ ∀ r, f ≠ .reported r := by
  cases h with
  | directory hl hat => exact ⟨by rw [readFile, readText_eq, hl]; simp only [hat], by simp⟩
  | throughFile hthrough =>
    rcases Files.walk_cases (fs.start path) (Path.parts path) with ⟨l, -, hnot⟩ | ⟨-, hnot⟩ | ⟨hwalk, -⟩
    · exact absurd hthrough hnot
    · exact absurd hthrough hnot
    · exact ⟨by rw [readFile, readText_eq, Files.locate, hwalk], by simp⟩
  | bytes hl hat hdecode =>
    exact ⟨by rw [readFile, readText_eq, hl]; simp only [hat, Files.textOf, hdecode], by simp⟩
  | value htext hparse => exact ⟨by rw [readFile, htext]; simp only [readMapping, hparse], by simp⟩

/-- **Reading a file is reported unless its failure escapes.** -/
theorem reportedUnless_readFile (fs : Files) (path : String) :
    ReportedUnless (Escapes fs path) (readFile fs path) := by
  by_cases hescapes : ∃ f, Escapes fs path f
  · obtain ⟨f, hf⟩ := hescapes
    exact .inr ⟨f, hf, hf.readFile_eq.1⟩
  · refine .inl ⟨?_, not_exists.mp hescapes⟩
    rcases readText_cases fs path with ⟨text, htext⟩ | hnone | ⟨f, hf, -⟩
    · rw [readFile, htext]
      rcases readMapping_cases path text with hreported | hparse
      · exact hreported
      · exact absurd ⟨_, .value htext hparse⟩ hescapes
    · rw [readFile, hnone]
      exact .inr ⟨_, rfl, rfl⟩
    · exact absurd ⟨f, hf⟩ hescapes

end Reading

/-! ### Several files -/

section Merging

/-- Merging fails just when and as reading does. -/
theorem reportedUnless_merge (fs : Files) (l : Layers) (path : String) :
    ReportedUnless (Escapes fs (Path.normal path)) (l.merge fs path).2 := by
  refine (reportedUnless_readFile fs (Path.normal path)).of_same ?_
  obtain ⟨f, hread, heq⟩ | ⟨m, hread, heq⟩ := merge_cases fs l path
  · exact .inr ⟨f, hread, by rw [heq]⟩
  · exact .inl ⟨m, _, hread, by rw [heq]⟩

/-- Loading fails just when and as merging the file does that is loaded. -/
theorem reportedUnless_load (fs : Files) (l : Layers) (path : Option String) :
    ReportedUnless (fun f => ∃ p, path.or l.usual = some p ∧ Escapes fs (Path.normal p) f) (l.load fs path).2 := by
  obtain ⟨hnone, heq⟩ | ⟨p, hsome, heq⟩ := load_cases fs l path
  · rw [heq]
    exact .inl ⟨.ok _, fun f ⟨p, hp, _⟩ => by simp [hnone] at hp⟩
  · rw [heq]
    simpa [hsome] using reportedUnless_merge fs { usual := l.usual } p

/-- The failure of the first file that cannot be read escapes. -/
def EscapesAmong (fs : Files) : List String → Failure → Prop
  | [], _ => False
  | path :: paths, f =>
    Escapes fs (Path.normal path) f ∨ ((∃ m, readFile fs (Path.normal path) = .ok m) ∧ EscapesAmong fs paths f)

theorem reportedUnless_foldlM (fs : Files) (l : Layers) (paths : List String) :
    ReportedUnless (EscapesAmong fs paths) (paths.foldlM (withFile fs) l) := by
  induction paths generalizing l with
  | nil => exact .inl ⟨.ok l, fun f => id⟩
  | cons path paths ih =>
    rw [List.foldlM_cons]
    have hread := reportedUnless_readFile fs (Path.normal path)
    obtain ⟨f, hfile, heq⟩ | ⟨m, hfile, heq⟩ := merge_cases fs l path
    · -- the first file cannot be read
      have hwith : withFile fs l path = .error f := by
        dsimp only [withFile]
        rw [heq]
        rfl
      have hamong : ∀ f', EscapesAmong fs (path :: paths) f' ↔ Escapes fs (Path.normal path) f' := by
        intro f'
        simp [EscapesAmong, hfile]
      rw [hwith]
      simp only [ReportedUnless, hamong]
      exact hread.of_same (.inr ⟨f, hfile, rfl⟩)
    · have hamong : ∀ f', EscapesAmong fs (path :: paths) f' ↔ EscapesAmong fs paths f' := by
        intro f'
        have hnot : ¬ Escapes fs (Path.normal path) f' := fun h => by
          rw [h.readFile_eq.1] at hfile
          cases hfile
        simp [EscapesAmong, hfile, hnot]
      rw [withFile_eq_ok hfile]
      simp only [ReportedUnless, hamong]
      exact ih _

/-- **The first file that cannot be read decides** what putting files together comes to. -/
theorem reportedUnless_ofFiles (fs : Files) (paths : List String) :
    ReportedUnless (EscapesAmong fs paths) (ofFiles fs paths) :=
  reportedUnless_foldlM fs {} paths

/-- Nothing that reads the file at a path reports a failure of the configuration. -/
structure Silent (fs : Files) (path : String) : Prop where
  /-- The file is read. -/
  readFile : ¬ Reported (Layers.readFile fs path)
  /-- The file is put over layers. -/
  merge : ¬ Reported (Layers.merge fs {} path).2
  /-- The file is loaded. -/
  load : ¬ Reported (Layers.load fs {} (some path)).2
  /-- The file is all that layers are made of. -/
  ofFiles : ¬ Reported (Layers.ofFiles fs [path])

theorem silent_of_escapes {fs : Files} {path : String} {f : Failure} (hnormal : Path.normal path = path)
    (hf : Escapes fs path f) : Silent fs path := by
  have hnever : ∀ path f, Escapes fs path f → ∀ r, f ≠ .reported r := fun _ _ h => h.readFile_eq.2
  constructor
  case readFile => exact (reportedUnless_readFile _ _).not_reported (hnever path) hf
  case merge => exact (reportedUnless_merge _ _ _).not_reported (hnever _) (hnormal.symm ▸ hf)
  case load =>
    exact (reportedUnless_load _ _ _).not_reported (fun f ⟨_, _, h⟩ => hnever _ f h)
      ⟨path, rfl, hnormal.symm ▸ hf⟩
  case ofFiles =>
    refine (reportedUnless_ofFiles _ _).not_reported ?_ (.inl (hnormal.symm ▸ hf))
    rintro f (h | ⟨-, h⟩)
    · exact hnever _ f h
    · exact absurd h id

end Merging

end Layers

/-! ## Settings -/

namespace Settings

open Layers

/-- **Files that cannot be read are reported, but for some.**  Reading or merging a file, loading one and putting
several together gives a result or reports a failure of the configuration, just if no failure escapes.  One does
where the path of the file, or of the first one that cannot be read, leads to a directory or through a file, where
the bytes are no text, and where the text has a number or a time that there is not.  Then it is the outcome, also
for the settings from these files. -/
theorem reported_unless_escapes (fs : Files) :
    (∀ path, ReportedUnless (Escapes fs path) (readFile fs path)) ∧
    (∀ (l : Layers) (path : String), ReportedUnless (Escapes fs (Path.normal path)) (l.merge fs path).2) ∧
    (∀ (l : Layers) (path : Option String),
      ReportedUnless (fun f => ∃ p, path.or l.usual = some p ∧ Escapes fs (Path.normal p) f) (l.load fs path).2) ∧
    (∀ paths, ReportedUnless (EscapesAmong fs paths) (Layers.ofFiles fs paths)) ∧
    ∀ (around : Surroundings) (paths : List String) (f : Failure),
      Layers.ofFiles around.files paths = .error f → Settings.ofFiles around paths = .error f := by
  refine ⟨reportedUnless_readFile fs, reportedUnless_merge fs, reportedUnless_load fs, reportedUnless_ofFiles fs,
    fun around paths f hfiles => ?_⟩
  rw [Settings.ofFiles, hfiles]
  rfl

/-- A file that is no text, and a directory. -/
def unreadableFiles : Files :=
  .ofList [("c.yaml", [0xFF]), ("d/x.yaml", [])]

theorem escapes_unreadableFiles :
    Escapes unreadableFiles "c.yaml" (.notUtf8 ⟨.badStart, 0, 1, 0xFF⟩) ∧
    Escapes unreadableFiles "d" (.isDirectory "d") ∧
    Escapes unreadableFiles "c.yaml/x" (.notDirectory "c.yaml/x") := by
  have hbytes : Utf8.decode? [0xFF] = .error ⟨.badStart, 0, 1, 0xFF⟩ := by
    rw [Utf8.decode?, Utf8.decodeFrom]
    rfl
  exact ⟨.bytes (l := ["c.yaml"]) rfl (by decide) hbytes, .directory (l := ["d"]) rfl (by decide),
    .throughFile ⟨[], "c.yaml", ["x"], ["c.yaml"], [0xFF], by decide, by decide, by decide, rfl, by decide⟩⟩

/-- **Failures escape** for bytes that are no text, for a directory, and for a path through a file. -/
theorem unreported_unreadableFiles :
    Silent unreadableFiles "c.yaml" ∧ Silent unreadableFiles "d" ∧ Silent unreadableFiles "c.yaml/x" := by
  obtain ⟨hbytes, hdirectory, hthrough⟩ := escapes_unreadableFiles
  exact ⟨silent_of_escapes (by decide) hbytes, silent_of_escapes (by decide) hdirectory,
    silent_of_escapes (by decide) hthrough⟩

end Settings

end SourceOutline
