import SourceOutline.Proofs.Files.Path
import SourceOutline.Proofs.Handler.Registry

/-!
# Extensions that are found

An extension is registered in lower case and with a dot at its front. A path is looked up by what stands
behind the last dot of its last component, so the two meet only if the extension has no other dot.

* `IsEnding`: a file name can end so; `normalExtension_cases` tells it from the registered form.
* `extensionOf_of_name`: a file name that ends with such an extension, behind something, has this extension.
* `extensionOf_ne`: no path at all has another one.

Main statement: `register_serves_endings`.
-/

namespace SourceOutline

namespace HandlerRegistry

/-- A file name can have the extension: it has no dot but one at its front, and something behind that. -/
def IsEnding (ext : String) : Prop :=
  ext ≠ "" ∧ ext ≠ "." ∧ '.' ∉ ext.toList.tail

instance (ext : String) : Decidable (IsEnding ext) := inferInstanceAs (Decidable (_ ∧ _ ∧ _))

/-! ## The registered form -/

section Registered

variable {ext : String}

/-- With its dot, an extension is put in lower case behind it. -/
theorem normalExtension_of_dot {r : List Char} (h : ext.toList = '.' :: r) :
    normalExtension ext = "." ++ .ofList (Text.lowerAfter ['.'] r) := by
  have hlower : (Text.lower ext).toList = '.' :: Text.lowerAfter ['.'] r := by
    rw [Text.lower, String.toList_ofList, h, Text.lowerAfter_dot]
  unfold normalExtension
  dsimp only
  rw [hlower, if_pos (by simp [List.isPrefixOf]), ← String.toList_inj, hlower]
  simp

/-- Without its dot, an extension gets one, since lower case does not make any. -/
theorem normalExtension_of_not_dot (h : ¬ ['.'].isPrefixOf ext.toList = true) :
    normalExtension ext = "." ++ Text.lower ext := by
  have hlower : ¬ ['.'].isPrefixOf (Text.lower ext).toList = true := by
    rw [Text.lower, String.toList_ofList]
    exact fun hfront => h (Text.dot_isPrefixOf_lowerAfter hfront)
  exact if_neg hlower

/-- What stands behind the dot of a registered extension has as many dots as the extension had behind its
first character, none or some. -/
theorem normalExtension_cases (ext : String) :
    ∃ ending, normalExtension ext = "." ++ ending ∧
      (IsEnding ext ↔ ending ≠ "" ∧ '.' ∉ ending.toList) := by
  cases hext : ext.toList with
  | nil =>
    obtain rfl : ext = "" := by simpa using hext
    exact ⟨"", by decide, by decide⟩
  | cons c r =>
    have hne : ext ≠ "" := by
      rintro rfl
      cases hext
    have hdot : ext = "." ↔ c = '.' ∧ r = [] := by
      rw [← String.toList_inj, hext]
      simp
    by_cases hc : c = '.'
    · subst hc
      refine ⟨_, normalExtension_of_dot hext, ?_⟩
      simp [IsEnding, hext, hne, hdot, Text.dot_mem_lowerAfter, Text.lowerAfter_eq_nil_iff]
    · have hfront : ¬ ['.'].isPrefixOf ext.toList = true := by simp [hext, List.isPrefixOf, Ne.symm hc]
      have hlower : (Text.lower ext).toList = Text.lowerAfter [] (c :: r) := by
        rw [Text.lower, String.toList_ofList, hext]
      have hnonempty : Text.lower ext ≠ "" := by
        rw [ne_eq, ← String.toList_inj, hlower]
        simp [Text.lowerAfter_eq_nil_iff]
      refine ⟨_, normalExtension_of_not_dot hfront, ?_⟩
      rw [hlower, Text.dot_mem_lowerAfter]
      simp [IsEnding, hext, hne, hdot, hnonempty, hc, Ne.symm hc]

/-- A registered extension is in lower case. -/
theorem lower_normalExtension (ext : String) : Text.lower (normalExtension ext) = normalExtension ext := by
  have hcapital : ∀ c ∈ (Text.lower ext).toList, ¬ Text.IsCapital c := by
    intro c hc
    rw [Text.lower, String.toList_ofList] at hc
    exact Text.not_isCapital_of_mem_lowerAfter hc
  unfold normalExtension
  dsimp only
  split
  · exact Text.lower_lower ext
  · refine Text.lower_of_not_isCapital fun c hc => ?_
    rw [String.toList_append, List.mem_append] at hc
    rcases hc with hc | hc
    · obtain rfl : c = '.' := by simpa using hc
      exact Text.not_isCapital_of_all (by decide +kernel)
    · exact hcapital c hc

end Registered

/-! ## The extension of a path -/

section Found

variable {ext path : String}

/-- A file name that ends with the registered form of an extension, behind something, is looked up by it. -/
theorem extensionOf_of_name (h : IsEnding ext) {stem : String} (hstem : stem ≠ "")
    (hname : Path.name path = stem ++ normalExtension ext) : extensionOf path = normalExtension ext := by
  obtain ⟨ending, hnormal, hending⟩ := normalExtension_cases ext
  obtain ⟨hnonempty, hdot⟩ := hending.mp h
  rw [hnormal, ← String.append_assoc] at hname
  rw [extensionOf, Path.suffix_of_name hname hstem hnonempty hdot, ← hnormal, lower_normalExtension]

/-- No path is looked up by an extension with a dot inside. -/
theorem extensionOf_ne (h : ¬ IsEnding ext) (path : String) : extensionOf path ≠ normalExtension ext := by
  obtain ⟨ending, hnormal, hending⟩ := normalExtension_cases ext
  rw [hnormal, extensionOf]
  intro heq
  rcases Path.suffix_cases path with hsuffix | ⟨found, hsuffix, hfound, hdot⟩
  · rw [hsuffix, ← String.toList_inj] at heq
    simp [Text.lower, Text.lowerAfter] at heq
  · have hlower : (Text.lower ("." ++ found)).toList = '.' :: Text.lowerAfter ['.'] found.toList := by
      rw [Text.lower, String.toList_ofList, String.toList_append]
      exact Text.lowerAfter_dot [] found.toList
    rw [hsuffix, ← String.toList_inj, hlower] at heq
    obtain ⟨-, htail⟩ : '.' = '.' ∧ Text.lowerAfter ['.'] found.toList = ending.toList := by simpa using heq
    refine h (hending.mpr ⟨?_, ?_⟩)
    · rintro rfl
      exact hfound (by simpa [Text.lowerAfter_eq_nil_iff] using htail)
    · rwa [← htail, Text.dot_mem_lowerAfter]

end Found

/-! ## Answers after a call -/

section Served

variable {r : HandlerRegistry} {language : String} {maker : Maker} {extensions : List String}

/-- The path has a handler by this maker, under the name of this language. -/
structure Serves (r : HandlerRegistry) (path language : String) (maker : Maker) : Prop where
  canHandle : r.canHandle path = true
  languageForPath : r.languageForPath path = .ok (Text.lower language)
  handlerForPath : ∀ options, r.handlerForPath path options = maker.make options

theorem get?_languageOf_register (ext : String) :
    (r.register language maker extensions).languageOf.get? ext =
      if ∃ e ∈ extensions, normalExtension e = ext then some (Text.lower language)
      else r.languageOf.get? ext := by
  have h := get?_languageOf_apply r ⟨language, maker, extensions⟩ ext
  simp only [Registration.lists_iff] at h
  exact h

/-- A path is served if it is looked up by an extension of the call. -/
theorem serves_of_extensionOf {path ext : String} (hmem : ext ∈ extensions)
    (hpath : extensionOf path = normalExtension ext) :
    Serves (r.register language maker extensions) path language maker := by
  have hlanguage : (r.register language maker extensions).languageForPath path = .ok (Text.lower language) := by
    rw [languageForPath_eq_ok_iff, get?_languageOf_register, if_pos ⟨ext, hmem, hpath.symm⟩]
  have hmaker : (r.register language maker extensions).makers.get? (Text.lower language) = some maker := by
    rw [register, Table.get?_set, if_pos rfl]
  exact {
    canHandle := canHandle_iff.mpr ⟨_, hlanguage⟩
    languageForPath := hlanguage
    handlerForPath := fun options => handlerForPath_of_maker hlanguage (Text.lower_lower language) hmaker }

/-- Extensions that no path is looked up by do not change what paths are looked up. -/
theorem get?_extensionOf_register_of_not_isEnding (h : ∀ e ∈ extensions, ¬ IsEnding e) (path : String) :
    (r.register language maker extensions).languageOf.get? (extensionOf path) =
      r.languageOf.get? (extensionOf path) := by
  rw [get?_languageOf_register, if_neg]
  rintro ⟨e, he, heq⟩
  exact extensionOf_ne (h e he) path heq.symm

/-- **What an extension is good for.** A call that registers an extension without a dot inside serves every
path whose last component is something followed by this extension. Extensions with a dot inside serve no
path at all: registering them leaves it as it was which paths are handled, and in which language. -/
theorem register_serves_endings (r : HandlerRegistry) (language : String) (maker : Maker)
    (extensions : List String) :
    let r' := r.register language maker extensions
    (∀ e ∈ extensions, IsEnding e → ∀ path stem, stem ≠ "" → Path.name path = stem ++ normalExtension e →
      Serves r' path language maker) ∧
    ((∀ e ∈ extensions, ¬ IsEnding e) → ∀ path, r'.canHandle path = r.canHandle path ∧
      ∀ l, r'.languageForPath path = .ok l ↔ r.languageForPath path = .ok l) := by
  intro r'
  refine ⟨fun e hmem he path stem hstem hname => ?_, fun h path => ?_⟩
  · exact serves_of_extensionOf hmem (extensionOf_of_name he hstem hname)
  · have hsame : r'.languageOf.get? (extensionOf path) = r.languageOf.get? (extensionOf path) :=
      get?_extensionOf_register_of_not_isEnding h path
    refine ⟨?_, fun l => ?_⟩
    · rw [canHandle, Table.has, hsame, canHandle, Table.has]
    · rw [languageForPath_eq_ok_iff, hsame, languageForPath_eq_ok_iff]

/-- An extension in capitals and without its dot, below a directory. -/
theorem serves_upper_stub :
    IsEnding "STB" ∧ Path.name "a.b/x.y.stb" = "x.y" ++ normalExtension "STB" ∧
      Serves (empty.register "Stub" .stub ["STB"]) "a.b/x.y.stb" "Stub" .stub := by
  have hending : IsEnding "STB" := by decide
  have hname : Path.name "a.b/x.y.stb" = "x.y" ++ normalExtension "STB" := by decide +kernel
  exact ⟨hending, hname, (register_serves_endings empty "Stub" .stub ["STB"]).1 "STB" (by simp) hending
    "a.b/x.y.stb" "x.y" (by decide) hname⟩

/-- **A registered extension that is not found**: it has a dot inside. -/
theorem exists_extension_not_served :
    ∃ e stem path, e ≠ "" ∧ '/' ∉ e.toList ∧ e.toList.getLast? ≠ some '.' ∧ stem ≠ "" ∧
      Path.name path = stem ++ normalExtension e ∧
      (empty.register "typescript" .stub [e]).extensions = [e] ∧
      (empty.register "typescript" .stub [e]).canHandle path = false :=
  ⟨".d.ts", "x", "x.d.ts", by decide +kernel⟩

end Served

end HandlerRegistry

end SourceOutline
