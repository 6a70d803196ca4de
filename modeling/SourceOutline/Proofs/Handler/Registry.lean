import Mathlib.Data.List.Nodup
import SourceOutline.Handler.Registry
import SourceOutline.Proofs.Table
import SourceOutline.Proofs.Text.Case

/-!
# What a registry answers

A registry has two tables, and every call changes both: the maker of a language is replaced, while an
extension may move from one language to another. What the registry then answers depends on the calls
only through the last one that lists an extension and the last one that is about a language.

* `get?_languageOf_registerAll`, `get?_makers_registerAll`: the tables after any calls.
* `Linked`: languages and extensions stand in lower case, and every extension belongs to a language
  that has a maker; `linked_registerAll` is its run lemma.
* `nodup_flatMap_extensionsOf`, `flatMap_extensionsOf_perm`: the extensions are divided among the languages.

Main statement: `reflects_registerAll`.
-/

namespace SourceOutline

/-- A call that registers a language. -/
structure Registration where
  language : String
  maker : Maker
  extensions : List String := []

namespace Registration

/-- The name under which the language is registered. -/
def key (c : Registration) : String :=
  Text.lower c.language

/-- The call lists an extension, in one spelling or another. -/
def lists (c : Registration) (ext : String) : Bool :=
  c.extensions.any fun e => normalExtension e = ext

/-- The last call that lists an extension. -/
def lastListing (calls : List Registration) (ext : String) : Option Registration :=
  (calls.filter (·.lists ext)).getLast?

/-- The last call about a language. -/
def lastAbout (calls : List Registration) (language : String) : Option Registration :=
  (calls.filter fun c => c.key = language).getLast?

theorem lists_iff {c : Registration} {ext : String} :
    c.lists ext = true ↔ ∃ e ∈ c.extensions, normalExtension e = ext := by
  simp [lists]

theorem lastListing_concat (calls : List Registration) (c : Registration) (ext : String) :
    lastListing (calls ++ [c]) ext = if c.lists ext then some c else lastListing calls ext := by
  by_cases h : c.lists ext <;> simp [lastListing, List.filter_append, h]

theorem lastAbout_concat (calls : List Registration) (c : Registration) (language : String) :
    lastAbout (calls ++ [c]) language = if c.key = language then some c else lastAbout calls language := by
  by_cases h : c.key = language <;> simp [lastAbout, List.filter_append, h]

theorem lastListing_eq_none_iff {calls : List Registration} {ext : String} :
    lastListing calls ext = none ↔ ∀ c ∈ calls, c.lists ext = false := by
  simp [lastListing]

end Registration

namespace HandlerRegistry

open Registration (lastListing lastAbout)

/-- Makes a call. -/
def apply (r : HandlerRegistry) (c : Registration) : HandlerRegistry :=
  r.register c.language c.maker c.extensions

/-- Makes calls one after another. -/
def registerAll (r : HandlerRegistry) (calls : List Registration) : HandlerRegistry :=
  calls.foldl apply r

/-- The calls for the languages that come with the program. -/
def bundledCalls : List Registration :=
  [{ language := "java", maker := .java, extensions := [".java"] },
    { language := "python", maker := .python, extensions := [".py", ".pyi"] }]

theorem registerAll_concat (r : HandlerRegistry) (calls : List Registration) (c : Registration) :
    r.registerAll (calls ++ [c]) = (r.registerAll calls).apply c := by
  simp [registerAll, List.foldl_append]

theorem registerAll_append (r : HandlerRegistry) (calls calls' : List Registration) :
    r.registerAll (calls ++ calls') = (r.registerAll calls).registerAll calls' :=
  List.foldl_append

theorem bundled_eq : bundled = empty.registerAll bundledCalls := rfl

/-! ## The tables after the calls -/

section Tables

variable (r : HandlerRegistry) (c : Registration) (calls : List Registration)

theorem get?_languageOf_apply (ext : String) :
    (r.apply c).languageOf.get? ext = if c.lists ext then some c.key else r.languageOf.get? ext := by
  simp only [apply, register, Table.get?_foldl_set, Registration.lists_iff]
  rfl

theorem get?_makers_apply (language : String) :
    (r.apply c).makers.get? language =
      if c.key = language then some c.maker else r.makers.get? language :=
  Table.get?_set ..

/-- The last call that lists an extension gives it its language. -/
theorem get?_languageOf_registerAll (ext : String) :
    (empty.registerAll calls).languageOf.get? ext = (lastListing calls ext).map Registration.key := by
  induction calls using List.reverseRecOn with
  | nil => rfl
  | append_singleton calls c ih =>
    rw [registerAll_concat, get?_languageOf_apply, Registration.lastListing_concat, ih]
    split <;> rfl

/-- The last call about a language gives it its maker. -/
theorem get?_makers_registerAll (language : String) :
    (empty.registerAll calls).makers.get? language =
      (lastAbout calls language).map Registration.maker := by
  induction calls using List.reverseRecOn with
  | nil => rfl
  | append_singleton calls c ih =>
    rw [registerAll_concat, get?_makers_apply, Registration.lastAbout_concat, ih]
    split <;> rfl

end Tables

/-! ## The link between the tables -/

section Linked

/-- Languages stand in lower case, no key is given twice, and the language of an extension has a maker. -/
structure Linked (r : HandlerRegistry) : Prop where
  lower_language : ∀ l ∈ r.makers.keys, Text.lower l = l
  nodup_languages : r.makers.keys.Nodup
  nodup_extensions : r.languageOf.keys.Nodup
  mem_languages : ∀ ext l, r.languageOf.get? ext = some l → l ∈ r.makers.keys

variable {r : HandlerRegistry}

theorem linked_empty : Linked empty where
  lower_language := by simp [empty, Table.keys]
  nodup_languages := List.nodup_nil
  nodup_extensions := List.nodup_nil
  mem_languages := by simp [empty]

theorem Linked.apply (h : Linked r) (c : Registration) : Linked (r.apply c) where
  lower_language l hl := by
    rcases Table.mem_keys_set.mp hl with rfl | hl
    · exact Text.lower_lower c.language
    · exact h.lower_language l hl
  nodup_languages := Table.nodup_keys_set h.nodup_languages ..
  nodup_extensions := Table.nodup_keys_foldl_set _ _ _ h.nodup_extensions
  mem_languages ext l hl := by
    rw [get?_languageOf_apply] at hl
    refine Table.mem_keys_set.mpr ?_
    split at hl
    · exact .inl (Option.some.inj hl).symm
    · exact .inr (h.mem_languages ext l hl)

theorem linked_registerAll (calls : List Registration) : Linked (empty.registerAll calls) := by
  induction calls using List.reverseRecOn with
  | nil => exact linked_empty
  | append_singleton calls c ih =>
    rw [registerAll_concat]
    exact ih.apply c

/-- An extension belongs to a language with a maker. -/
theorem Linked.exists_maker (h : Linked r) {ext l : String} (hext : r.languageOf.get? ext = some l) :
    ∃ m, r.makers.get? l = some m :=
  Option.isSome_iff_exists.mp (Table.has_iff.mpr (h.mem_languages ext l hext))

end Linked

/-! ## Extensions by language -/

section Extensions

variable {r : HandlerRegistry}

theorem sorted_perm (texts : List String) : (sorted texts).Perm texts :=
  List.mergeSort_perm ..

theorem mem_languages {l : String} : l ∈ r.languages ↔ l ∈ r.makers.keys :=
  (sorted_perm _).mem_iff

theorem mem_extensions {ext : String} : ext ∈ r.extensions ↔ ∃ l, r.languageOf.get? ext = some l := by
  rw [extensions, (sorted_perm _).mem_iff, ← Table.has_iff, Table.has, Option.isSome_iff_exists]

theorem mem_extensionsOf (h : Linked r) {ext l : String} :
    ext ∈ r.extensionsOf l ↔ r.languageOf.get? ext = some (Text.lower l) := by
  rw [extensionsOf, (sorted_perm _).mem_iff, Table.get?_eq_some_iff h.nodup_extensions]
  simp

theorem nodup_extensionsOf (h : Linked r) (l : String) : (r.extensionsOf l).Nodup :=
  (sorted_perm _).nodup_iff.mpr (h.nodup_extensions.sublist (List.filter_sublist.map _))

/-- No extension belongs to two languages. -/
theorem disjoint_extensionsOf (h : Linked r) {l l' : String} (hl : l ∈ r.languages)
    (hl' : l' ∈ r.languages) (hne : l ≠ l') : (r.extensionsOf l).Disjoint (r.extensionsOf l') := by
  intro ext hext hext'
  rw [mem_extensionsOf h, h.lower_language l (mem_languages.mp hl)] at hext
  rw [mem_extensionsOf h, h.lower_language l' (mem_languages.mp hl'), hext] at hext'
  exact hne (Option.some.inj hext')

theorem nodup_flatMap_extensionsOf (h : Linked r) : (r.languages.flatMap r.extensionsOf).Nodup := by
  have hlanguages : r.languages.Nodup := (sorted_perm _).nodup_iff.mpr h.nodup_languages
  refine List.nodup_flatMap.mpr ⟨fun l _ => nodup_extensionsOf h l, ?_⟩
  exact hlanguages.imp_of_mem fun hl hl' hne => disjoint_extensionsOf h hl hl' hne

/-- The extensions of all languages together are all extensions. -/
theorem flatMap_extensionsOf_perm (h : Linked r) :
    (r.languages.flatMap r.extensionsOf).Perm r.extensions := by
  have hextensions : r.extensions.Nodup := (sorted_perm _).nodup_iff.mpr h.nodup_extensions
  refine (List.perm_ext_iff_of_nodup (nodup_flatMap_extensionsOf h) hextensions).mpr fun ext => ?_
  rw [List.mem_flatMap, mem_extensions]
  constructor
  · rintro ⟨l, -, hext⟩
    exact ⟨_, (mem_extensionsOf h).mp hext⟩
  · rintro ⟨l, hext⟩
    have hl := h.mem_languages ext l hext
    refine ⟨l, mem_languages.mpr hl, (mem_extensionsOf h).mpr ?_⟩
    rw [h.lower_language l hl, hext]

end Extensions

/-! ## Paths -/

section Paths

variable {r : HandlerRegistry} {path : String}

theorem canHandle_iff : r.canHandle path = true ↔ ∃ l, r.languageForPath path = .ok l := by
  unfold canHandle languageForPath Table.has
  cases r.languageOf.get? (extensionOf path) <;> simp

theorem languageForPath_eq_ok_iff {l : String} :
    r.languageForPath path = .ok l ↔ r.languageOf.get? (extensionOf path) = some l := by
  unfold languageForPath
  cases r.languageOf.get? (extensionOf path) <;> simp

theorem languageForPath_eq_error_iff {f : Failure} :
    r.languageForPath path = .error f ↔ r.languageOf.get? (extensionOf path) = none ∧
      f = .reported (r.unknownExtension (extensionOf path)) := by
  unfold languageForPath
  cases r.languageOf.get? (extensionOf path) <;> simp [eq_comm]

theorem handlerForPath_of_error {f : Failure} {options : Options}
    (h : r.languageForPath path = .error f) : r.handlerForPath path options = .error f := by
  rw [handlerForPath, h]
  rfl

/-- A language that was found for a path is asked for as it is. -/
theorem handlerForPath_of_maker {l : String} {m : Maker} {options : Options}
    (h : r.languageForPath path = .ok l) (hlower : Text.lower l = l) (hm : r.makers.get? l = some m) :
    r.handlerForPath path options = m.make options := by
  show (r.languageForPath path >>= fun l => r.handlerFor l options) = _
  rw [h]
  show r.handlerFor l options = _
  rw [handlerFor, hlower, hm]

end Paths

/-! ## All answers -/

/-- What a registry answers, told from the calls that were made on it. -/
structure Reflects (r : HandlerRegistry) (calls : List Registration) : Prop where
  /-- The language for a path is that of the last call that lists its extension. -/
  languageForPath_ok : ∀ path l, r.languageForPath path = .ok l ↔
    (lastListing calls (extensionOf path)).map Registration.key = some l
  /-- There is no language for a path exactly if no call lists its extension, and this is reported. -/
  languageForPath_error : ∀ path f, r.languageForPath path = .error f ↔
    (∀ c ∈ calls, c.lists (extensionOf path) = false) ∧
      f = .reported (r.unknownExtension (extensionOf path))
  /-- These are the paths that cannot be handled. -/
  canHandle : ∀ path, r.canHandle path = false ↔ ∀ c ∈ calls, c.lists (extensionOf path) = false
  /-- Every language of an extension has a maker. -/
  exists_maker : ∀ ext l, r.languageOf.get? ext = some l → ∃ m, r.makers.get? l = some m
  /-- The look-up of a handler fails for these paths. -/
  handlerForPath_unknown : ∀ path options, r.canHandle path = false →
    r.handlerForPath path options = .error (.reported (r.unknownExtension (extensionOf path)))
  /-- For the others the maker is called that was last registered for the language. -/
  handlerForPath_known : ∀ path options, r.canHandle path = true →
    ∃ l c, r.languageForPath path = .ok l ∧ lastAbout calls l = some c ∧
      r.handlerForPath path options = c.maker.make options
  /-- Different languages have no extension in common. -/
  disjoint : ∀ l ∈ r.languages, ∀ l' ∈ r.languages, l ≠ l' →
    (r.extensionsOf l).Disjoint (r.extensionsOf l')
  /-- Together they have all extensions, each of them once. -/
  together : (r.languages.flatMap r.extensionsOf).Perm r.extensions

theorem reflects_of_empty (calls : List Registration) : Reflects (empty.registerAll calls) calls := by
  have hlinked := linked_registerAll calls
  have hnone : ∀ path, (empty.registerAll calls).languageOf.get? (extensionOf path) = none ↔
      ∀ c ∈ calls, c.lists (extensionOf path) = false := fun path => by
    rw [get?_languageOf_registerAll, Option.map_eq_none_iff, Registration.lastListing_eq_none_iff]
  have herror : ∀ path f, (empty.registerAll calls).languageForPath path = .error f ↔ _ ∧ _ :=
    fun path f => by rw [languageForPath_eq_error_iff, hnone]
  have hcan : ∀ path, (empty.registerAll calls).canHandle path = false ↔
      ∀ c ∈ calls, c.lists (extensionOf path) = false := fun path => by
    rw [← hnone, HandlerRegistry.canHandle, Table.has, Option.isSome_eq_false_iff, Option.isNone_iff_eq_none]
  refine {
    languageForPath_ok := fun path l => by
      rw [languageForPath_eq_ok_iff, get?_languageOf_registerAll]
    languageForPath_error := herror
    canHandle := hcan
    exists_maker := fun ext l => hlinked.exists_maker
    handlerForPath_unknown := fun path options hpath =>
      handlerForPath_of_error ((herror path _).mpr ⟨(hcan path).mp hpath, rfl⟩)
    handlerForPath_known := fun path options hpath => ?_
    disjoint := fun l hl l' hl' => disjoint_extensionsOf hlinked hl hl'
    together := flatMap_extensionsOf_perm hlinked }
  obtain ⟨l, hl⟩ := canHandle_iff.mp hpath
  have hget := languageForPath_eq_ok_iff.mp hl
  obtain ⟨m, hm⟩ := hlinked.exists_maker hget
  have hlower := hlinked.lower_language l (hlinked.mem_languages _ l hget)
  have hlast := get?_makers_registerAll calls l
  rw [hm, eq_comm, Option.map_eq_some_iff] at hlast
  obtain ⟨c, hc, rfl⟩ := hlast
  exact ⟨l, c, hl, hc, handlerForPath_of_maker hl hlower hm⟩

/-- **A registry answers by the last calls.** After any calls on a registry that was made with or without
the languages that come with the program, the language for a path is that of the last call that lists
its extension, its handler is made by the maker that was last registered for this language, and the
extensions are divided among the languages. -/
theorem reflects_registerAll (withBundled : Bool) (calls : List Registration) :
    Reflects ((if withBundled then bundled else empty).registerAll calls)
      ((if withBundled then bundledCalls else []) ++ calls) := by
  cases withBundled with
  | false => exact reflects_of_empty calls
  | true =>
    have h := reflects_of_empty (bundledCalls ++ calls)
    rw [registerAll_append, ← bundled_eq] at h
    exact h

end HandlerRegistry

end SourceOutline
