import SourceOutline.Proofs.Command.Console

/-!
# Names on the screens

A screen is a list of texts that are read as markup: lines, titles, column headers and cells.
`fileLines` and `detailLines` cut each of them into words of the program, which are markup, and
names, which come from elsewhere and stand there escaped.

* `markups_parsedFile` and `markups_typeDetails`: the screens are these texts, for every file and
  every type, but for two places where a name stands like a word of the program: the language in
  the heading, and the name of the type in the title of its members.
* `names_shown_verbatim`: so each name is seen as it is, save what reads as a tag in those two.
-/

namespace SourceOutline

namespace Display

/-! ## Pieces of a text -/

/-- A piece of a text on a screen. -/
inductive Piece where
  /-- Words of the program, which are markup. -/
  | words (markup : String)
  /-- A name that is to be seen as it is. -/
  | name (text : String)

namespace Piece

/-- How a piece is written. -/
def markup : Piece → String
  | .words m => m
  | .name s => escape s

/-- What is to be seen of a piece. -/
def seen : Piece → String
  | .words m => plainText m
  | .name s => s

/-- Reading undoes the escaping of a name. -/
def Escapable : Piece → Prop
  | .words _ => True
  | .name s => Display.Escapable s

instance : DecidablePred Escapable
  | .words _ => .isTrue trivial
  | .name s => inferInstanceAs (Decidable (Display.Escapable s))

end Piece

/-- How a line is written. -/
def markupOf : List Piece → String
  | [] => ""
  | p :: ps => p.markup ++ markupOf ps

@[simp] theorem markupOf_one (p : Piece) : markupOf [p] = p.markup := String.append_empty

/-- What is to be seen of a line. -/
def seenOf : List Piece → String
  | [] => ""
  | p :: ps => p.seen ++ seenOf ps

/-! ### Reading a line piece by piece -/

/-- Nothing is being passed behind these words. -/
def Settled (w : String) : Prop :=
  ∀ r, readMarkup false 0 (w.toList ++ r) = readMarkup false 0 w.toList ++ readMarkup false 0 r

theorem toList_plainText (s : String) : (plainText s).toList = readMarkup false 0 s.toList :=
  String.toList_ofList

theorem plainText_words_cons {w : String} (hw : Settled w) (ps : List Piece) :
    plainText (markupOf (.words w :: ps)) = plainText w ++ plainText (markupOf ps) := by
  rw [← String.toList_inj, String.toList_append, toList_plainText, toList_plainText, toList_plainText,
    markupOf, String.toList_append]
  exact hw _

theorem plainText_name_cons {s : String} (hs : Escapable s) {ps : List Piece}
    (hr : Stops (markupOf ps).toList) :
    plainText (markupOf (.name s :: ps)) = s ++ plainText (markupOf ps) := by
  rw [← String.toList_inj, String.toList_append, toList_plainText, toList_plainText, markupOf,
    String.toList_append]
  exact readMarkup_escape hs hr

/-- A name that stands like words of the program. -/
theorem plainText_words_cons_iff {s : String} (hs : Escapable s) {ps : List Piece}
    (hr : Stops (markupOf ps).toList) :
    plainText (markupOf (.words s :: ps)) = s ++ plainText (markupOf ps) ↔ escape s = s := by
  rw [← String.toList_inj, String.toList_append, toList_plainText, toList_plainText, markupOf,
    String.toList_append]
  exact readMarkup_append_iff hs hr

theorem plainText_words (w : String) : plainText (markupOf [.words w]) = seenOf [.words w] := by
  simp [seenOf, Piece.markup, Piece.seen]

/-- A line of well-tagged words, or of a name, which may stand after two blanks. -/
inductive Simple : List Piece → Prop
  | nil : Simple []
  | words {w : String} (h : WellTagged w) : Simple [.words w]
  | name (s : String) : Simple [.name s]
  | indented (s : String) : Simple [.words "  ", .name s]

theorem settled_indent : Settled "  " := fun _ => rfl

theorem plainText_of_simple {l : List Piece} (hl : Simple l) (h : ∀ p ∈ l, p.Escapable) :
    plainText (markupOf l) = seenOf l := by
  have hname : ∀ s, Escapable s → plainText (markupOf [.name s]) = seenOf [.name s] := fun s hs =>
    plainText_name_cons hs stops_nil
  cases hl with
  | nil => rfl
  | words => exact plainText_words _
  | name s => exact hname s (h (.name s) (by simp))
  | indented s =>
    rw [plainText_words_cons settled_indent, hname s (h (.name s) (by simp))]
    rfl

/-! ### Words of the program -/

theorem bracket_not_mem_toDigits (n : ℕ) : '[' ∉ Nat.toDigits 10 n := fun h =>
  absurd (Nat.isDigit_of_mem_toDigits (by decide) (by decide) h) (by decide)

theorem wellTagged_types (n : ℕ) : WellTagged s!"Types ({n})" := by
  apply wellTagged_of_not_mem
  simp [toString, bracket_not_mem_toDigits n]

theorem wellTagged_imports (n : ℕ) : WellTagged s!"\n[green]Imports ({n}):[/]" := by
  have hplain : '[' ∉ ("Imports (" ++ toString n ++ "):").toList := by
    simp [bracket_not_mem_toDigits n]
  obtain ⟨k, hk⟩ := exists_tagsIn_append hplain 0 ['[', '/', ']']
  have htags : tagsIn 0 s!"\n[green]Imports ({n}):[/]".toList = ⟨"green", none⟩ :: tagsIn k ['[', '/', ']'] := by
    rw [← hk]
    simp [toString]
    rfl
  rw [WellTagged, htags]
  rcases tagsIn_close k [] with hclose | hclose <;> rw [hclose] <;> decide

theorem wellTagged_kind (k : TypeKind) : WellTagged k.word := by
  cases k <;> decide

theorem wellTagged_modifiers (m : Modifiers) : WellTagged (modifiers m) := by
  obtain ⟨isStatic, isFinal, isAbstract, visibility⟩ := m
  cases isStatic <;> cases isFinal <;> cases isAbstract <;> cases visibility <;> decide

/-- The column headers and the cells of a table. -/
def tableBody (columns : List (String × String)) (cells : List (List Piece)) : List (List Piece) :=
  columns.map (fun c => [.words c.1]) ++ cells

theorem markups_table {cells : List (List Piece)} {rows : List (List String)}
    (h : cells.map markupOf = rows.flatten) (title : String) (columns : List (String × String)) :
    (Shown.table title columns rows).markups = title :: (tableBody columns cells).map markupOf := by
  have hheaders : columns.map Prod.fst = (columns.map fun c => [Piece.words c.1]).map markupOf := by
    simp [Piece.markup, Function.comp_def]
  rw [Shown.markups, tableBody, List.map_append, h, hheaders]

/-- The heading. -/
def headingLine (path : String) (language : Piece) : List Piece :=
  [.words "[bold cyan]", .name path, .words "[/] [dim](", language, .words ")[/]"]

/-- The imports. -/
def importPieces (is : List Import) : List (List Piece) :=
  if is = [] then []
  else [.words s!"\n[green]Imports ({is.length}):[/]"] :: is.map fun i => [.words "  ", .name i.value]

/-- The cells for a type. -/
def typePieces (t : TypeDecl) : List (List Piece) :=
  [[.name t.qualifiedName], [.words t.kind.word], [.words (modifiers t.modifiers)],
    [.name (names t.superClasses)], [.name (names t.interfaces)]]

/-- The table of types. -/
def tablePieces (ts : List TypeDecl) : List (List Piece) :=
  if ts = [] then [[.words "\n[dim]No type declarations found.[/]"]]
  else [] :: [.words s!"Types ({ts.length})"] :: tableBody typeColumns (ts.flatMap typePieces)

/-- The texts on the screen for a file. -/
def fileLines (path : String) (language : Piece) (f : ParsedFile) : List (List Piece) :=
  [] :: headingLine path language :: (importPieces f.imports ++ tablePieces f.types)

theorem markups_importLines (is : List Import) :
    (importLines is).flatMap Shown.markups = (importPieces is).map markupOf := by
  unfold importLines importPieces
  split_ifs
  · rfl
  · have hline (i : Import) : markupOf [.words "  ", .name i.value] = "  " ++ escape i.value := by
      rw [markupOf, markupOf_one]
      rfl
    simp [List.flatMap_map, Shown.markups, Piece.markup, hline, ← List.map_eq_flatMap, Function.comp_def]

theorem map_markupOf_typePieces (t : TypeDecl) : (typePieces t).map markupOf = typeRow t := by
  simp [typePieces, typeRow, Piece.markup]

theorem markups_typeTable (ts : List TypeDecl) :
    (typeTable ts).flatMap Shown.markups = (tablePieces ts).map markupOf := by
  unfold typeTable tablePieces
  split_ifs
  · simp [Shown.markups, Piece.markup]
  · have hcells : (ts.flatMap typePieces).map markupOf = (ts.map typeRow).flatten := by
      rw [List.map_flatMap, funext map_markupOf_typePieces, List.flatMap_def]
    simp only [List.flatMap_cons, List.flatMap_nil, List.append_nil, List.map_cons, markupOf_one,
      markups_table hcells]
    rfl

/-- What the screen for a file is made of. -/
theorem markups_parsedFile (path language : String) (f : ParsedFile) :
    (parsedFile path language f).flatMap Shown.markups
      = (fileLines path (.words language) f).map markupOf := by
  have hheading : styled "bold cyan" (escape path) ++ " " ++ styled "dim" ("(" ++ language ++ ")")
      = markupOf (headingLine path (.words language)) := by
    rw [← String.toList_inj]
    simp [styled, toString, headingLine, markupOf, Piece.markup]
  rw [parsedFile, hheading, List.flatMap_append, List.flatMap_append, markups_importLines,
    markups_typeTable]
  simp [fileLines, Shown.markups, markupOf]

/-! ## Types with their members -/

/-- The cells for a field. -/
def fieldPieces (f : FieldDecl) : List (List Piece) :=
  [[.name f.name], [.words (modifiers f.modifiers)], [.name f.type.qualifiedName]]

/-- The cells for a method. -/
def methodPieces (m : MethodDecl) : List (List Piece) :=
  [[.name (m.name ++ "()")], [.words (modifiers m.modifiers)], [.name m.signature]]

/-- The cells for the members of a type. -/
def memberPieces (d : TypeDetails) : List (List Piece) :=
  d.members.fields.flatMap fieldPieces ++ d.members.methods.flatMap methodPieces

/-- The title of a table of members. -/
def titleLine (name : Piece) : List Piece := [name, .words " members"]

/-- The texts on the screen for types with their members, their names in the titles put as pieces. -/
def detailLines (title : String → Piece) (ds : List TypeDetails) : List (List Piece) :=
  ds.flatMap fun d =>
    [] :: titleLine (title d.type.qualifiedName) :: tableBody memberColumns (memberPieces d)

theorem map_markupOf_memberPieces (d : TypeDetails) :
    (memberPieces d).map markupOf
      = (d.members.fields.map fieldRow ++ d.members.methods.map methodRow).flatten := by
  have hfield (f : FieldDecl) : (fieldPieces f).map markupOf = fieldRow f := by
    simp [fieldPieces, fieldRow, Piece.markup]
  have hmethod (m : MethodDecl) : (methodPieces m).map markupOf = methodRow m := by
    simp [methodPieces, methodRow, Piece.markup]
  rw [memberPieces, List.map_append, List.map_flatMap, List.map_flatMap, funext hfield, funext hmethod,
    List.flatten_append, List.flatMap_def, List.flatMap_def]

theorem markupOf_titleLine (name : String) : markupOf (titleLine (.words name)) = s!"{name} members" := by
  rw [titleLine, markupOf, markupOf_one]
  rfl

/-- What the screen for types with their members is made of. -/
theorem markups_typeDetails (ds : List TypeDetails) :
    (typeDetails ds).flatMap Shown.markups = (detailLines .words ds).map markupOf := by
  rw [typeDetails, detailLines, List.flatMap_assoc, List.map_flatMap]
  congr 1
  funext d
  simp only [memberTable, List.flatMap_cons, List.flatMap_nil, List.append_nil, List.map_cons,
    markupOf_titleLine, markups_table (map_markupOf_memberPieces d)]
  rfl

/-! ## The lines of the screens -/

theorem simple_importPieces (is : List Import) : ∀ l ∈ importPieces is, Simple l := by
  intro l hl
  unfold importPieces at hl
  split_ifs at hl
  · exact absurd hl List.not_mem_nil
  · rcases List.mem_cons.mp hl with rfl | hl
    · exact .words (wellTagged_imports is.length)
    · obtain ⟨i, -, rfl⟩ := List.mem_map.mp hl
      exact .indented i.value

theorem simple_tableBody {cells : List (List Piece)} {columns : List (String × String)}
    (hcolumns : ∀ c ∈ columns, WellTagged c.1) (hcells : ∀ l ∈ cells, Simple l) :
    ∀ l ∈ tableBody columns cells, Simple l := by
  intro l hl
  rcases List.mem_append.mp hl with hl | hl
  · obtain ⟨c, hc, rfl⟩ := List.mem_map.mp hl
    exact .words (hcolumns c hc)
  · exact hcells l hl

theorem simple_tablePieces (ts : List TypeDecl) : ∀ l ∈ tablePieces ts, Simple l := by
  intro l hl
  unfold tablePieces at hl
  split_ifs at hl
  · rw [List.mem_singleton.mp hl]
    exact .words (by decide)
  rcases List.mem_cons.mp hl with rfl | hl
  · exact .nil
  rcases List.mem_cons.mp hl with rfl | hl
  · exact .words (wellTagged_types ts.length)
  refine simple_tableBody (by decide) (fun cell hcell => ?_) l hl
  obtain ⟨t, -, hcell⟩ := List.mem_flatMap.mp hcell
  simp only [typePieces, List.mem_cons, List.not_mem_nil, or_false] at hcell
  rcases hcell with rfl | rfl | rfl | rfl | rfl
  · exact .name _
  · exact .words (wellTagged_kind t.kind)
  · exact .words (wellTagged_modifiers t.modifiers)
  · exact .name _
  · exact .name _

theorem simple_memberPieces (d : TypeDetails) : ∀ l ∈ tableBody memberColumns (memberPieces d), Simple l := by
  refine simple_tableBody (by decide) fun cell hcell => ?_
  rcases List.mem_append.mp hcell with hcell | hcell
  · obtain ⟨f, -, hcell⟩ := List.mem_flatMap.mp hcell
    simp only [fieldPieces, List.mem_cons, List.not_mem_nil, or_false] at hcell
    rcases hcell with rfl | rfl | rfl
    · exact .name _
    · exact .words (wellTagged_modifiers f.modifiers)
    · exact .name _
  · obtain ⟨m, -, hcell⟩ := List.mem_flatMap.mp hcell
    simp only [methodPieces, List.mem_cons, List.not_mem_nil, or_false] at hcell
    rcases hcell with rfl | rfl | rfl
    · exact .name _
    · exact .words (wellTagged_modifiers m.modifiers)
    · exact .name _

/-! ## What can be shown -/

section Shows

variable (c : Console)

end Shows

/-! ## What is seen -/

/-- Reading undoes the escaping of each name on these lines. -/
def AllEscapable (ls : List (List Piece)) : Prop := ∀ l ∈ ls, ∀ p ∈ l, p.Escapable

instance (ls : List (List Piece)) : Decidable (AllEscapable ls) :=
  inferInstanceAs (Decidable (∀ l ∈ ls, ∀ p ∈ l, p.Escapable))

theorem map_plainText_of_simple {ls : List (List Piece)} (hs : ∀ l ∈ ls, Simple l) (h : AllEscapable ls) :
    ls.map (fun l => plainText (markupOf l)) = ls.map seenOf :=
  List.map_congr_left fun l hl => plainText_of_simple (hs l hl) (h l hl)

theorem settled_path : Settled "[bold cyan]" := fun _ => rfl

theorem settled_language : Settled "[/] [dim](" := fun _ => rfl

/-- The heading shows the language if nothing in it reads as a tag. -/
theorem plainText_headingLine_iff {path language : String} (hpath : Escapable path)
    (hlanguage : Escapable language) :
    plainText (markupOf (headingLine path (.words language))) = seenOf (headingLine path (.name language)) ↔
      escape language = language := by
  have hclose : Stops (markupOf [.words ")[/]"]).toList := ⟨rfl, by decide⟩
  have hopen : Stops (markupOf [.words "[/] [dim](", .words language, .words ")[/]"]).toList := by
    rw [markupOf, String.toList_append]
    exact ⟨rfl, by simp [Piece.markup, isBracket]⟩
  rw [headingLine, plainText_words_cons settled_path, plainText_name_cons hpath hopen,
    plainText_words_cons settled_language, ← plainText_words_cons_iff hlanguage hclose, plainText_words]
  simp only [headingLine, seenOf, Piece.seen, String.append_right_inj]

/-- The title shows the name of a type if nothing in it reads as a tag. -/
theorem plainText_titleLine_iff {name : String} (hname : Escapable name) :
    plainText (markupOf (titleLine (.words name))) = seenOf (titleLine (.name name)) ↔ escape name = name := by
  have hmembers : Stops (markupOf [.words " members"]).toList := ⟨rfl, by decide⟩
  rw [titleLine, ← plainText_words_cons_iff hname hmembers, plainText_words]
  simp only [titleLine, seenOf, Piece.seen]

theorem map_plainText_fileLines_iff {path language : String} {f : ParsedFile}
    (h : AllEscapable (fileLines path (.name language) f)) :
    (fileLines path (.words language) f).map (fun l => plainText (markupOf l))
        = (fileLines path (.name language) f).map seenOf ↔ escape language = language := by
  have hheading : ∀ p ∈ headingLine path (.name language), p.Escapable := h _ (by simp [fileLines])
  have hpath : Escapable path := hheading (.name path) (by simp [headingLine])
  have hlanguage : Escapable language := hheading (.name language) (by simp [headingLine])
  have hsimple : ∀ l ∈ importPieces f.imports ++ tablePieces f.types, Simple l := by
    intro l hl
    rcases List.mem_append.mp hl with hl | hl
    · exact simple_importPieces f.imports l hl
    · exact simple_tablePieces f.types l hl
  have hrest := map_plainText_of_simple hsimple fun l hl => h l (by simp [fileLines, List.mem_append.mp hl])
  rw [← plainText_headingLine_iff hpath hlanguage, fileLines, fileLines]
  simp only [List.map_cons, hrest, List.cons.injEq, and_true]
  exact and_iff_right rfl

theorem map_plainText_detailLines_iff {ds : List TypeDetails} (h : AllEscapable (detailLines .name ds)) :
    (detailLines .words ds).map (fun l => plainText (markupOf l)) = (detailLines .name ds).map seenOf ↔
      ∀ d ∈ ds, escape d.type.qualifiedName = d.type.qualifiedName := by
  induction ds with
  | nil => simp [detailLines]
  | cons d ds ih =>
    have hblock : AllEscapable ([] :: titleLine (.name d.type.qualifiedName)
        :: tableBody memberColumns (memberPieces d)) := fun l hl => h l (List.mem_append_left _ hl)
    have hmore : AllEscapable (detailLines .name ds) := fun l hl => h l (List.mem_append_right _ hl)
    have hname : Escapable d.type.qualifiedName :=
      hblock (titleLine (.name d.type.qualifiedName)) (by simp) (.name d.type.qualifiedName)
        (by simp [titleLine])
    have hbody := map_plainText_of_simple (simple_memberPieces d) fun l hl => hblock l (by simp [hl])
    have hcons (title : String → Piece) : detailLines title (d :: ds)
        = [] :: titleLine (title d.type.qualifiedName)
          :: (tableBody memberColumns (memberPieces d) ++ detailLines title ds) := rfl
    rw [hcons, hcons, List.forall_mem_cons, ← ih hmore, ← plainText_titleLine_iff hname]
    simp only [List.map_cons, List.map_append, hbody, List.cons.injEq, List.append_right_inj]
    exact and_iff_right rfl

/-- Which names are shown as they are: every string on the two screens that comes from elsewhere is
escaped, except the language in the heading and the name of a type in the title of its members.
Where reading undoes escaping, all of the rest is seen verbatim, and these two are seen so exactly
when there is nothing to escape in them. -/
theorem names_shown_verbatim (path language : String) (f : ParsedFile) (ds : List TypeDetails) :
    let file := (parsedFile path language f).flatMap Shown.markups
    let details := (typeDetails ds).flatMap Shown.markups
    file = (fileLines path (.words language) f).map markupOf ∧
    details = (detailLines .words ds).map markupOf ∧
    (AllEscapable (fileLines path (.name language) f) →
      (file.map plainText = (fileLines path (.name language) f).map seenOf ↔ escape language = language)) ∧
    (AllEscapable (detailLines .name ds) →
      (details.map plainText = (detailLines .name ds).map seenOf ↔
        ∀ d ∈ ds, escape d.type.qualifiedName = d.type.qualifiedName)) := by
  intro file details
  have hfile : file = (fileLines path (.words language) f).map markupOf := markups_parsedFile path language f
  have hdetails : details = (detailLines .words ds).map markupOf := markups_typeDetails ds
  refine ⟨hfile, hdetails, fun h => ?_, fun h => ?_⟩
  · rw [hfile, List.map_map]
    exact map_plainText_fileLines_iff h
  · rw [hdetails, List.map_map]
    exact map_plainText_detailLines_iff h

/-! ### Names in brackets -/

/-- A type whose package has a name that reads as a tag. -/
def bracketed : TypeDetails where
  type := ⟨⟨"pages.[id]"⟩, "Page", {}, .classType, [], []⟩

/-- The package stands escaped among the types, and as a tag in the title. -/
theorem bracketed_shown :
    let f : ParsedFile := ⟨[⟨"pages.[id]"⟩], [bracketed.type]⟩
    ((parsedFile "pages/[id]/page.py" "python" f).flatMap Shown.markups).map plainText
        = (fileLines "pages/[id]/page.py" (.name "python") f).map seenOf ∧
      ((typeDetails [bracketed]).flatMap Shown.markups).map plainText
        ≠ (detailLines .name [bracketed]).map seenOf := by
  intro f
  have hfile : AllEscapable (fileLines "pages/[id]/page.py" (.name "python") f) := by
    decide +kernel
  have hdetails : AllEscapable (detailLines .name [bracketed]) := by
    decide +kernel
  obtain ⟨-, -, hshown, hread⟩ := names_shown_verbatim "pages/[id]/page.py" "python" f [bracketed]
  refine ⟨(hshown hfile).mpr (by decide), fun heq => ?_⟩
  have hnone := (hread hdetails).mp heq bracketed List.mem_cons_self
  exact absurd hnone (by decide)

/-- A title and a heading lose what reads as a tag in them. -/
theorem names_read_as_markup :
    ((typeDetails [bracketed]).flatMap Shown.markups).map plainText
        = ["", "pages..Page members", "Member", "Modifiers", "Type / Signature"] ∧
      (detailLines .name [bracketed]).map seenOf
        = ["", "pages.[id].Page members", "Member", "Modifiers", "Type / Signature"] ∧
      ((parsedFile "a.py" "python[b]" {}).flatMap Shown.markups).map plainText
        = ["", "a.py (python)", "\nNo type declarations found."] ∧
      (fileLines "a.py" (.name "python[b]") {}).map seenOf
        = ["", "a.py (python[b])", "\nNo type declarations found."] := by
  decide +kernel

end Display

end SourceOutline
