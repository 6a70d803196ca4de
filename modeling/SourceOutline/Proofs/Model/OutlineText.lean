import SourceOutline.Proofs.Json.Values
import SourceOutline.Proofs.Model.Consistency

/-!
# Outlines and their JSON texts

The JSON of an outline is plain, so its text is read as that JSON; and an outline is read back from
it exactly if its types are consistent, as those of every outline that was read are.

Main statement: `ParsedFile.ofJsonText_jsonText_eq_ok_iff`.
-/

namespace SourceOutline

open Checked

/-! ## Records are plain -/

theorem Package.plain_toJson (p : Package) : p.toJson.Plain :=
  ⟨by simp, trivial, trivial⟩

theorem Modifiers.plain_toJson (m : Modifiers) : m.toJson.Plain :=
  ⟨by simp, trivial, trivial, trivial, trivial, trivial⟩

mutual

theorem TypeDecl.plain_toJson : ∀ t : TypeDecl, t.toJson.Plain
  | ⟨p, n, m, k, cs, is⟩ =>
    ⟨by simp, p.plain_toJson, trivial, m.plain_toJson, trivial, TypeDecl.plainItems_toJsonAll cs,
      TypeDecl.plainItems_toJsonAll is, trivial⟩

theorem TypeDecl.plainItems_toJsonAll : ∀ ts : List TypeDecl, Json.PlainItems (TypeDecl.toJsonAll ts)
  | [] => trivial
  | t :: ts => ⟨t.plain_toJson, TypeDecl.plainItems_toJsonAll ts⟩

end

theorem Import.plain_toJson (i : Import) : i.toJson.Plain :=
  ⟨by simp, trivial, trivial⟩

theorem Import.ofJson_toJson (i : Import) : Import.ofJson i.toJson = .ok i := rfl

namespace ParsedFile

theorem plain_toJson (f : ParsedFile) : f.toJson.Plain :=
  ⟨by simp, Json.plainItems_map fun i _ => i.plain_toJson, Json.plainItems_map fun t _ => t.plain_toJson,
    trivial⟩

theorem parse?_jsonText (f : ParsedFile) (indent : Option Nat) :
    Json.parse? (f.jsonText indent) = some f.toJson := by
  cases indent with
  | none => exact Json.parse?_render Json.Style.compact_legal f.plain_toJson
  | some n => exact Json.parse?_render (Json.Style.indented_legal n) f.plain_toJson

/-! ## Outlines are read back -/

theorem ofJson_toJson {f : ParsedFile} (h : TypeDecl.consistentAll f.types = true) :
    ParsedFile.ofJson f.toJson = .ok f := by
  have his : sequence Import.ofJson (.arr (f.imports.map Import.toJson)) = .ok f.imports :=
    itemsFrom_map 0 f.imports fun i _ => i.ofJson_toJson
  have hts : TypeDecl.listOfJson (.arr (f.types.map TypeDecl.toJson)) = .ok f.types := by
    rw [← TypeDecl.toJsonAll_eq_map]
    exact TypeDecl.listOfJson_toJsonAll h
  unfold ParsedFile.ofJson ParsedFile.toJson
  rw [object, optional_of_find? rfl his, optional_of_find? rfl hts]
  exact closed_ok rfl f

theorem consistentAll_of_ofJson {v : Json} {f : ParsedFile} (h : ParsedFile.ofJson v = .ok f) :
    TypeDecl.consistentAll f.types = true := by
  cases v with
  | obj fields =>
    obtain ⟨⟨is, ts⟩, hboth, rfl⟩ := map_eq_ok_iff.mp (closed_eq_ok h)
    rcases optional_eq_ok (both_eq_ok_iff.mp hboth).2 with rfl | ⟨k, v, -, hv⟩
    · rfl
    · exact TypeDecl.consistentAll_of_listOfJson hv
  | _ => simp [ParsedFile.ofJson, object, fail] at h

/-- **Round trip of outlines**: on one line or indented, the text of an outline is read back as that
outline, exactly if all types in it are consistent. -/
theorem ofJsonText_jsonText_eq_ok_iff (f : ParsedFile) (indent : Option Nat) :
    ofJsonText (f.jsonText indent) = .ok f ↔ ∀ t ∈ f.types, t.consistent = true := by
  rw [ofJsonText, Checked.ofText, parse?_jsonText, ← TypeDecl.consistentAll_iff]
  exact ⟨consistentAll_of_ofJson, ofJson_toJson⟩

end ParsedFile

end SourceOutline
