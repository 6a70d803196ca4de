import SourceOutline.Files.Store
import SourceOutline.Proofs.Outcome
import SourceOutline.Proofs.Text.Utf8

/-!
# Writing and reading files

* `write_eq_ok_iff`, `read_eq_ok_iff`: when a file is written, and what the files are then; when it is read.
* `walk_of_directories`: a path leads to the same place as long as no directory on its way is lost.
* `read_of_write`: the bytes that were written are read back.

Main statement: `readText_of_writeText`.
-/

namespace SourceOutline.Files

variable {fs fs' : Files} {path : String}

/-! ## Bytes -/

section Bytes

theorem write_eq_ok_iff {bytes : List UInt8} :
    fs.write path bytes = .ok fs' ↔
      ∃ l, fs.locate path = .ok l ∧ fs.allowsName l = true ∧ fs.at? l ≠ some .directory ∧
        fs' = { fs with entries := fs.entries.set l (.file bytes) } := by
  unfold write
  rw [bind_eq_ok_iff]
  refine exists_congr fun l => and_congr_right fun _ => ?_
  cases hname : fs.allowsName l with
  | false => simp
  | true =>
    cases fs.at? l with
    | none => simp [pure, Except.pure, eq_comm]
    | some e => cases e <;> simp [pure, Except.pure, eq_comm]

theorem read_eq_ok_iff {bytes : List UInt8} :
    fs.read path = .ok bytes ↔ ∃ l, fs.locate path = .ok l ∧ fs.at? l = some (.file bytes) := by
  unfold read
  rw [bind_eq_ok_iff]
  refine exists_congr fun l => and_congr_right fun _ => ?_
  cases fs.at? l with
  | none => simp
  | some e => cases e <;> simp [pure, Except.pure]

/-- As long as no directory is lost, a path leads where it led. -/
theorem walk_of_directories (h : ∀ l, fs.at? l = some .directory → fs'.at? l = some .directory) :
    ∀ {here l : Location} {ps : List String}, fs.walk path here ps = .ok l → fs'.walk path here ps = .ok l
  | _, _, [], hw => hw
  | _, _, [_], hw => hw
  | here, l, p :: q :: ps, hw => by
    rw [walk] at hw ⊢
    · by_cases hp : p = ".."
      · rw [if_pos hp] at hw ⊢
        exact walk_of_directories h hw
      · rw [if_neg hp] at hw ⊢
        cases hat : fs.at? (here ++ [p]) with
        | none => simp [hat] at hw
        | some e =>
          cases e with
          | file bytes => simp [hat] at hw
          | directory =>
            rw [hat] at hw
            rw [h _ hat]
            exact walk_of_directories h hw
    all_goals simp

/-- What is not a directory is not one of the places that are always there. -/
theorem at?_of_ne_directory {l : Location} (h : fs.at? l ≠ some .directory) :
    ¬ (l = [] ∨ l = ["/"] ∨ l = fs.home) := fun hl => h (if_pos hl)

/-- The bytes of a file that was written are the written ones. -/
theorem read_of_write {bytes : List UInt8} (h : fs.write path bytes = .ok fs') :
    fs'.read path = .ok bytes := by
  obtain ⟨l, hl, -, hplace, rfl⟩ := write_eq_ok_iff.mp h
  have hfixed := at?_of_ne_directory hplace
  have hother : ∀ l', fs.at? l' = some .directory →
      at? { fs with entries := fs.entries.set l (.file bytes) } l' = some .directory := by
    intro l' hl'
    have hne : l ≠ l' := fun heq => hplace (heq ▸ hl')
    unfold at? at hl' ⊢
    rw [Table.get?_set, if_neg hne]
    exact hl'
  have hlocate : locate { fs with entries := fs.entries.set l (.file bytes) } path = .ok l :=
    walk_of_directories hother hl
  have hat : at? { fs with entries := fs.entries.set l (.file bytes) } l = some (.file bytes) := by
    rw [at?, if_neg hfixed, Table.get?_set, if_pos rfl]
  exact read_eq_ok_iff.mpr ⟨l, hlocate, hat⟩

end Bytes

/-! ## Texts -/

section Texts

theorem plainLineEnds_of_not_mem : ∀ {cs : List Char}, '\r' ∉ cs → plainLineEnds cs = cs
  | [], _ => rfl
  | c :: cs, h => by
    obtain ⟨hc, hcs⟩ := not_or.mp (mt List.mem_cons.mpr h)
    rw [plainLineEnds, plainLineEnds_of_not_mem hcs]
    · rintro r rfl
      exact absurd rfl hc
    · rintro rfl
      exact absurd rfl hc

/-- **A text that was written is read back**, if it has no line ends but line feeds. -/
theorem readText_of_writeText {text : String} (hends : '\r' ∉ text.toList) (h : fs.writeText path text = .ok fs') :
    fs'.readText path = .ok text := by
  have hread := read_of_write h
  unfold readText
  rw [hread]
  show textOf (Utf8.encode text.toList) = _
  rw [textOf, Utf8.decode?, Utf8.decodeFrom_encode]
  dsimp only
  rw [plainLineEnds_of_not_mem hends, String.ofList_toList]

end Texts

end SourceOutline.Files
