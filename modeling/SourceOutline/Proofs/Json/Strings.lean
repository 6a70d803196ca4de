import SourceOutline.Json.Printer
import SourceOutline.Json.Reader

/-!
# Strings survive the way through JSON

A character stands for itself or is written by an escape (`escapeChar_cases`), and the reader takes
either form back to the character.  So the characters of a string are read back from between its
quotes (`readString?_flatMap`), whether or not the writer keeps to ASCII.
-/

namespace SourceOutline.Json

/-! ## Units -/

theorem hexDigit?_digitChar : ∀ d < 16, hexDigit? (Nat.digitChar d) = some d := by
  decide

theorem readUnit?_hex4 {n : Nat} (h : n < 0x10000) (r : List Char) :
    readUnit? (hex4 n ++ r) = some (n, r) := by
  have ha := hexDigit?_digitChar (n / 4096 % 16) (by omega)
  have hb := hexDigit?_digitChar (n / 256 % 16) (by omega)
  have hc := hexDigit?_digitChar (n / 16 % 16) (by omega)
  have hd := hexDigit?_digitChar (n % 16) (by omega)
  have hn : ((n / 4096 % 16 * 16 + n / 256 % 16) * 16 + n / 16 % 16) * 16 + n % 16 = n := by omega
  simp [hex4, readUnit?, ha, hb, hc, hd, hn]

theorem readUnicode?_hex4 {n : Nat} (h : n < 0xD800 ∨ 0xE000 ≤ n) (h' : n < 0x10000)
    (r : List Char) : readUnicode? (hex4 n ++ r) = some (Char.ofNat n, r) := by
  rw [readUnicode?, readUnit?_hex4 h']
  simp [h]

/-- Two units, the halves of a pair, stand for one character past U+FFFF. -/
theorem readUnicode?_pair {n : Nat} (h : n < 0x100000) (r : List Char) :
    readUnicode? (hex4 (0xD800 + n / 0x400) ++ (escapeUnit (0xDC00 + n % 0x400) ++ r)) =
      some (Char.ofNat (0x10000 + n), r) := by
  have hn : 65536 + n / 1024 * 1024 + n % 1024 = 65536 + n := by omega
  rw [readUnicode?, readUnit?_hex4 (by omega)]
  simp only [escapeUnit, List.cons_append]
  rw [if_neg (by omega), if_neg (by omega), readUnit?_hex4 (by omega)]
  simp only [Nat.add_sub_cancel_left, hn]
  rw [if_pos (by omega)]

/-! ## Characters -/

theorem readEscape?_unit {c : Char} (h : c.toNat < 0xD800 ∨ 0xE000 ≤ c.toNat)
    (h' : c.toNat < 0x10000) (r : List Char) :
    readEscape? ('u' :: hex4 c.toNat ++ r) = some (c, r) := by
  rw [List.cons_append, readEscape?, if_pos rfl, readUnicode?_hex4 h h', Char.ofNat_toNat]

theorem readEscape?_pair {c : Char} (h : 0x10000 ≤ c.toNat) (h' : c.toNat < 0x110000)
    (r : List Char) :
    readEscape? ('u' :: (hex4 (0xD800 + (c.toNat - 0x10000) / 0x400)
      ++ escapeUnit (0xDC00 + (c.toNat - 0x10000) % 0x400)) ++ r) = some (c, r) := by
  rw [List.cons_append, List.append_assoc, readEscape?, if_pos rfl, readUnicode?_pair (by omega),
    show 0x10000 + (c.toNat - 0x10000) = c.toNat by omega, Char.ofNat_toNat]

/-- A character stands for itself, or an escape stands for it. -/
theorem escapeChar_cases (asciiOnly : Bool) (c : Char) :
    (escapeChar asciiOnly c = [c] ∧ c ≠ '"' ∧ c ≠ '\\' ∧ 0x20 ≤ c.toNat) ∨
      ∃ e, escapeChar asciiOnly c = '\\' :: e ∧ ∀ r, readEscape? (e ++ r) = some (c, r) := by
  by_cases hq : c = '"'
  · subst hq; exact Or.inr ⟨['"'], rfl, fun _ => rfl⟩
  by_cases hb : c = '\\'
  · subst hb; exact Or.inr ⟨['\\'], rfl, fun _ => rfl⟩
  by_cases h1 : c = '\x08'
  · subst h1; exact Or.inr ⟨['b'], rfl, fun _ => rfl⟩
  by_cases h2 : c = '\x0c'
  · subst h2; exact Or.inr ⟨['f'], rfl, fun _ => rfl⟩
  by_cases h3 : c = '\n'
  · subst h3; exact Or.inr ⟨['n'], rfl, fun _ => rfl⟩
  by_cases h4 : c = '\r'
  · subst h4; exact Or.inr ⟨['r'], rfl, fun _ => rfl⟩
  by_cases h5 : c = '\t'
  · subst h5; exact Or.inr ⟨['t'], rfl, fun _ => rfl⟩
  rw [escapeChar, if_neg hq, if_neg hb, if_neg h1, if_neg h2, if_neg h3, if_neg h4, if_neg h5]
  -- what is left is escaped by its units, which are no lone surrogates, or not at all
  have hv : c.toNat < 0xD800 ∨ 0xDFFF < c.toNat ∧ c.toNat < 0x110000 := c.valid
  by_cases hlow : c.toNat < 0x20
  · rw [if_pos hlow]
    exact Or.inr ⟨_, rfl, readEscape?_unit (by omega) (by omega)⟩
  rw [if_neg hlow]
  by_cases ha : (asciiOnly && 0x7F ≤ c.toNat) = true
  · rw [if_pos ha]
    by_cases hbmp : c.toNat < 0x10000
    · rw [if_pos hbmp]
      exact Or.inr ⟨_, rfl, readEscape?_unit (by omega) hbmp⟩
    · rw [if_neg hbmp]
      exact Or.inr ⟨_, rfl, readEscape?_pair (by omega) (by omega)⟩
  · rw [if_neg ha]
    exact Or.inl ⟨rfl, hq, hb, by omega⟩

/-! ## Strings -/

theorem readString?_close (r : List Char) : readString? ('"' :: r) = some ([], r) := by
  rw [readString?, if_pos rfl]

theorem readString?_plain {c : Char} (hq : c ≠ '"') (hb : c ≠ '\\') (hc : 0x20 ≤ c.toNat)
    (r : List Char) : readString? (c :: r) = (readString? r).map fun p => (c :: p.1, p.2) := by
  rw [readString?, if_neg hq, if_neg hb, if_neg (by omega)]

theorem readString?_escape {e r : List Char} {c : Char} (h : readEscape? e = some (c, r)) :
    readString? ('\\' :: e) = (readString? r).map fun p => (c :: p.1, p.2) := by
  rw [readString?, if_neg (by decide), if_pos rfl]
  split
  · rename_i h'
    rw [h] at h'; simp at h'
  · rename_i d r' h'
    rw [h] at h'
    obtain ⟨rfl, rfl⟩ : c = d ∧ r = r' := by simpa using h'
    rfl

theorem readString?_escapeChar (asciiOnly : Bool) (c : Char) (r : List Char) :
    readString? (escapeChar asciiOnly c ++ r) = (readString? r).map fun p => (c :: p.1, p.2) := by
  rcases escapeChar_cases asciiOnly c with ⟨he, hq, hb, hc⟩ | ⟨e, he, hr⟩
  · rw [he]
    exact readString?_plain hq hb hc r
  · rw [he]
    exact readString?_escape (hr r)

/-- The characters of a string are read back from between its quotes. -/
theorem readString?_flatMap (asciiOnly : Bool) (cs r : List Char) :
    readString? (cs.flatMap (escapeChar asciiOnly) ++ '"' :: r) = some (cs, r) := by
  induction cs with
  | nil => exact readString?_close r
  | cons c cs ih => rw [List.flatMap_cons, List.append_assoc, readString?_escapeChar, ih]; rfl

end SourceOutline.Json
