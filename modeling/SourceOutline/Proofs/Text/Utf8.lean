import SourceOutline.Text.Utf8

/-!
# Encoded texts, and what is read off parts of them

The first byte of an encoded character announces the others (`exists_encodeChar`), and none of these starts
a character.  So an encoded text is read back whatever follows it, the front of a character is one fault,
and each byte of its rest is one.

* `decodeLossy_encode_append`, `decodeFrom_encode`: both decoders read an encoded text back.
* `encode_toList`, `length_encode`: the bytes of a text are those that it has in memory.
* `exists_drop_encode`, `exists_take_encode`: an encoded text from an offset on, and up to one.

Main statement: `exists_decodeLossy_slice`.
-/

namespace SourceOutline.Utf8

/-! ## One character -/

section Character

theorem toNat_toUInt8 {n : Nat} (h : n < 256) : n.toUInt8.toNat = n :=
  UInt8.toNat_ofNat_of_lt' h

/-- What a first byte announces, by its value. -/
theorem lead?_toUInt8 {n : Nat} (h : n < 256) :
    lead? n.toUInt8 =
      if n < 0x80 then some { following := 0, value := n }
      else if n < 0xC2 then none
      else if n < 0xE0 then some { following := 1, value := n - 0xC0 }
      else if n = 0xE0 then some { following := 2, low := 0xA0, value := 0 }
      else if n = 0xED then some { following := 2, high := 0x9F, value := 0xD }
      else if n < 0xF0 then some { following := 2, value := n - 0xE0 }
      else if n = 0xF0 then some { following := 3, low := 0x90, value := 0 }
      else if n < 0xF4 then some { following := 3, value := n - 0xF0 }
      else if n = 0xF4 then some { following := 3, high := 0x8F, value := 4 }
      else none := by
  simp only [lead?, UInt8.lt_iff_toNat_lt, ← UInt8.toNat_inj, toNat_toUInt8 h]
  rfl

theorem bounds_of_lead? {b : UInt8} {l : Lead} (h : lead? b = some l) : 0x80 ≤ l.low ∧ l.high ≤ 0xBF := by
  have hcases :
      (l.low = 0x80 ∨ l.low = 0xA0 ∨ l.low = 0x90) ∧ (l.high = 0xBF ∨ l.high = 0x9F ∨ l.high = 0x8F) := by
    unfold lead? at h
    repeat' split at h
    all_goals first | (cases h; done) | (obtain rfl := Option.some.inj h; simp)
  obtain ⟨hlow | hlow | hlow, hhigh | hhigh | hhigh⟩ := hcases <;> rw [hlow, hhigh] <;> decide

theorem readRest_toUInt8 {low high : UInt8} {k : Nat} (hk : k < 64) (hlow : low.toNat ≤ 0x80 + k)
    (hhigh : 0x80 + k ≤ high.toNat) (n value : Nat) (bs : List UInt8) :
    readRest (n + 1) low high value ((0x80 + k).toUInt8 :: bs) = readRest n 0x80 0xBF (value * 64 + k) bs := by
  have hbyte : (0x80 + k).toUInt8.toNat = 0x80 + k := toNat_toUInt8 (by omega)
  rw [readRest, if_pos, hbyte, Nat.add_sub_cancel_left]
  rw [UInt8.le_iff_toNat_le, UInt8.le_iff_toNat_le, hbyte]
  exact ⟨hlow, hhigh⟩

/-- The bytes that complete a character after what its first byte announces. -/
structure Completes (l : Lead) (c : Char) (bs : List UInt8) : Prop where
  length_eq : bs.length = l.following
  read_eq : readRest l.following l.low l.high l.value bs = (.ok c, [])

theorem readRest_usual {k : Nat} (hk : k < 64) (n value : Nat) (bs : List UInt8) :
    readRest (n + 1) 0x80 0xBF value ((0x80 + k).toUInt8 :: bs) = readRest n 0x80 0xBF (value * 64 + k) bs :=
  readRest_toUInt8 hk (by simp) (by simp; omega) n value bs

/-- The first of three bytes leaves out overlong forms and surrogates. -/
theorem exists_lead?_three {n : Nat} (hlow : 0x800 ≤ n) (hhigh : n < 0x10000) (hvalid : n < 0xD800 ∨ 0xDFFF < n) :
    ∃ low high : UInt8, lead? (0xE0 + n / 4096).toUInt8 = some ⟨2, low, high, n / 4096⟩ ∧
      low.toNat ≤ 0x80 + n / 64 % 64 ∧ 0x80 + n / 64 % 64 ≤ high.toNat := by
  rw [lead?_toUInt8 (by omega), if_neg (by omega), if_neg (by omega), if_neg (by omega)]
  by_cases he0 : n / 4096 = 0
  · rw [if_pos (by omega), he0]
    exact ⟨_, _, rfl, by simp; omega, by simp; omega⟩
  rw [if_neg (by omega)]
  by_cases hed : n / 4096 = 0xD
  · rw [if_pos (by omega), hed]
    exact ⟨_, _, rfl, by simp, by simp; omega⟩
  rw [if_neg (by omega), if_pos (by omega), Nat.add_sub_cancel_left]
  exact ⟨_, _, rfl, by simp, by simp; omega⟩

/-- The first of four bytes leaves out overlong forms and values past U+10FFFF. -/
theorem exists_lead?_four {n : Nat} (hlow : 0x10000 ≤ n) (hhigh : n < 0x110000) :
    ∃ low high : UInt8, lead? (0xF0 + n / 262144).toUInt8 = some ⟨3, low, high, n / 262144⟩ ∧
      low.toNat ≤ 0x80 + n / 4096 % 64 ∧ 0x80 + n / 4096 % 64 ≤ high.toNat := by
  rw [lead?_toUInt8 (by omega), if_neg (by omega), if_neg (by omega), if_neg (by omega), if_neg (by omega),
    if_neg (by omega), if_neg (by omega)]
  by_cases hf0 : n / 262144 = 0
  · rw [if_pos (by omega), hf0]
    exact ⟨_, _, rfl, by simp; omega, by simp; omega⟩
  rw [if_neg (by omega)]
  by_cases hf4 : n / 262144 = 4
  · rw [if_neg (by omega), if_pos (by omega), hf4]
    exact ⟨_, _, rfl, by simp, by simp; omega⟩
  rw [if_pos (by omega), Nat.add_sub_cancel_left]
  exact ⟨_, _, rfl, by simp, by simp; omega⟩

/-- What a character is encoded as: its first byte announces the others, and these complete it. -/
theorem exists_encodeChar (c : Char) :
    ∃ b bs l, encodeChar c = b :: bs ∧ lead? b = some l ∧ Completes l c bs := by
  have hvalid : c.toNat < 0xD800 ∨ 0xDFFF < c.toNat ∧ c.toNat < 0x110000 := c.valid
  have hchar : Char.ofNat c.toNat = c := Char.ofNat_toNat c
  unfold encodeChar
  generalize c.toNat = n at hvalid hchar
  dsimp only
  by_cases h₁ : n < 0x80
  · rw [if_pos h₁]
    refine ⟨_, _, _, rfl, by rw [lead?_toUInt8 (by omega), if_pos h₁], rfl, ?_⟩
    rw [readRest, hchar]
  rw [if_neg h₁]
  by_cases h₂ : n < 0x800
  · rw [if_pos h₂]
    have hlead : lead? (0xC0 + n / 64).toUInt8 = some { following := 1, value := n / 64 } := by
      rw [lead?_toUInt8 (by omega), if_neg (by omega), if_neg (by omega), if_pos (by omega),
        Nat.add_sub_cancel_left]
    have hvalue : n / 64 * 64 + n % 64 = n := by omega
    refine ⟨_, _, _, rfl, hlead, rfl, ?_⟩
    rw [readRest_usual (by omega), readRest, hvalue, hchar]
  rw [if_neg h₂]
  by_cases h₃ : n < 0x10000
  · rw [if_pos h₃]
    obtain ⟨low, high, hlead, hlow, hhigh⟩ := exists_lead?_three (by omega) h₃ (by omega)
    have hvalue : (n / 4096 * 64 + n / 64 % 64) * 64 + n % 64 = n := by omega
    refine ⟨_, _, _, rfl, hlead, rfl, ?_⟩
    rw [readRest_toUInt8 (by omega) hlow hhigh, readRest_usual (by omega), readRest, hvalue, hchar]
  · rw [if_neg h₃]
    obtain ⟨low, high, hlead, hlow, hhigh⟩ := exists_lead?_four (n := n) (by omega) (by omega)
    have hvalue : ((n / 262144 * 64 + n / 4096 % 64) * 64 + n / 64 % 64) * 64 + n % 64 = n := by omega
    refine ⟨_, _, _, rfl, hlead, rfl, ?_⟩
    rw [readRest_toUInt8 (by omega) hlow hhigh, readRest_usual (by omega), readRest_usual (by omega), readRest,
      hvalue, hchar]

/-! What is read from all, from some, and from more of the bytes that complete a character. -/

theorem readRest_append {n : Nat} {low high : UInt8} {value : Nat} {bs : List UInt8} {c : Char}
    (hlength : bs.length = n) (h : readRest n low high value bs = (.ok c, [])) (rest : List UInt8) :
    readRest n low high value (bs ++ rest) = (.ok c, rest) := by
  induction n generalizing low high value bs with
  | zero =>
    obtain rfl := List.length_eq_zero_iff.mp hlength
    rw [readRest] at h ⊢
    rw [(Prod.mk.inj h).1]
    rfl
  | succ n ih =>
    obtain ⟨b, bs, rfl⟩ := List.exists_cons_of_length_eq_add_one hlength
    rw [readRest] at h
    split at h
    · rename_i hb
      rw [List.cons_append, readRest, if_pos hb]
      exact ih (Nat.succ.inj hlength) h
    · cases h

theorem readRest_take {n : Nat} {low high : UInt8} {value : Nat} {bs : List UInt8} {c : Char}
    (hlength : bs.length = n) (h : readRest n low high value bs = (.ok c, [])) {k : Nat} (hk : k < n) :
    readRest n low high value (bs.take k) = (.error .cutShort, []) := by
  induction n generalizing low high value bs k with
  | zero => omega
  | succ n ih =>
    cases k with
    | zero => rw [List.take_zero, readRest]
    | succ k =>
      obtain ⟨b, bs, rfl⟩ := List.exists_cons_of_length_eq_add_one hlength
      rw [readRest] at h
      split at h
      · rename_i hb
        rw [List.take_succ_cons, readRest, if_pos hb]
        exact ih (Nat.succ.inj hlength) h (Nat.lt_of_succ_lt_succ hk)
      · cases h

/-- A byte that starts no character because it continues one. -/
def Continues (b : UInt8) : Prop :=
  0x80 ≤ b ∧ b ≤ 0xBF

theorem continues_of_readRest {n : Nat} {low high : UInt8} {value : Nat} {bs : List UInt8} {c : Char}
    (hlow : 0x80 ≤ low) (hhigh : high ≤ 0xBF) (hlength : bs.length = n)
    (h : readRest n low high value bs = (.ok c, [])) : ∀ b ∈ bs, Continues b := by
  induction n generalizing low high value bs with
  | zero => simp [List.length_eq_zero_iff.mp hlength]
  | succ n ih =>
    obtain ⟨b, bs, rfl⟩ := List.exists_cons_of_length_eq_add_one hlength
    rw [readRest] at h
    split at h
    · rename_i hb
      refine List.forall_mem_cons.mpr ⟨⟨?_, ?_⟩, ih (by decide) (by decide) (Nat.succ.inj hlength) h⟩
      · exact UInt8.le_trans hlow hb.1
      · exact UInt8.le_trans hb.2 hhigh
    · cases h

theorem lead?_of_continues {b : UInt8} (h : Continues b) : lead? b = none := by
  obtain ⟨hlow, hhigh⟩ := h
  rw [UInt8.le_iff_toNat_le] at hlow hhigh
  have h₁ : ¬ b < 0x80 := by
    rw [UInt8.lt_iff_toNat_lt]
    exact Nat.not_lt.mpr hlow
  have h₂ : b < 0xC2 := by
    rw [UInt8.lt_iff_toNat_lt]
    exact Nat.lt_of_le_of_lt hhigh (by decide)
  rw [lead?, if_neg h₁, if_pos h₂]

end Character

/-! ## Encoded texts -/

section Texts

@[simp] theorem encode_nil : encode [] = [] := rfl

@[simp] theorem encode_append (a b : List Char) : encode (a ++ b) = encode a ++ encode b :=
  List.flatMap_append

theorem encode_cons (c : Char) (cs : List Char) : encode (c :: cs) = encodeChar c ++ encode cs :=
  List.flatMap_cons

/-- Characters are encoded as they are in a text in memory. -/
theorem encodeChar_eq_utf8EncodeChar (c : Char) : encodeChar c = String.utf8EncodeChar c := by
  have hmax : c.toNat < 0x110000 := by
    rcases c.valid with h | h
    · exact Nat.lt_trans h (by decide)
    · exact h.2
  have hbyte : ∀ {m m' : Nat}, m = m' → m.toUInt8 = UInt8.ofNat m' := fun h => congrArg UInt8.ofNat h
  unfold encodeChar String.utf8EncodeChar
  rw [show c.val.toNat = c.toNat from rfl]
  generalize c.toNat = n at hmax
  dsimp only
  by_cases h₁ : n < 0x80
  · rw [if_pos h₁, if_pos (Nat.le_of_lt_succ h₁), hbyte rfl]
  rw [if_neg h₁, if_neg (show ¬ n ≤ 0x7F by omega)]
  by_cases h₂ : n < 0x800
  · rw [if_pos h₂, if_pos (Nat.le_of_lt_succ h₂), hbyte (show 0xC0 + n / 64 = n / 64 % 0x20 + 0xC0 by omega),
      hbyte (Nat.add_comm 0x80 (n % 64))]
  rw [if_neg h₂, if_neg (show ¬ n ≤ 0x7FF by omega)]
  by_cases h₃ : n < 0x10000
  · rw [if_pos h₃, if_pos (Nat.le_of_lt_succ h₃), hbyte (show 0xE0 + n / 4096 = n / 4096 % 0x10 + 0xE0 by omega),
      hbyte (Nat.add_comm 0x80 (n / 64 % 64)), hbyte (Nat.add_comm 0x80 (n % 64))]
  · rw [if_neg h₃, if_neg (show ¬ n ≤ 0xFFFF by omega),
      hbyte (show 0xF0 + n / 262144 = n / 262144 % 0x08 + 0xF0 by omega),
      hbyte (Nat.add_comm 0x80 (n / 4096 % 64)), hbyte (Nat.add_comm 0x80 (n / 64 % 64)),
      hbyte (Nat.add_comm 0x80 (n % 64))]

theorem encode_toList (s : String) : encode s.toList = s.toByteArray.data.toList := by
  have hencode : encode s.toList = s.toList.flatMap String.utf8EncodeChar :=
    congrArg (List.flatMap · s.toList) (funext encodeChar_eq_utf8EncodeChar)
  have hbytes : s.toByteArray = s.toList.utf8Encode := by
    rw [← String.toByteArray_ofList, String.ofList_toList]
  rw [hencode, hbytes, List.utf8Encode]
  simp

theorem length_encode (s : String) : (encode s.toList).length = s.utf8ByteSize := by
  rw [encode_toList]
  rfl

theorem decodeLossy_eq_nil_iff {bs : List UInt8} : decodeLossy bs = [] ↔ bs = [] := by
  cases bs with
  | nil => simp [decodeLossy]
  | cons b bs => simp [decodeLossy]

/-- What is read first from an encoded character is that character. -/
theorem readOne_encodeChar (c : Char) :
    ∃ b bs, encodeChar c = b :: bs ∧ ∀ rest, readOne b (bs ++ rest) = (.ok c, rest) := by
  obtain ⟨b, bs, l, hc, hlead, hbs⟩ := exists_encodeChar c
  refine ⟨b, bs, hc, fun rest => ?_⟩
  rw [readOne, hlead]
  exact readRest_append hbs.length_eq hbs.read_eq rest

/-- **An encoded text is read back**, whatever follows it. -/
theorem decodeLossy_encode_append (cs : List Char) (bs : List UInt8) :
    decodeLossy (encode cs ++ bs) = cs ++ decodeLossy bs := by
  induction cs with
  | nil => rfl
  | cons c cs ih =>
    obtain ⟨b, rest, hc, hread⟩ := readOne_encodeChar c
    rw [encode_cons, hc, List.cons_append, List.cons_append, List.append_assoc, decodeLossy, hread, ih]
    rfl

theorem decodeLossy_encode (cs : List Char) : decodeLossy (encode cs) = cs := by
  have h := decodeLossy_encode_append cs []
  rwa [List.append_nil, decodeLossy, List.append_nil] at h

/-- Nothing is wrong with an encoded text, wherever it stands. -/
theorem decodeFrom_encode (cs : List Char) (n : Nat) : decodeFrom n (encode cs) = .ok cs := by
  induction cs generalizing n with
  | nil => rw [encode_nil, decodeFrom]
  | cons c cs ih =>
    obtain ⟨b, bs, hc, hread⟩ := readOne_encodeChar c
    rw [encode_cons, hc, List.cons_append, decodeFrom, hread]
    dsimp only
    rw [ih]
    rfl

/-- Bytes that start no character are faults one by one. -/
theorem decodeLossy_continues_append {bs : List UInt8} (h : ∀ b ∈ bs, Continues b) (rest : List UInt8) :
    decodeLossy (bs ++ rest) = List.replicate bs.length '\uFFFD' ++ decodeLossy rest := by
  induction bs with
  | nil => rfl
  | cons b bs ih =>
    obtain ⟨hb, hbs⟩ := List.forall_mem_cons.mp h
    rw [List.cons_append, decodeLossy, readOne, lead?_of_continues hb]
    dsimp only
    rw [ih hbs, List.length_cons, List.replicate_succ, List.cons_append]

/-- The front of a character is one fault. -/
theorem decodeLossy_take_encodeChar {c : Char} {k : Nat} (hpos : 0 < k) (hk : k < (encodeChar c).length) :
    decodeLossy ((encodeChar c).take k) = ['\uFFFD'] := by
  obtain ⟨b, bs, l, hc, hlead, hbs⟩ := exists_encodeChar c
  obtain ⟨k, rfl⟩ := Nat.exists_eq_succ_of_ne_zero (Nat.ne_of_gt hpos)
  rw [hc, List.length_cons] at hk
  have hshort : k < l.following := by
    rw [← hbs.length_eq]
    omega
  rw [hc, List.take_succ_cons, decodeLossy, readOne, hlead]
  dsimp only
  rw [readRest_take hbs.length_eq hbs.read_eq hshort, decodeLossy]

theorem continues_of_mem_drop_encodeChar {c : Char} {k : Nat} (hpos : 0 < k) :
    ∀ b ∈ (encodeChar c).drop k, Continues b := by
  obtain ⟨b, bs, l, hc, hlead, hbs⟩ := exists_encodeChar c
  obtain ⟨k, rfl⟩ := Nat.exists_eq_succ_of_ne_zero (Nat.ne_of_gt hpos)
  obtain ⟨hlow, hhigh⟩ := bounds_of_lead? hlead
  intro b' hb'
  rw [hc, List.drop_succ_cons] at hb'
  exact continues_of_readRest hlow hhigh hbs.length_eq hbs.read_eq b' (List.mem_of_mem_drop hb')

end Texts

/-! ## Cuts -/

section Cuts

/-- The offset falls inside a character of a text. -/
def Splits (k : Nat) (cs : List Char) : Prop :=
  ∃ a c b, cs = a ++ c :: b ∧ (encode a).length < k ∧ k < (encode a).length + (encodeChar c).length

theorem Splits.append {k : Nat} {cs : List Char} (h : Splits k cs) (a : List Char) :
    Splits ((encode a).length + k) (a ++ cs) := by
  obtain ⟨a', c, b, rfl, hlow, hhigh⟩ := h
  refine ⟨a ++ a', c, b, by rw [List.append_assoc], ?_, ?_⟩
  · rw [encode_append, List.length_append]
    omega
  · rw [encode_append, List.length_append]
    omega

theorem Splits.pos {k : Nat} {cs : List Char} (h : Splits k cs) : 0 < k := by
  obtain ⟨a, c, b, -, hlow, -⟩ := h
  exact Nat.zero_lt_of_lt hlow

theorem Splits.lt_length {k : Nat} {cs : List Char} (h : Splits k cs) : k < (encode cs).length := by
  obtain ⟨a, c, b, rfl, -, hhigh⟩ := h
  rw [encode_append, encode_cons, List.length_append, List.length_append]
  omega

/-- From an offset on, an encoded text has the rest of the character that is split there, if one is,
and the characters after it. -/
theorem exists_drop_encode (cs : List Char) (k : Nat) :
    ∃ a fs b, cs = a ++ b ∧ (encode cs).drop k = fs ++ encode b ∧ (∀ x ∈ fs, Continues x) ∧
      (fs ≠ [] → Splits k cs) ∧ (k ≤ (encode cs).length → (encode a).length = k + fs.length) := by
  induction cs generalizing k with
  | nil => exact ⟨[], [], [], rfl, by simp, by simp, by simp, by simp; omega⟩
  | cons c cs ih =>
    rw [encode_cons]
    rcases Nat.eq_zero_or_pos k with rfl | hpos
    · exact ⟨[], [], c :: cs, rfl, by simp [encode_cons], by simp, by simp, by simp⟩
    by_cases hk : k < (encodeChar c).length
    · refine ⟨[c], (encodeChar c).drop k, cs, rfl, List.drop_append_of_le_length (Nat.le_of_lt hk),
        continues_of_mem_drop_encodeChar hpos, fun _ => ⟨[], c, cs, rfl, by simpa using hpos, by simpa using hk⟩,
        fun _ => ?_⟩
      rw [encode_cons, encode_nil, List.append_nil, List.length_drop]
      omega
    · obtain ⟨k, rfl⟩ := Nat.exists_eq_add_of_le (Nat.not_lt.mp hk)
      obtain ⟨a, fs, b, rfl, hdrop, hfs, hsplit, hlength⟩ := ih k
      refine ⟨c :: a, fs, b, rfl, ?_, hfs, fun hne => ?_, fun hle => ?_⟩
      · rw [List.drop_length_add_append, hdrop]
      · simpa [encode_cons] using (hsplit hne).append [c]
      · rw [List.length_append] at hle
        rw [encode_cons, List.length_append, hlength (by omega), Nat.add_assoc]

/-- Up to an offset, an encoded text has the characters before it, and the front of the character that is
split there, if one is. -/
theorem exists_take_encode (cs : List Char) (k : Nat) :
    ∃ a b gs, cs = a ++ b ∧ (encode cs).take k = encode a ++ gs ∧
      (gs = [] ∨ Splits k cs ∧ decodeLossy gs = ['\uFFFD']) := by
  induction cs generalizing k with
  | nil => exact ⟨[], [], [], rfl, by simp, .inl rfl⟩
  | cons c cs ih =>
    rw [encode_cons]
    rcases Nat.eq_zero_or_pos k with rfl | hpos
    · exact ⟨[], c :: cs, [], rfl, by simp, .inl rfl⟩
    by_cases hk : k < (encodeChar c).length
    · refine ⟨[], c :: cs, (encodeChar c).take k, rfl, ?_,
        .inr ⟨⟨[], c, cs, rfl, by simpa using hpos, by simpa using hk⟩, decodeLossy_take_encodeChar hpos hk⟩⟩
      rw [List.take_append_of_le_length (Nat.le_of_lt hk)]
      rfl
    · obtain ⟨k, rfl⟩ := Nat.exists_eq_add_of_le (Nat.not_lt.mp hk)
      obtain ⟨a, b, gs, rfl, htake, hgs⟩ := ih k
      refine ⟨c :: a, b, gs, rfl, ?_, hgs.imp_right fun ⟨hsplit, hread⟩ => ⟨?_, hread⟩⟩
      · rw [List.take_length_add_append, htake, encode_cons, List.append_assoc]
      · simpa [encode_cons] using hsplit.append [c]

/-- **What is read between two offsets** of an encoded text is a part of the text, after as many U+FFFD as bytes
are left of a character that is split at the first offset, and before one U+FFFD for a character that is split
at the second. -/
theorem exists_decodeLossy_slice (cs : List Char) (i j : Nat) :
    ∃ front m back, decodeLossy (((encode cs).drop i).take (j - i)) = front ++ m ++ back ∧ m <:+: cs ∧
      (∀ x ∈ front ++ back, x = '\uFFFD') ∧ (front ≠ [] → Splits i cs) ∧ (back ≠ [] → Splits j cs) := by
  obtain ⟨a, fs, b, hcs, hdrop, hfs, hsplit, hlength⟩ := exists_drop_encode cs i
  rw [hdrop]
  rcases Nat.le_total (j - i) fs.length with hshort | hlong
  · -- all that is read lies in one character
    refine ⟨List.replicate (j - i) '\uFFFD', [], [], ?_, List.nil_infix, ?_, fun hne => hsplit ?_, by simp⟩
    · have htaken : ∀ x ∈ fs.take (j - i), Continues x := fun x hx => hfs x (List.mem_of_mem_take hx)
      have hread := decodeLossy_continues_append htaken []
      rw [List.take_append_of_le_length hshort]
      simpa [decodeLossy, hshort] using hread
    · intro x hx
      rw [List.append_nil] at hx
      exact List.eq_of_mem_replicate hx
    · rintro rfl
      exact hne (by rw [Nat.le_zero.mp hshort]; rfl)
  · obtain ⟨k, hk⟩ := Nat.exists_eq_add_of_le hlong
    obtain ⟨m, b', gs, rfl, htake, hgs⟩ := exists_take_encode b k
    have htaken : (fs ++ encode (m ++ b')).take (j - i) = fs ++ (encode m ++ gs) := by
      rw [hk, List.take_length_add_append, htake]
    refine ⟨List.replicate fs.length '\uFFFD', m, decodeLossy gs, ?_, ⟨a, b', by rw [hcs, List.append_assoc]⟩, ?_,
      fun hne => hsplit fun hnil => hne (by rw [hnil]; rfl), fun hne => ?_⟩
    · rw [htaken, decodeLossy_continues_append hfs, decodeLossy_encode_append, List.append_assoc]
    · intro x hx
      rcases List.mem_append.mp hx with hx | hx
      · exact List.eq_of_mem_replicate hx
      · rcases hgs with rfl | ⟨-, hread⟩
        · simp [decodeLossy] at hx
        · simpa [hread] using hx
    · rcases hgs with rfl | ⟨hsplit', -⟩
      · exact absurd (by rw [decodeLossy]) hne
      · -- the second offset, counted from the beginning of the text
        have hpos := hsplit'.pos
        have hlt := hsplit'.lt_length
        have hrest := congrArg List.length hdrop
        rw [List.length_drop, List.length_append] at hrest
        have hoffset : (encode a).length + k = j := by
          rw [hlength (by omega)]
          omega
        rw [hcs, ← hoffset]
        exact hsplit'.append a

end Cuts

end SourceOutline.Utf8
