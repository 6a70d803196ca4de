import SourceOutline.Command.Display
import Mathlib.Data.List.TakeWhile

/-!
# Reading escaped text

`readMarkup` halves the backslashes in front of a tag, and `escape` doubles them and adds one, so
that a bracket which would open a tag is text again.

* `Escapable` texts come back from reading as they were: `readMarkup_escape`. Whatever follows
  them must open no tag with their last characters (`Stops`). They are all such texts:
  `escapable_iff`.
* Such a text that was not escaped comes back only where there was nothing to escape:
  `readMarkup_append_iff`. Reading drops something from every other one, so it gets shorter.
-/

namespace SourceOutline

namespace Display

/-! ## Where a tag starts -/

/-- One of the square brackets. -/
def isBracket (c : Char) : Bool := c = '[' || c = ']'

/-- What stands behind a bracket that opens a tag. -/
def opensTag (cs : List Char) : Bool :=
  cs.head?.any startsTag && cs.find? isBracket = some ']'

theorem not_startsTag_of_isBracket {c : Char} (hc : isBracket c = true) : startsTag c = false := by
  simp only [isBracket, Bool.or_eq_true, decide_eq_true_eq] at hc
  rcases hc with rfl | rfl <;> decide

theorem isTag_cons (c : Char) (cs : List Char) :
    isTag (c :: cs) = (decide (c = '[') && opensTag cs) := by
  by_cases hc : c = '['
  · subst hc
    cases cs with
    | nil => rfl
    | cons d r =>
      cases hd : isBracket d with
      | true => simp [isTag, opensTag, not_startsTag_of_isBracket hd]
      | false =>
        have hrest : (d :: r).find? isBracket = r.find? isBracket :=
          List.find?_cons_of_neg (by simp [hd])
        have hdrop : (r.dropWhile fun d => d ≠ '[' && d ≠ ']').head? = r.find? isBracket := by
          rw [List.find?_eq_head?_dropWhile_not]
          congr 2
          funext e
          simp [isBracket]
        simp only [isTag, opensTag, hrest, hdrop, List.head?_cons, Option.any_some, decide_true,
          Bool.true_and]
  · rw [decide_eq_false hc, Bool.false_and]
    unfold isTag
    split
    · rename_i heq
      exact absurd (List.cons.inj heq).1 hc
    · rfl

theorem bracket_of_isTag {c : Char} {cs : List Char} (h : isTag (c :: cs) = true) :
    c = '[' ∧ cs.find? isBracket = some ']' := by
  rw [isTag_cons, Bool.and_eq_true, opensTag, Bool.and_eq_true, decide_eq_true_eq, decide_eq_true_eq] at h
  exact ⟨h.1, h.2.2⟩

/-- Opens no tag with what stands in front of it. -/
structure Stops (r : List Char) : Prop where
  head : r.head?.any startsTag = false
  bracket : r.find? isBracket ≠ some ']'

theorem stops_nil : Stops [] := ⟨rfl, by simp⟩

theorem opensTag_append {r : List Char} (hr : Stops r) (cs : List Char) :
    opensTag (cs ++ r) = opensTag cs := by
  cases cs with
  | nil => simp [opensTag, hr.head]
  | cons c t =>
    have hbracket : (c :: t ++ r).find? isBracket = some ']' ↔ (c :: t).find? isBracket = some ']' := by
      rw [List.find?_append]
      cases (c :: t).find? isBracket with
      | none => simpa using hr.bracket
      | some d => simp
    rw [opensTag, opensTag, decide_eq_decide.mpr hbracket]
    rfl

theorem isTag_append {r : List Char} (hr : Stops r) (c : Char) (cs : List Char) :
    isTag (c :: (cs ++ r)) = isTag (c :: cs) := by
  rw [isTag_cons, isTag_cons, opensTag_append hr]

/-! ## Tags in escaped text -/

theorem exists_escapeTags_succ (n : ℕ) (cs : List Char) : ∃ r, escapeTags (n + 1) cs = '\\' :: r := by
  induction cs generalizing n with
  | nil => exact ⟨List.replicate n '\\', by simp [escapeTags, List.replicate_succ]⟩
  | cons c t ih =>
    simp only [escapeTags]
    split_ifs with hc htag
    · exact ih (n + 1)
    · exact ⟨_, by rw [show 2 * (n + 1) + 1 = (2 * n + 2) + 1 by omega, List.replicate_succ]; rfl⟩
    · exact ⟨_, by rw [List.replicate_succ]; rfl⟩

theorem find?_isBracket_replicate (n : ℕ) : (List.replicate n '\\').find? isBracket = none := by
  simp [isBracket]

/-- Escaping adds backslashes only. -/
theorem find?_isBracket_escapeTags (n : ℕ) (cs : List Char) :
    (escapeTags n cs).find? isBracket = cs.find? isBracket := by
  induction cs generalizing n with
  | nil => exact find?_isBracket_replicate n
  | cons c t ih =>
    simp only [escapeTags]
    split_ifs with hc htag
    · rw [ih, hc]
      rfl
    all_goals
      rw [List.find?_append, find?_isBracket_replicate, Option.none_or, List.find?_cons,
        List.find?_cons, ih]

theorem opensTag_escapeTags (cs r : List Char) : opensTag (escapeTags 0 cs ++ r) = opensTag (cs ++ r) := by
  have hbracket : (escapeTags 0 cs ++ r).find? isBracket = (cs ++ r).find? isBracket := by
    rw [List.find?_append, List.find?_append, find?_isBracket_escapeTags]
  have hhead : (escapeTags 0 cs ++ r).head?.any startsTag = (cs ++ r).head?.any startsTag := by
    cases cs with
    | nil => rfl
    | cons c t =>
      simp only [escapeTags]
      split_ifs with hc htag
      · obtain ⟨x, hx⟩ := exists_escapeTags_succ 0 t
        rw [hx, hc]
        rfl
      · rw [(bracket_of_isTag htag).1]
        rfl
      · rfl
  rw [opensTag, opensTag, hbracket, hhead]

/-- Escaping what is behind a bracket does not change whether it opens a tag. -/
theorem isTag_escapeTags {r : List Char} (hr : Stops r) (c : Char) (cs : List Char) :
    isTag (c :: (escapeTags 0 cs ++ r)) = isTag (c :: cs) := by
  rw [isTag_cons, isTag_cons, opensTag_escapeTags, opensTag_append hr]

/-! ## Texts that escaping is made for -/

/-- May stand behind a backslash: some character, and a bracket only where it opens a tag. -/
def followsBackslash : List Char → Bool
  | [] => false
  | c :: r => c ≠ '[' || isTag (c :: r)

/-- Behind each backslash stands what may. -/
def escapable : List Char → Bool
  | [] => true
  | c :: r => (c ≠ '\\' || followsBackslash r) && escapable r

/-- The rest of an escapable text after so many backslashes. -/
structure Passed (n : ℕ) (cs : List Char) : Prop where
  rest : escapable cs = true
  follows : n ≠ 0 → followsBackslash cs = true

namespace Passed

variable {n : ℕ} {c : Char} {cs : List Char}

theorem start (h : escapable cs = true) : Passed 0 cs := ⟨h, fun h0 => absurd rfl h0⟩

theorem tail (h : Passed n (c :: cs)) : escapable cs = true :=
  (Bool.and_eq_true_iff.mp h.rest).2

theorem next (h : Passed n (c :: cs)) : Passed 0 cs := start h.tail

theorem backslash (h : Passed n ('\\' :: cs)) : Passed (n + 1) cs := by
  have hfollows := (Bool.and_eq_true_iff.mp h.rest).1
  exact ⟨h.tail, fun _ => by simpa using hfollows⟩

theorem eq_zero_of_nil (h : Passed n []) : n = 0 := by
  by_contra hn
  exact absurd (h.follows hn) (by decide)

/-- A bracket that opens no tag has no backslash in front of it. -/
theorem eq_zero_of_bracket (h : Passed n (c :: cs)) (hc : c = '[') (htag : isTag (c :: cs) = false) : n = 0 := by
  subst hc
  by_contra hn
  have hfollows := h.follows hn
  simp [followsBackslash, htag] at hfollows

end Passed

/-! ## Reading -/

theorem readMarkup_replicate (n k : ℕ) (cs : List Char) :
    readMarkup false n (List.replicate k '\\' ++ cs) = readMarkup false (n + k) cs := by
  induction k generalizing n with
  | zero => rfl
  | succ k ih =>
    rw [List.replicate_succ, List.cons_append, readMarkup, if_pos rfl, ih]
    congr 1
    omega

/-- Backslashes in front of a tag are halved, and one left over makes it text. -/
theorem readMarkup_of_isTag {n : ℕ} {c : Char} {cs : List Char} (hc : c ≠ '\\') (htag : isTag (c :: cs) = true) :
    readMarkup false n (c :: cs) = List.replicate (n / 2) '\\'
      ++ if n % 2 = 1 then c :: readMarkup false 0 cs else readMarkup true 0 cs := by
  rw [readMarkup, if_neg hc, if_pos htag]

/-- What is neither a backslash nor the start of a tag is read as it is. -/
theorem readMarkup_cons {n : ℕ} {c : Char} {cs : List Char} (hc : c ≠ '\\') (htag : isTag (c :: cs) = false)
    (hbracket : c = '[' → n = 0) :
    readMarkup false n (c :: cs) = List.replicate n '\\' ++ c :: readMarkup false 0 cs := by
  rw [readMarkup, if_neg hc, htag, if_neg (by simp)]
  split_ifs with h
  · rw [hbracket h]
  · rfl

/-- Reading goes past an escaped character, and what was escaped in front of it is text again. -/
theorem readMarkup_escapeTags_cons {r : List Char} (hr : Stops r) {n : ℕ} {c : Char} {cs : List Char}
    (hc : c ≠ '\\') (hbracket : c = '[' → isTag (c :: cs) = false → n = 0) :
    readMarkup false 0 (escapeTags n (c :: cs) ++ r)
      = List.replicate n '\\' ++ c :: readMarkup false 0 (escapeTags 0 cs ++ r) := by
  have hstable := isTag_escapeTags hr c cs
  rw [escapeTags, if_neg hc]
  cases htag : isTag (c :: cs) with
  | true =>
    have hodd : (2 * n + 1) % 2 = 1 := by omega
    have hhalf : (2 * n + 1) / 2 = n := by omega
    rw [if_pos rfl, List.append_assoc, List.cons_append, readMarkup_replicate, Nat.zero_add,
      readMarkup_of_isTag hc (hstable.trans htag), if_pos hodd, hhalf]
  | false =>
    rw [if_neg (by simp), List.append_assoc, List.cons_append, readMarkup_replicate, Nat.zero_add]
    exact readMarkup_cons hc (hstable.trans htag) fun h => hbracket h htag

/-- Escaped text is read as the text. -/
theorem readMarkup_escapeTags {r : List Char} (hr : Stops r) {n : ℕ} {cs : List Char} (h : Passed n cs) :
    readMarkup false 0 (escapeTags n cs ++ r) = List.replicate n '\\' ++ (cs ++ readMarkup false 0 r) := by
  induction cs generalizing n with
  | nil =>
    rw [h.eq_zero_of_nil]
    rfl
  | cons c t ih =>
    by_cases hc : c = '\\'
    · subst hc
      rw [escapeTags, if_pos rfl, ih h.backslash, List.replicate_succ', List.append_assoc]
      rfl
    · rw [readMarkup_escapeTags_cons hr hc h.eq_zero_of_bracket, ih h.next]
      rfl

/-! ### Texts that were not escaped -/

/-- Reading adds nothing to a text, and a tag that is being passed ends before what stops it. -/
theorem length_readMarkup_le {r : List Char} (hr : Stops r) (cs : List Char) :
    (∀ n, Passed n cs →
      (readMarkup false n (cs ++ r)).length ≤ n + cs.length + (readMarkup false 0 r).length) ∧
    (escapable cs = true → cs.find? isBracket = some ']' →
      (readMarkup true 0 (cs ++ r)).length ≤ cs.length + (readMarkup false 0 r).length) := by
  induction cs with
  | nil =>
    refine ⟨fun n h => ?_, fun _ hfind => by simp at hfind⟩
    simp [h.eq_zero_of_nil]
  | cons c t ih =>
    obtain ⟨ihRead, ihTag⟩ := ih
    refine ⟨fun n h => ?_, fun hesc hfind => ?_⟩
    · have hnext := ihRead 0 h.next
      by_cases hc : c = '\\'
      · subst hc
        have hmore := ihRead (n + 1) h.backslash
        rw [List.cons_append, readMarkup, if_pos rfl, List.length_cons]
        omega
      cases htag : isTag (c :: t) with
      | true =>
        have hpassed := ihTag h.tail (bracket_of_isTag htag).2
        rw [List.cons_append, readMarkup_of_isTag hc ((isTag_append hr c t).trans htag)]
        split_ifs
        · simp only [List.length_append, List.length_replicate, List.length_cons]
          omega
        · simp only [List.length_append, List.length_replicate, List.length_cons]
          omega
      | false =>
        have hread := readMarkup_cons (n := n) hc ((isTag_append hr c t).trans htag) fun hb =>
          h.eq_zero_of_bracket hb htag
        rw [List.cons_append, hread]
        simp only [List.length_append, List.length_replicate, List.length_cons]
        omega
    · have hstart : Passed 0 t := (Passed.start hesc).next
      rw [List.cons_append, readMarkup]
      by_cases hc : c = ']'
      · have hnext := ihRead 0 hstart
        simp only [hc, ne_eq, not_true_eq_false, decide_false, List.length_cons]
        omega
      · have hmore := ihTag hstart.rest (by
          rw [List.find?_cons] at hfind
          split at hfind
          · exact absurd (Option.some.inj hfind) hc
          · exact hfind)
        simp only [hc, ne_eq, not_false_eq_true, decide_true, List.length_cons]
        omega

/-- A text that is read as it is has no tags to escape. -/
theorem escapeTags_of_readMarkup {r : List Char} (hr : Stops r) {n : ℕ} {cs : List Char} (h : Passed n cs)
    (hread : readMarkup false n (cs ++ r) = List.replicate n '\\' ++ (cs ++ readMarkup false 0 r)) :
    escapeTags n cs = List.replicate n '\\' ++ cs := by
  induction cs generalizing n with
  | nil => simp [escapeTags]
  | cons c t ih =>
    by_cases hc : c = '\\'
    · subst hc
      rw [List.cons_append, readMarkup, if_pos rfl] at hread
      rw [escapeTags, if_pos rfl, ih h.backslash, List.replicate_succ', List.append_assoc]
      · rfl
      · rw [hread, List.replicate_succ', List.append_assoc]
        rfl
    cases htag : isTag (c :: t) with
    | true =>
      exfalso
      -- half of the backslashes are dropped, or the tag is
      have hnext := (length_readMarkup_le hr t).1 0 h.next
      have hpassed := (length_readMarkup_le hr t).2 h.tail (bracket_of_isTag htag).2
      rw [List.cons_append, readMarkup_of_isTag hc ((isTag_append hr c t).trans htag)] at hread
      have hlength := congrArg List.length hread
      split_ifs at hlength with hodd
      · simp only [List.length_append, List.length_replicate, List.length_cons] at hlength
        omega
      · simp only [List.length_append, List.length_replicate, List.length_cons] at hlength
        omega
    | false =>
      have hcons := readMarkup_cons (n := n) hc ((isTag_append hr c t).trans htag) fun hb =>
        h.eq_zero_of_bracket hb htag
      rw [List.cons_append, hcons] at hread
      have htail := (List.cons.inj (List.append_cancel_left hread)).2
      rw [escapeTags, if_neg hc, htag, if_neg (by simp), ih h.next htail]
      rfl

/-! ## Strings -/

/-- Reading undoes escaping for this text. -/
def Escapable (s : String) : Prop := escapable s.toList = true

instance (s : String) : Decidable (Escapable s) := inferInstanceAs (Decidable (_ = _))

/-- The number of backslashes at the end, after so many that have been passed. -/
def endBackslashes : ℕ → List Char → ℕ
  | n, [] => n
  | n, c :: r => if c = '\\' then endBackslashes (n + 1) r else endBackslashes 0 r

theorem endBackslashes_of_passed {n : ℕ} {cs : List Char} (h : Passed n cs) : endBackslashes n cs = 0 := by
  induction cs generalizing n with
  | nil => exact h.eq_zero_of_nil
  | cons c t ih =>
    rw [endBackslashes]
    split_ifs with hc
    · subst hc
      exact ih h.backslash
    · exact ih h.next

/-- Escaping keeps the backslashes at the end. -/
theorem exists_escapeTags_eq (n : ℕ) (cs : List Char) :
    ∃ x, escapeTags n cs = x ++ List.replicate (endBackslashes n cs) '\\' ∧ x.getLast? ≠ some '\\' := by
  induction cs generalizing n with
  | nil => exact ⟨[], rfl, by simp⟩
  | cons c t ih =>
    rw [escapeTags, endBackslashes]
    split_ifs with hc htag
    · exact ih (n + 1)
    all_goals
      obtain ⟨x, hx, hlast⟩ := ih 0
      refine ⟨List.replicate _ '\\' ++ c :: x, by rw [hx, List.append_assoc, List.cons_append], ?_⟩
      rw [List.getLast?_append, List.getLast?_cons]
      cases hend : x.getLast? with
      | none => simpa using hc
      | some d =>
        rw [hend] at hlast
        simpa using hlast

theorem closeBackslash_append {x : List Char} (hx : x.getLast? ≠ some '\\') (k : ℕ) :
    closeBackslash (x ++ List.replicate k '\\')
      = if k = 1 then x ++ List.replicate k '\\' ++ ['\\'] else x ++ List.replicate k '\\' := by
  rw [List.getLast?_eq_head?_reverse] at hx
  rw [closeBackslash, List.reverse_append, List.reverse_replicate]
  match k with
  | 0 =>
    cases hrev : x.reverse with
    | nil => rfl
    | cons d r =>
      rw [hrev] at hx
      have hd : d ≠ '\\' := by simpa using hx
      simp [hd]
  | 1 =>
    cases hrev : x.reverse with
    | nil => rfl
    | cons d r =>
      rw [hrev] at hx
      have hd : d ≠ '\\' := by simpa using hx
      simp [hd]
  | k + 2 => simp [List.replicate_succ]

/-- Escaping is done before a backslash at the end is looked at; a single one gets another. -/
theorem toList_escape (s : String) :
    (escape s).toList = if endBackslashes 0 s.toList = 1 then escapeTags 0 s.toList ++ ['\\']
      else escapeTags 0 s.toList := by
  obtain ⟨x, hx, hlast⟩ := exists_escapeTags_eq 0 s.toList
  rw [escape, String.toList_ofList, hx, closeBackslash_append hlast]

theorem toList_escape_of_escapable {s : String} (h : Escapable s) :
    (escape s).toList = escapeTags 0 s.toList := by
  rw [toList_escape, endBackslashes_of_passed (Passed.start h)]
  rfl

theorem escape_eq_iff {s : String} (h : Escapable s) : escape s = s ↔ escapeTags 0 s.toList = s.toList := by
  rw [← String.toList_inj, toList_escape_of_escapable h]

/-- An escaped text is read as it was, in front of whatever opens no tag with it. -/
theorem readMarkup_escape {s : String} (h : Escapable s) {r : List Char} (hr : Stops r) :
    readMarkup false 0 ((escape s).toList ++ r) = s.toList ++ readMarkup false 0 r := by
  rw [toList_escape_of_escapable h]
  exact readMarkup_escapeTags hr (Passed.start h)

/-- Where an escaped text is read as the text, the backslashes at its end come back, and each one
before them stands where it may. -/
theorem passed_of_readMarkup {r : List Char} (hr : Stops r) {n : ℕ} {cs rest : List Char}
    (hread : readMarkup false 0 (escapeTags n cs ++ r) = List.replicate n '\\' ++ (cs ++ rest)) :
    readMarkup false (endBackslashes n cs) r = List.replicate (endBackslashes n cs) '\\' ++ rest ∧
      (endBackslashes n cs = 0 → Passed n cs) := by
  induction cs generalizing n with
  | nil =>
    rw [escapeTags, readMarkup_replicate, Nat.zero_add] at hread
    refine ⟨hread, fun hn => ⟨rfl, fun h => absurd hn h⟩⟩
  | cons c t ih =>
    by_cases hc : c = '\\'
    · subst hc
      rw [escapeTags, if_pos rfl] at hread
      have hnext := ih (n := n + 1) (by
        rw [hread, List.replicate_succ', List.append_assoc]
        rfl)
      rw [endBackslashes, if_pos rfl]
      refine ⟨hnext.1, fun hn => ?_⟩
      have hpassed := hnext.2 hn
      have hfollows := hpassed.follows (by omega)
      exact ⟨by simp [escapable, hfollows, hpassed.rest], fun _ => rfl⟩
    -- a bracket that opens no tag loses a backslash in front of it
    have hbracket : c = '[' → isTag (c :: t) = false → n = 0 := by
      intro hb htag
      cases n with
      | zero => rfl
      | succ m =>
        exfalso
        have hstable := (isTag_escapeTags hr c t).trans htag
        rw [escapeTags, if_neg hc, htag, if_neg (by simp), List.append_assoc, List.cons_append,
          readMarkup_replicate, Nat.zero_add, readMarkup, if_neg hc, hstable, if_neg (by simp), if_pos hb,
          Nat.add_sub_cancel, List.replicate_succ', List.append_assoc] at hread
        exact hc (List.cons.inj (List.append_cancel_left hread)).1
    rw [readMarkup_escapeTags_cons hr hc hbracket] at hread
    have hnext := ih (n := 0) (List.cons.inj (List.append_cancel_left hread)).2
    rw [endBackslashes, if_neg hc]
    refine ⟨hnext.1, fun hn => ⟨?_, fun hpos => ?_⟩⟩
    · simp [escapable, hc, (hnext.2 hn).rest]
    · cases htag : isTag (c :: t) with
      | true => simp [followsBackslash, htag]
      | false =>
        have hb : c ≠ '[' := fun hb => hpos (hbracket hb htag)
        simp [followsBackslash, hb]

theorem stops_close : Stops ['[', '/', ']'] := ⟨rfl, by decide⟩

/-- Backslashes in front of a closing tag are halved. -/
theorem eq_zero_of_readMarkup_close {k : ℕ}
    (h : readMarkup false k ['[', '/', ']'] = List.replicate k '\\') : k = 0 := by
  rw [readMarkup_of_isTag (by decide) rfl] at h
  split_ifs at h with hodd
  · have hmem : '[' ∈ List.replicate k '\\' := by
      rw [← h]
      simp
    exact absurd (List.eq_of_mem_replicate hmem) (by decide)
  · have hlength := congrArg List.length h
    simp [readMarkup] at hlength
    omega

/-- The texts whose escaping is undone by reading wherever they stand. -/
theorem escapable_iff {s : String} :
    Escapable s ↔ ∀ r, Stops r →
      readMarkup false 0 ((escape s).toList ++ r) = s.toList ++ readMarkup false 0 r := by
  constructor
  · intro h r hr
    exact readMarkup_escape h hr
  intro h
  by_cases hend : endBackslashes 0 s.toList = 1
  · -- at the end of a text the second backslash is seen
    have hread := h [] stops_nil
    rw [toList_escape, if_pos hend, List.append_nil] at hread
    have hone := (passed_of_readMarkup (r := ['\\']) (n := 0) ⟨rfl, by decide⟩ hread).1
    rw [hend] at hone
    exact absurd hone (by decide)
  · have hread := h _ stops_close
    rw [toList_escape, if_neg hend] at hread
    have hpassed := passed_of_readMarkup (n := 0) stops_close hread
    have hclose : readMarkup false 0 ['[', '/', ']'] = [] := rfl
    rw [hclose, List.append_nil] at hpassed
    exact (hpassed.2 (eq_zero_of_readMarkup_close hpassed.1)).rest

/-- A text that was not escaped is read as it is only where escaping it changes nothing. -/
theorem readMarkup_append_iff {s : String} (h : Escapable s) {r : List Char} (hr : Stops r) :
    readMarkup false 0 (s.toList ++ r) = s.toList ++ readMarkup false 0 r ↔ escape s = s := by
  constructor
  · intro hread
    exact (escape_eq_iff h).mpr (escapeTags_of_readMarkup hr (Passed.start h) hread)
  · intro heq
    have hread := readMarkup_escape h hr
    rwa [heq] at hread

end Display

end SourceOutline
