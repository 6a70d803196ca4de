import SourceOutline.Proofs.Text.Utf8
import SourceOutline.Syntax.Node

/-!
# The text of a node

Nodes have offsets in bytes, and texts have characters.  A range that begins and ends between two characters
has exactly the characters in it as its text.  Any other range has a text as well: an offset past the end
counts as the end, a range that ends before it begins is empty, and what is left of a character that is split
is replaced.

Main statement: `text_of_range`.
-/

namespace SourceOutline.Source

theorem toList_text (s : String) (n : Node) :
    ((ofString s).text n).toList =
      Utf8.decodeLossy (((Utf8.encode s.toList).drop n.start).take (n.stop - n.start)) :=
  String.toList_ofList

theorem text_between (a b c : String) (n : Node) :
    (ofString (a ++ b ++ c)).text
      { n with start := a.utf8ByteSize, stop := a.utf8ByteSize + b.utf8ByteSize } = b := by
  have hbytes : Utf8.encode (a ++ b ++ c).toList =
      Utf8.encode a.toList ++ (Utf8.encode b.toList ++ Utf8.encode c.toList) := by
    rw [String.toList_append, String.toList_append, Utf8.encode_append, Utf8.encode_append, List.append_assoc]
  apply String.toList_injective
  rw [toList_text, hbytes]
  dsimp only
  rw [Nat.add_sub_cancel_left, ← Utf8.length_encode, ← Utf8.length_encode, List.drop_left, List.take_left,
    Utf8.decodeLossy_encode]

/-- A text is empty if there are no bytes in its range. -/
theorem text_eq_empty_iff (s : String) (n : Node) :
    (ofString s).text n = "" ↔ min n.stop s.utf8ByteSize ≤ min n.start s.utf8ByteSize := by
  rw [← String.toList_eq_nil_iff, toList_text, Utf8.decodeLossy_eq_nil_iff, ← List.length_eq_zero_iff,
    List.length_take, List.length_drop, Utf8.length_encode]
  omega

/-- **The text of a node**, in a source of three parts, is the second part if the node ranges over the bytes
of that part.  In any source, the text of any range is empty exactly if no byte lies in the range.  It is a
part of the source, with U+FFFD before it only if the range begins inside a character, and after it only if it
ends inside one; so only then can it have more of them than the source. -/
theorem text_of_range (n : Node) :
    (∀ a b c : String, (ofString (a ++ b ++ c)).text
      { n with start := a.utf8ByteSize, stop := a.utf8ByteSize + b.utf8ByteSize } = b) ∧
    ∀ s : String,
      ((ofString s).text n = "" ↔ min n.stop s.utf8ByteSize ≤ min n.start s.utf8ByteSize) ∧
      (∃ front m back, ((ofString s).text n).toList = front ++ m ++ back ∧ m <:+: s.toList ∧
        (∀ c ∈ front ++ back, c = '\uFFFD') ∧ (front ≠ [] → Utf8.Splits n.start s.toList) ∧
        (back ≠ [] → Utf8.Splits n.stop s.toList)) ∧
      (s.toList.count '\uFFFD' < ((ofString s).text n).toList.count '\uFFFD' →
        Utf8.Splits n.start s.toList ∨ Utf8.Splits n.stop s.toList) := by
  refine ⟨fun a b c => text_between a b c n, fun s => ?_⟩
  have hparts := Utf8.exists_decodeLossy_slice s.toList n.start n.stop
  rw [← toList_text] at hparts
  refine ⟨text_eq_empty_iff s n, hparts, fun hcount => ?_⟩
  obtain ⟨front, m, back, htext, hm, -, hstart, hstop⟩ := hparts
  have hle : m.count '\uFFFD' ≤ s.toList.count '\uFFFD' := hm.sublist.count_le _
  by_cases hfront : front = []
  · by_cases hback : back = []
    · rw [htext, hfront, hback, List.nil_append, List.append_nil] at hcount
      omega
    · exact .inr (hstop hback)
  · exact .inl (hstart hfront)

end SourceOutline.Source
