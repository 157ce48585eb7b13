import Mathlib.Data.String.Basic

/-!
# The order of texts is the order of their bytes

Texts are compared character by character. The order is the same byte by byte: the encodings of
two different characters part at a byte, neither is the beginning of the other, and the encoding
of the smaller character has the smaller byte there.
-/

namespace Spreadsheet.Text

/-- The bytes of a text in UTF-8. -/
def bytes (text : String) : List UInt8 :=
  text.toUTF8.data.toList

/-- The bytes of a text are those of its characters. -/
theorem bytes_eq_flatMap (text : String) :
    bytes text = text.toList.flatMap String.utf8EncodeChar := by
  rw [bytes, String.toUTF8_eq_toByteArray, ← String.utf8Encode_toList, List.utf8Encode,
    List.toList_data_toByteArray]

/-- Bytes are compared as the numbers that they stand for. -/
theorem cons_lt_cons_iff {left right : Nat} {leftRest rightRest : List UInt8}
    (leftFits : left < 256) (rightFits : right < 256) :
    UInt8.ofNat left :: leftRest < UInt8.ofNat right :: rightRest ↔
      left < right ∨ left = right ∧ leftRest < rightRest := by
  rw [List.cons_lt_cons_iff, UInt8.lt_iff_toNat_lt, ← UInt8.toNat_inj,
    UInt8.toNat_ofNat_of_lt' leftFits, UInt8.toNat_ofNat_of_lt' rightFits]

/-- Code points are cut into digits of six bits. What the first byte says besides is how many
there are, and more digits stand for a greater number. -/
theorem utf8EncodeChar_append_lt {left right : Char} (less : left < right)
    (leftRest rightRest : List UInt8) :
    String.utf8EncodeChar left ++ leftRest < String.utf8EncodeChar right ++ rightRest := by
  have numbers : left.toNat < right.toNat := less
  have rightWithin : right.toNat < 0x110000 := by
    obtain low | ⟨-, within⟩ :
        right.toNat < 0xD800 ∨ 0xDFFF < right.toNat ∧ right.toNat < 0x110000 := right.valid
    · omega
    · exact within
  have thousands (number : Nat) : number / 4096 = number / 64 / 64 := by omega
  have millions (number : Nat) : number / 262144 = number / 64 / 64 / 64 := by omega
  simp only [String.utf8EncodeChar, Char.toNat_val, thousands, millions]
  -- Of two lengths the first bytes decide; of one length the highest digit that differs.
  split_ifs <;>
    simp (disch := omega) only [List.cons_append, List.nil_append, cons_lt_cons_iff] <;> omega

/-- The bytes of characters are in the order of the characters. -/
theorem flatMap_utf8EncodeChar_lt {left right : List Char} (less : left < right) :
    left.flatMap String.utf8EncodeChar < right.flatMap String.utf8EncodeChar := by
  induction less with
  | @nil head rest =>
    obtain ⟨first, others, encoded⟩ :=
      List.exists_cons_of_ne_nil (String.utf8EncodeChar_ne_nil (c := head))
    rw [List.flatMap_nil, List.flatMap_cons, encoded]
    exact List.nil_lt_cons first _
  | cons _ inductionHypothesis =>
    rw [List.flatMap_cons, List.flatMap_cons]
    exact List.append_left_lt inductionHypothesis
  | rel headLess =>
    rw [List.flatMap_cons, List.flatMap_cons]
    exact utf8EncodeChar_append_lt headLess _ _

/-- The order of texts is the order of their bytes. -/
theorem lt_iff_bytes_lt {left right : String} : left < right ↔ bytes left < bytes right := by
  have ascends {lower upper : String} (less : lower < upper) : bytes lower < bytes upper := by
    rw [bytes_eq_flatMap, bytes_eq_flatMap]
    exact flatMap_utf8EncodeChar_lt less
  refine ⟨ascends, fun less => ?_⟩
  obtain lower | rfl | upper := lt_trichotomy left right
  · exact lower
  · exact absurd less (List.lt_irrefl _)
  · exact absurd less (List.lt_asymm (ascends upper))

/-- Texts are compared by their bytes. -/
theorem compare_eq_lt_iff {left right : String} :
    compare left right = .lt ↔ bytes left < bytes right := by
  rw [← lt_iff_bytes_lt]
  exact compareOfLessAndEq_eq_lt

end Spreadsheet.Text
