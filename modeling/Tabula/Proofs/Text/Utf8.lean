import Tabula.Text.Utf8

/-!
# Bytes of characters

A text is encoded character by character. A byte below 0x80 stands for the character of
that number and for no other.
-/

namespace Tabula.Text.Utf8

theorem encode_eq_flatMap (text : String) :
    encode text = text.toList.flatMap String.utf8EncodeChar := by
  have bytes : text.toByteArray = text.toList.utf8Encode := by
    rw [← String.toByteArray_ofList, String.ofList_toList]
  rw [encode, String.toUTF8, bytes, List.utf8Encode]
  simp

theorem encode_ofList (chars : List Char) :
    encode (String.ofList chars) = chars.flatMap String.utf8EncodeChar := by
  rw [encode_eq_flatMap, String.toList_ofList]

theorem length_encode (text : String) : (encode text).length = byteCount text.toList := by
  rw [encode_eq_flatMap]
  induction text.toList with
  | nil => rfl
  | cons char rest ih =>
      rw [List.flatMap_cons, List.length_append, ih, String.length_utf8EncodeChar, byteCount_cons]

theorem byteCount_toList (text : String) : byteCount text.toList = text.utf8ByteSize := by
  rw [← length_encode]
  rfl

theorem utf8EncodeChar_ne_nil (char : Char) : String.utf8EncodeChar char ≠ [] := by
  intro isNil
  have size := String.length_utf8EncodeChar char
  rw [isNil] at size
  exact absurd char.utf8Size_pos (by simp [← size])

/-- Decoding accepts exactly the encodings of texts. -/
theorem decode?_eq_some_iff {bytes : List UInt8} {text : String} :
    decode? bytes = some text ↔ encode text = bytes := by
  constructor
  · intro decoded
    unfold decode? String.fromUTF8? at decoded
    split at decoded
    · cases decoded
      simp [encode, String.toUTF8, String.fromUTF8]
    · cases decoded
  · rintro rfl
    exact decode?_encode text

/-! ## Characters of one byte -/

theorem utf8Size_of_ascii {char : Char} (ascii : char.toNat < 0x80) : char.utf8Size = 1 := by
  rw [Char.utf8Size_eq_one_iff, UInt32.le_iff_toNat_le]
  exact Nat.le_of_lt_succ ascii

theorem utf8EncodeChar_of_ascii {char : Char} (ascii : char.toNat < 0x80) :
    String.utf8EncodeChar char = [UInt8.ofNat char.toNat] := by
  have value : char.val.toNat = char.toNat := rfl
  have small : char.toNat ≤ 0x7F := by omega
  simp [String.utf8EncodeChar, value, small]

/-- A small byte stands for itself only. -/
theorem toNat_of_mem_utf8EncodeChar {char : Char} {byte : UInt8}
    (member : byte ∈ String.utf8EncodeChar char) (ascii : byte.toNat < 0x80) :
    char.toNat = byte.toNat := by
  have value : char.val.toNat = char.toNat := rfl
  unfold String.utf8EncodeChar at member
  simp only at member
  repeat' split at member
  all_goals simp only [List.mem_cons, List.not_mem_nil, or_false] at member
  · subst member
    rw [UInt8.toNat_ofNat'] at ascii ⊢
    omega
  -- every other byte is at least 0x80
  · rcases member with rfl | rfl <;> rw [UInt8.toNat_ofNat'] at ascii <;> omega
  · rcases member with rfl | rfl | rfl <;> rw [UInt8.toNat_ofNat'] at ascii <;> omega
  · rcases member with rfl | rfl | rfl | rfl <;> rw [UInt8.toNat_ofNat'] at ascii <;> omega

/-- The byte of a small character occurs in that character only. -/
theorem eq_of_mem_utf8EncodeChar {char sign : Char} (ascii : sign.toNat < 0x80)
    (member : UInt8.ofNat sign.toNat ∈ String.utf8EncodeChar char) : char = sign := by
  have byteValue : (UInt8.ofNat sign.toNat).toNat = sign.toNat := by
    rw [UInt8.toNat_ofNat']
    omega
  apply Char.toNat_inj.1
  rw [← byteValue]
  apply toNat_of_mem_utf8EncodeChar member
  rw [byteValue]
  exact ascii

end Tabula.Text.Utf8
