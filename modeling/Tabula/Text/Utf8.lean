/-!
# UTF-8

Bytes and the text that they encode. Decoding accepts exactly the encodings of
texts; of any other bytes, `validLength` says how many are still good.
-/

namespace Tabula.Text.Utf8

/-- The bytes of a text. -/
def encode (text : String) : List UInt8 :=
  text.toUTF8.data.toList

/-- The number of bytes that encode characters. -/
def byteCount : List Char → Nat
  | [] => 0
  | char :: rest => char.utf8Size + byteCount rest

@[simp]
theorem byteCount_nil : byteCount [] = 0 :=
  rfl

@[simp]
theorem byteCount_cons (char : Char) (chars : List Char) :
    byteCount (char :: chars) = char.utf8Size + byteCount chars :=
  rfl

@[simp]
theorem byteCount_append (first second : List Char) :
    byteCount (first ++ second) = byteCount first + byteCount second := by
  induction first with
  | nil => simp
  | cons char rest ih => simp [ih, Nat.add_assoc]

/-- The text that the bytes encode, if there is one. -/
def decode? (bytes : List UInt8) : Option String :=
  String.fromUTF8? bytes.toByteArray

/-- The length of the longest beginning that encodes a text. -/
def validLength (bytes : List UInt8) : Nat :=
  ((List.range (bytes.length + 1)).reverse.find? fun length =>
    (decode? (bytes.take length)).isSome).getD 0

/-- Decoding takes back encoding. -/
@[simp]
theorem decode?_encode (text : String) : decode? (encode text) = some text := by
  have bytes : (encode text).toByteArray = text.toUTF8 := by
    apply ByteArray.ext
    simp [encode]
  rw [decode?, bytes]
  simp [String.fromUTF8?, text.isValidUTF8]
  rfl

end Tabula.Text.Utf8
