import FileShareX.Foundation.Text

/-!
# Decoding with replacement

`bytes.decode('utf-8', errors='replace')`.  A character that is not well formed
is replaced by U+FFFD, once for each maximal part of it that a character could
still have begun with.
-/

namespace Wire

/-- How many bytes follow a first byte, and the range of the byte right behind it. -/
def continuation (first : UInt8) : Nat × UInt8 × UInt8 :=
  if first < 0xC2 then (0, 0x80, 0xBF)
  else if first < 0xE0 then (1, 0x80, 0xBF)
  else if first < 0xF0 then
    (2, if first = 0xE0 then 0xA0 else 0x80, if first = 0xED then 0x9F else 0xBF)
  else if first < 0xF5 then
    (3, if first = 0xF0 then 0x90 else 0x80, if first = 0xF4 then 0x8F else 0xBF)
  else (0, 0x80, 0xBF)

def continued : Nat → UInt8 → UInt8 → Bytes → Nat
  | awaited + 1, low, high, byte :: rest =>
    if low ≤ byte ∧ byte ≤ high then continued awaited 0x80 0xBF rest + 1 else 0
  | _, _, _, _ => 0

/-- The length of the part replaced at the start of bytes that hold no character there. -/
def malformed : Bytes → Nat
  | [] => 1
  | first :: rest =>
    let (awaited, low, high) := continuation first
    continued awaited low high rest + 1

def decodeChars (bytes : Bytes) : List Char :=
  if bytes = [] then []
  else match bytes.toByteArray.utf8DecodeChar? 0 with
  | some c => c :: decodeChars (bytes.drop c.utf8Size)
  | none => '\uFFFD' :: decodeChars (bytes.drop (malformed bytes))
termination_by bytes.length
decreasing_by
  · have size := c.utf8Size_pos
    have nonempty : 0 < bytes.length := List.length_pos_iff.mpr ‹_›
    simp only [List.length_drop]
    omega
  · have nonempty : 0 < bytes.length := List.length_pos_iff.mpr ‹_›
    have size : 0 < malformed bytes := by
      cases bytes with
      | nil => exact Nat.one_pos
      | cons first rest => exact Nat.succ_pos _
    simp only [List.length_drop]
    omega

def decode (bytes : Bytes) : String := String.ofList (decodeChars bytes)

theorem decodeChars_nil : decodeChars [] = [] := by
  rw [decodeChars, if_pos rfl]

theorem decodeChars_encoded (c : Char) (rest : Bytes) :
    decodeChars (String.utf8EncodeChar c ++ rest) = c :: decodeChars rest := by
  have length : (String.utf8EncodeChar c).length = c.utf8Size := String.length_utf8EncodeChar c
  have nonempty : String.utf8EncodeChar c ++ rest ≠ [] := by
    intro empty
    rw [(List.append_eq_nil_iff.mp empty).1] at length
    exact absurd c.utf8Size_pos (by rw [← length]; exact Nat.lt_irrefl 0)
  have front : (String.utf8EncodeChar c ++ rest).toByteArray.utf8DecodeChar? 0 = some c := by
    rw [List.toByteArray_append]
    exact ByteArray.utf8DecodeChar?_utf8EncodeChar_append
  rw [decodeChars, if_neg nonempty, front]
  dsimp only
  rw [← length, List.drop_left]

theorem decode_utf8 (text : String) : decode (utf8 text) = text := by
  have chars (text : List Char) : decodeChars (text.flatMap String.utf8EncodeChar) = text := by
    induction text with
    | nil => exact decodeChars_nil
    | cons c text ih => rw [List.flatMap_cons, decodeChars_encoded, ih]
  rw [decode, utf8, chars, String.ofList_toList]

end Wire
