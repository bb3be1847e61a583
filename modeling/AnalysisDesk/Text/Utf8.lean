/-! # UTF-8 length
How many bytes a run of characters takes in UTF-8, and the bytes themselves. -/

namespace AnalysisDesk.Text

/-- The number of bytes of the characters in UTF-8. -/
def byteLength (text : List Char) : Nat := text.foldr (·.utf8Size + ·) 0

/-- The bytes of the characters in UTF-8. -/
def bytes (text : List Char) : List UInt8 := text.flatMap String.utf8EncodeChar

@[simp] theorem byteLength_nil : byteLength [] = 0 := rfl

@[simp] theorem byteLength_cons (c : Char) (text : List Char) :
    byteLength (c :: text) = c.utf8Size + byteLength text := rfl

@[simp] theorem byteLength_append (left right : List Char) :
    byteLength (left ++ right) = byteLength left + byteLength right := by
  induction left with
  | nil => exact (Nat.zero_add _).symm
  | cons c rest ih => rw [List.cons_append, byteLength_cons, byteLength_cons, ih, Nat.add_assoc]

@[simp] theorem bytes_append (left right : List Char) :
    bytes (left ++ right) = bytes left ++ bytes right := List.flatMap_append

/-- The length in bytes is the number of bytes. -/
theorem length_bytes (text : List Char) : (bytes text).length = byteLength text := by
  induction text with
  | nil => rfl
  | cons c rest ih => simp [bytes] at ih ⊢; omega

/-- Different texts have different bytes. -/
theorem bytes_injective : Function.Injective bytes := by
  intro left right same
  have encoded : left.utf8Encode = right.utf8Encode := congrArg List.toByteArray same
  have decoded := congrArg ByteArray.utf8Decode? encoded
  rw [List.utf8Decode?_utf8Encode, List.utf8Decode?_utf8Encode, Option.some.injEq] at decoded
  exact Array.toList_inj.mpr decoded

end AnalysisDesk.Text
