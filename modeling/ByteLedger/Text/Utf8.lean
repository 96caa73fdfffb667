import ByteLedger.Bytes

set_option autoImplicit false

/-!
# UTF-8

The bytes of a text, and the text of those byte strings that are well formed.
-/

namespace ByteLedger.Utf8

/-- The bytes of a text. -/
def encode (s : String) : Bytes := s.toByteArray.data.toList

/-- The text of a well-formed byte string. -/
def decode? (bs : Bytes) : Option String := String.fromUTF8? ⟨bs.toArray⟩

/-- The number of bytes of a text. -/
def length (s : String) : Nat := s.utf8ByteSize

theorem decode?_encode (s : String) : decode? (encode s) = some s := by
  have h : (⟨(encode s).toArray⟩ : ByteArray) = s.toByteArray := by
    simp [encode]
  rw [decode?, h, String.fromUTF8?, dif_pos s.isValidUTF8]
  rfl

theorem length_encode (s : String) : (encode s).length = length s := by
  rw [encode, Array.length_toList]
  rfl

end ByteLedger.Utf8
