/-!
# UTF-8

Bytes as text, and where they stop being text.
-/

namespace FlatQuery.Text

def encode (s : String) : List UInt8 := s.toByteArray.data.toList

def decode? (bytes : List UInt8) : Option String := String.fromUTF8? ⟨bytes.toArray⟩

/-- The length of the longest beginning that is UTF-8. -/
def validLength (bytes : List UInt8) : Nat :=
  ((List.range (bytes.length + 1)).reverse.find? fun n => (decode? (bytes.take n)).isSome).getD 0

theorem decode?_encode (s : String) : decode? (encode s) = some s := by
  have h : (⟨(encode s).toArray⟩ : ByteArray) = s.toByteArray := rfl
  unfold decode?
  rw [h]
  simp [String.fromUTF8?, s.isValidUTF8]
  rfl

end FlatQuery.Text
