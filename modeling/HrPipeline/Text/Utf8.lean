/-!
# Bytes and texts

Payloads, keys and header values are sequences of bytes. A text has one sequence of bytes, its
UTF-8 form, and a sequence of bytes is the form of at most one text.
-/

namespace HrPipeline

/-- A sequence of bytes. -/
abbrev Bytes := List UInt8

namespace Text

/-- The UTF-8 form of a text. -/
def utf8 (s : String) : Bytes := s.toByteArray.data.toList

/-- The text whose UTF-8 form the bytes are. -/
def ofUtf8? (bytes : Bytes) : Option String := String.fromUTF8? ⟨bytes.toArray⟩

/-- Reading the UTF-8 form of a text gives the text back. -/
theorem ofUtf8?_utf8 (s : String) : ofUtf8? (utf8 s) = some s := by
  have h : ByteArray.mk (utf8 s).toArray = s.toByteArray := by simp [utf8]
  rw [ofUtf8?, h, String.fromUTF8?, dif_pos s.isValidUTF8]
  rfl

/-- Different texts have different UTF-8 forms. -/
theorem utf8_inj {s t : String} (h : utf8 s = utf8 t) : s = t := by
  have := congrArg ofUtf8? h
  simpa [ofUtf8?_utf8] using this

/-- The number of bytes of the UTF-8 form of a text. -/
def byteLength (cs : List Char) : Nat := cs.foldr (fun c n => c.utf8Size + n) 0

end Text
end HrPipeline
