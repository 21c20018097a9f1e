/-!
# Text as bytes

File content, secret values and everything that is hashed are lists of bytes; names and
settings are text. The two meet in the UTF-8 encoding: `utf8` writes it and `ofUtf8?` reads it
back, refusing overlong forms, surrogates and anything cut short.
-/

set_option autoImplicit false

namespace ComposeCluster

/-- A sequence of bytes. -/
abbrev Bytes := List UInt8

namespace Text

/-- The UTF-8 encoding of a text. -/
def utf8 (text : String) : Bytes :=
  text.toByteArray.data.toList

/-- The text that bytes encode, if they are valid UTF-8. -/
def ofUtf8? (bytes : Bytes) : Option String :=
  String.fromUTF8? ⟨bytes.toArray⟩

/-- Reading finds exactly the text that was written. -/
theorem ofUtf8?_eq_some {bytes : Bytes} {text : String} (h : ofUtf8? bytes = some text) :
    utf8 text = bytes := by
  unfold ofUtf8? String.fromUTF8? at h
  split at h
  · cases h; simp [utf8, String.fromUTF8]
  · simp at h

end Text

end ComposeCluster
