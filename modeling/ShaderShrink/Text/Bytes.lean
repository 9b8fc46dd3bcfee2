import ShaderShrink.Text.Lines

/-!
# Texts as bytes

Texts are stored as UTF-8.  A text that is read has all its line breaks turned into line feeds; a
text that is written is stored as it is.
-/

namespace ShaderShrink.Text

/-- The bytes of a text. -/
def utf8 (t : Text) : ByteArray := (String.ofList t).toUTF8

/-- The text of some bytes, if they are UTF-8. -/
def ofUtf8? (bytes : ByteArray) : Option Text := bytes.utf8Decode?.map Array.toList

/-- The text of some bytes with line feeds for all line breaks, if they are UTF-8. -/
def read? (bytes : ByteArray) : Option Text := (ofUtf8? bytes).map universalNewlines

end ShaderShrink.Text
