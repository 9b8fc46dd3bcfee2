import ShaderShrink.Json.Basic
import ShaderShrink.Shader.Version
import ShaderShrink.Text.Lines

/-!
# Shaders

A shader is a text with its metadata and the version that the text declared when it was read.
Replacing the lines keeps the metadata and the version.
-/

namespace ShaderShrink

/-- The fields of a JSON object that goes with a shader. -/
abbrev Metadata := List (String × Json)

/-- A shader with its metadata. -/
structure Shader where
  text : Text
  metadata : Metadata
  version : Version

namespace Shader

/-- What the names of shader files end with. -/
def fileSuffix : String := ".frag"

/-- What the names of metadata files end with. -/
def metadataSuffix : String := ".json"

/-- The shader with the given text, in the version that the text declares. -/
def ofText (text : Text) (metadata : Metadata) : Except Fault Shader :=
  (Version.ofText text).map fun version => ⟨text, metadata, version⟩

/-- The lines of a shader. -/
def lines (shader : Shader) : List Text := shader.text.lines

/-- The shader with other lines. -/
def withLines (shader : Shader) (lines : List Text) : Shader :=
  { shader with text := Text.unlines lines }

end Shader

end ShaderShrink
