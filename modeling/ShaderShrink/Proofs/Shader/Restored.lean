import ShaderShrink.Proofs.Shader.Stored
import ShaderShrink.Proofs.Text.CarriageReturn

/-!
# Shaders that are read again

The text of a stored shader is read as it was, if it has no carriage returns.  Its metadata are written with
the fields of every object in order, and are read up to that order.  The copy of a shader's two files is read
as the shader itself.
-/

namespace ShaderShrink

open Text (Returnless)

namespace Json

mutual

/-- The value with the fields of all its objects in the order of their names. -/
def sorted : Json → Json
  | .arr items => .arr (sortedItems items)
  | .obj fields =>
    .obj ((sortedFields fields).mergeSort fun a b => !Text.precedes b.1.toList a.1.toList)
  | value => value

/-- The items with the fields of all objects in order. -/
def sortedItems : List Json → List Json
  | [] => []
  | item :: items => item.sorted :: sortedItems items

/-- The fields in their own order, with those of all objects in their values in order. -/
def sortedFields : List (String × Json) → List (String × Json)
  | [] => []
  | (name, value) :: fields => (name, value.sorted) :: sortedFields fields

end

end Json

namespace Metadata

/-- Whether metadata are the same but for the order of fields. -/
def Same (a b : Metadata) : Prop := (Json.obj a).sorted = (Json.obj b).sorted

theorem Same.refl (metadata : Metadata) : Same metadata metadata := rfl

theorem Same.symm {a b : Metadata} (same : Same a b) : Same b a := Eq.symm same

theorem Same.trans {a b c : Metadata} (first : Same a b) (second : Same b c) : Same a c :=
  Eq.trans first second

/-- Whether metadata are read again, once they were written. -/
def ReadsBack (metadata : Metadata) : Prop :=
  ∀ document, (Json.obj metadata).indented? = some document →
    ∃ read, Json.ofBytes? (Text.utf8 document) = some (.obj read) ∧ Same metadata read

theorem readsBack_nil : ReadsBack [] := by
  intro document written
  have empty : (Json.obj []).indented? = some ['{', '}'] := by decide +kernel
  rw [empty] at written
  cases written
  exact ⟨[], by rfl, .refl []⟩

end Metadata

namespace Shader

variable {σ : Type} {tree a b : FileTree} {path source target : Path} {shader : Shader}
  {text : Text} {metadata : Metadata} {content document : ByteArray}

/-- Whether a shader can be read at a path, up to the order of the fields in its metadata. -/
def Restorable (tree : FileTree) (path : Path) (shader : Shader) : Prop :=
  ∃ metadata, Legible tree path shader.text metadata ∧ Metadata.Same shader.metadata metadata

theorem Restorable.of_agreeOn (restorable : Restorable a path shader)
    (agree : FileTree.AgreeOn (Sight path) a b) : Restorable b path shader := by
  obtain ⟨metadata, legible, same⟩ := restorable
  exact ⟨metadata, legible.of_agreeOn agree, same⟩

theorem Legible.restorable (legible : Legible tree path shader.text shader.metadata) :
    Restorable tree path shader := ⟨_, legible, .refl _⟩

/-- A stored shader can be read again. -/
theorem StoredAt.restorable (stored : StoredAt tree path shader) (returnless : Returnless shader.text)
    (readsBack : Metadata.ReadsBack shader.metadata) : Restorable tree path shader := by
  obtain ⟨text, sidecar, document, beside, written, found⟩ := stored
  obtain ⟨metadata, read, same⟩ := readsBack document written
  exact ⟨metadata, ⟨⟨_, text, Text.read?_utf8 returnless⟩, sidecar, _, beside, found, read⟩, same⟩

/-- Whether the two files of a shader have certain contents. -/
structure Contents (tree : FileTree) (path : Path) (content document : ByteArray) : Prop where
  text : tree.read path = .ok content
  metadata : ∃ sidecar, metadataPath path = .ok sidecar ∧ tree.read sidecar = .ok document

theorem Contents.unique {content' document' : ByteArray} (contents : Contents tree path content document)
    (contents' : Contents tree path content' document') : content = content' ∧ document = document' := by
  obtain ⟨read, sidecar, beside, readBeside⟩ := contents
  obtain ⟨read', sidecar', beside', readBeside'⟩ := contents'
  cases read.symm.trans read'
  cases beside.symm.trans beside'
  cases readBeside.symm.trans readBeside'
  exact ⟨rfl, rfl⟩

theorem Contents.of_agreeOn (contents : Contents a path content document)
    (agree : FileTree.AgreeOn (Sight path) a b) : Contents b path content document := by
  obtain ⟨read, sidecar, beside, readBeside⟩ := contents
  refine ⟨?_, sidecar, beside, ?_⟩
  · rw [← FileTree.AgreeOn.read (agree.mono fun _ member => .inl member), read]
  · rw [← FileTree.AgreeOn.read (agree.mono fun _ member => .inr ⟨sidecar, beside, member⟩), readBeside]

end Shader

end ShaderShrink
