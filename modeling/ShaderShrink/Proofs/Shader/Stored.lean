import ShaderShrink.Proofs.Files.Frame
import ShaderShrink.Shader.Storage

/-!
# Stored shaders

A stored shader is two files: the text at a path, and the document of the metadata beside it.  Storing
changes nothing but these two, and what was stored can be found again.  Loading changes nothing, and
depends only on what stands at the two paths.
-/

namespace ShaderShrink

open Effect

variable {σ : Type}

namespace Action

variable {places : Place → Prop} {path : Path} {world : World σ}

theorem writeJson_agrees (clear : world.files.Clear places path) (value : Json) :
    World.Agrees places world (after (writeJson path value) world) := by
  refine .bind (makeDirectories_agrees clear.parent) fun _ made _ agree => ?_
  split
  · exact writeBytes_agrees (clear.of_agreeOn agree.files) _
  · exact .refl places made

theorem after_readJson (path : Path) (world : World σ) : after (readJson path) world = world := by
  refine after_bind_eq (after_readBytes path world) fun content => ?_
  cases Json.ofBytes? content <;> rfl

/-- A document that was written stands at its path, and nothing else has changed in its directory. -/
theorem writeJson_ok {value : Json} {left : World σ} (directory : world.files.isDirectory path.parent = true)
    (success : writeJson path value world = .ok () left) :
    ∃ document, value.indented? = some document ∧
      world.files.write path (Text.utf8 document) = .ok left.files ∧
      left = { world with files := left.files } := by
  obtain ⟨_, middle, made, success⟩ := bind_ok success
  rw [makeDirectories_of_isDirectory directory] at made
  cases made
  cases writable : value.indented? with
  | none => rw [writable] at success; contradiction
  | some document =>
    rw [writable] at success
    obtain ⟨written, same⟩ := changeFiles_ok success
    exact ⟨document, rfl, written, same⟩

end Action

namespace Shader

theorem append_fileSuffix_ne (name : String) : name ++ fileSuffix ≠ ".." := by
  intro same
  have length := congrArg String.length same
  rw [String.length_append, show fileSuffix.length = 5 from rfl, show "..".length = 2 from rfl] at length
  omega

theorem append_metadataSuffix_ne (name : String) : name ++ metadataSuffix ≠ ".." := by
  intro same
  have length := congrArg String.length same
  rw [String.length_append, show metadataSuffix.length = 5 from rfl, show "..".length = 2 from rfl] at length
  omega

theorem append_suffixes_ne (name : String) : name ++ fileSuffix ≠ name ++ metadataSuffix := by
  simp [String.append_right_inj, fileSuffix, metadataSuffix]

theorem splitName_fileSuffix {name : String} (named : name ≠ "") :
    Path.splitName (name ++ fileSuffix) = (name, fileSuffix) := by
  have reversed : (name ++ fileSuffix).toList.reverse = 'g' :: 'a' :: 'r' :: 'f' :: '.' :: name.toList.reverse := by
    simp [fileSuffix]
  simp only [Path.splitName, reversed]
  simp [fileSuffix, named]

/-- The metadata of a shader file stand beside it under the same name. -/
theorem metadataPath_entry (directory : Path) {name : String} (named : name ≠ "") :
    metadataPath (directory.entry (name ++ fileSuffix)) = .ok (directory.entry (name ++ metadataSuffix)) := by
  have stem : (directory.entry (name ++ fileSuffix)).stem = name := by
    rw [Path.stem, Path.entry_name, splitName_fileSuffix named]
  rw [metadataPath, Path.withSuffix, stem, Path.withName_of_ne, Path.entry_parent]
  rw [Path.entry_name]
  intro empty
  exact append_fileSuffix_ne name (by simp [fileSuffix] at empty)

/-- Whether a shader is stored at a path: its text there, and the document of its metadata beside it. -/
structure StoredAt (tree : FileTree) (path : Path) (shader : Shader) : Prop where
  text : tree.read path = .ok (Text.utf8 shader.text)
  metadata : ∃ sidecar document, metadataPath path = .ok sidecar ∧
    (Json.obj shader.metadata).indented? = some document ∧
    tree.read sidecar = .ok (Text.utf8 document)

/-- What stands at the paths of a shader's two files. -/
def Sight (path : Path) (place : Place) : Prop :=
  place ∈ path.visited ∨ ∃ sidecar, metadataPath path = .ok sidecar ∧ place ∈ sidecar.visited

theorem StoredAt.of_agreeOn {a b : FileTree} {path : Path} {shader : Shader}
    (stored : StoredAt a path shader) (agree : FileTree.AgreeOn (Sight path) a b) :
    StoredAt b path shader := by
  obtain ⟨text, sidecar, document, beside, writable, metadata⟩ := stored
  refine ⟨?_, sidecar, document, beside, writable, ?_⟩
  · rw [← FileTree.AgreeOn.read (agree.mono fun _ member => .inl member), text]
  · rw [← FileTree.AgreeOn.read (agree.mono fun _ member => .inr ⟨sidecar, beside, member⟩), metadata]

section Store

variable {places : Place → Prop} {world : World σ}

/-- Storing a shader leaves alone all places of which its two paths are clear. -/
theorem store_agrees (shader : Shader) {stem : Path}
    (text : world.files.Clear places (stem.parent.entry (stem.name ++ fileSuffix)))
    (metadata : world.files.Clear places (stem.parent.entry (stem.name ++ metadataSuffix))) :
    World.Agrees places world (after (shader.store stem) world) := by
  unfold store
  by_cases named : stem.name = ""
  · have failed : ∀ other, ∃ fault, stem.withName other = .error fault := by
      intro other
      simp only [Path.withName, named, String.isEmpty_iff, ↓reduceIte]
      exact ⟨_, rfl⟩
    obtain ⟨fault, failed⟩ := failed (stem.name ++ fileSuffix)
    rw [failed, after_error (bind_of_error (Action.ofExcept_error fault world) _)]
    exact .refl places world
  · rw [Path.withName_of_ne stem named, Path.withName_of_ne stem named]
    refine .bind (.refl places world) fun path middle run _ => ?_
    cases run
    refine .bind (Action.makeDirectories_agrees text.parent) fun _ made _ agree => ?_
    refine .bind (Action.writeBytes_agrees (text.of_agreeOn agree.files) _) fun _ written _ agree' => ?_
    refine .bind (.refl places written) fun sidecar middle run _ => ?_
    cases run
    refine .bind (Action.writeJson_agrees ?_ _) fun _ left _ _ => .refl places left
    exact (metadata.of_agreeOn agree.files).of_agreeOn agree'.files

/-- A stored shader can be found again. -/
theorem store_ok {shader : Shader} {stem path : Path} {left : World σ}
    (directory : world.files.isDirectory stem.parent = true)
    (success : shader.store stem world = .ok path left) :
    path = stem.parent.entry (stem.name ++ fileSuffix) ∧ stem.name ≠ "" ∧
      left = { world with files := left.files } ∧ StoredAt left.files path shader := by
  unfold store at success
  obtain ⟨textPath, named, success⟩ := Action.bind_ofExcept_ok success
  obtain ⟨filled, rfl⟩ := Path.withName_ok named
  rw [Path.entry_parent] at success
  obtain ⟨_, made, run, success⟩ := bind_ok success
  rw [Action.makeDirectories_of_isDirectory directory] at run
  cases run
  obtain ⟨_, written, run, success⟩ := bind_ok success
  obtain ⟨textWritten, same⟩ := Action.changeFiles_ok run
  obtain ⟨sidecar, named', success⟩ := Action.bind_ofExcept_ok success
  obtain ⟨-, rfl⟩ := Path.withName_ok named'
  obtain ⟨_, ended, run, success⟩ := bind_ok success
  cases success
  have still := FileTree.isDirectory_write textWritten directory
  obtain ⟨document, writable, metadataWritten, same'⟩ := Action.writeJson_ok (by rwa [Path.entry_parent]) run
  have untouched := FileTree.agreeOn_write_entry (FileTree.standing_of_isDirectory still)
    (append_fileSuffix_ne stem.name) (append_metadataSuffix_ne stem.name) (append_suffixes_ne stem.name) metadataWritten
  refine ⟨rfl, filled, ?_, ?_, ?_⟩
  · rw [same', same]
  · rw [untouched.read, FileTree.read_write_self textWritten]
  · exact ⟨_, document, metadataPath_entry stem.parent filled, writable,
      FileTree.read_write_self metadataWritten⟩

/-- Whether the metadata of a shader can be written. -/
def Writable (shader : Shader) : Prop := (Json.obj shader.metadata).indented?.isSome = true

instance (shader : Shader) : Decidable shader.Writable := inferInstanceAs (Decidable (_ = _))

theorem writable_of_store {shader : Shader} {stem path : Path} {left : World σ}
    (success : shader.store stem world = .ok path left) : shader.Writable := by
  unfold store at success
  obtain ⟨_, -, success⟩ := Action.bind_ofExcept_ok success
  obtain ⟨_, made, -, success⟩ := bind_ok success
  obtain ⟨_, written, -, success⟩ := bind_ok success
  obtain ⟨sidecar, -, success⟩ := Action.bind_ofExcept_ok success
  obtain ⟨_, ended, writing, -⟩ := bind_ok success
  obtain ⟨_, ready, -, writing⟩ := bind_ok writing
  cases writable : (Json.obj shader.metadata).indented? with
  | none =>
    rw [writable] at writing
    cases writing
  | some document => exact congrArg Option.isSome writable

/-- Storing a shader whose metadata can be written changes nothing, or stores it, or leaves metadata behind that
cannot be read. -/
theorem store_cases {shader : Shader} {stem : Path} {document : Text} (named : stem.name ≠ "")
    (directory : world.files.isDirectory stem.parent = true)
    (writable : (Json.obj shader.metadata).indented? = some document) :
    (after (shader.store stem) world).files = world.files ∨
      StoredAt (after (shader.store stem) world).files (stem.parent.entry (stem.name ++ fileSuffix)) shader ∨
      ∀ content, (after (shader.store stem) world).files.read (stem.parent.entry (stem.name ++ metadataSuffix)) ≠
        .ok content := by
  cases run : shader.store stem world with
  | ok path left =>
    obtain ⟨rfl, -, -, stored⟩ := store_ok directory run
    exact .inr (.inl (after_ok run ▸ stored))
  | error fault left =>
    rw [after_error run]
    unfold store at run
    rw [Path.withName_of_ne stem named, Path.withName_of_ne stem named, bind_of_ok (Action.ofExcept_ok _ world),
      Path.entry_parent, bind_of_ok (Action.makeDirectories_of_isDirectory directory)] at run
    rcases bind_error run with failed | ⟨_, written, writing, run⟩
    · exact .inl (congrArg _ (Action.writeBytes_error failed).1)
    · obtain ⟨textWritten, -⟩ := Action.changeFiles_ok writing
      have still := FileTree.isDirectory_write textWritten directory
      rw [bind_of_ok (Action.ofExcept_ok _ written)] at run
      rcases bind_error run with failed | ⟨_, ended, -, run⟩
      · unfold Action.writeJson at failed
        rw [Path.entry_parent, bind_of_ok (Action.makeDirectories_of_isDirectory still), writable] at failed
        obtain ⟨rfl, unread⟩ := Action.writeBytes_error failed
        exact .inr (.inr unread)
      · cases run

end Store

/-- Whether a text and metadata can be read at the two paths of a shader. -/
structure Legible (tree : FileTree) (path : Path) (text : Text) (metadata : Metadata) : Prop where
  text : ∃ content, tree.read path = .ok content ∧ Text.read? content = some text
  metadata : ∃ sidecar document, metadataPath path = .ok sidecar ∧ tree.read sidecar = .ok document ∧
    Json.ofBytes? document = some (.obj metadata)

/-- Loading gives what can be read at the two paths of a shader, and changes nothing. -/
theorem load_ok {path : Path} {world left : World σ} {shader : Shader}
    (success : load path world = .ok shader left) :
    left = world ∧ Legible world.files path shader.text shader.metadata ∧
      Version.ofText shader.text = .ok shader.version := by
  unfold load at success
  obtain ⟨sidecar, beside, success⟩ := Action.bind_ofExcept_ok success
  obtain ⟨present, looked, success⟩ := bind_ok_still (Action.after_isFile sidecar world) success
  dsimp only at success
  cases present with
  | false => cases success
  | true =>
    obtain ⟨value, parsed, success⟩ := bind_ok_still (Action.after_readJson sidecar world) success
    obtain ⟨document, found, parsed⟩ := bind_ok_still (Action.after_readBytes sidecar world) parsed
    have read := (Action.readBytes_ok found).1
    cases meaning : Json.ofBytes? document with
    | none => rw [meaning] at parsed; cases parsed
    | some json =>
      rw [meaning] at parsed
      cases parsed
      cases value <;> try cases success
      rename_i metadata
      obtain ⟨text, shown, success⟩ := bind_ok_still (Action.after_readText path world) success
      obtain ⟨content, foundText, shown⟩ := bind_ok_still (Action.after_readBytes path world) shown
      have readText := (Action.readBytes_ok foundText).1
      cases legible : Text.read? content with
      | none => rw [legible] at shown; cases shown
      | some characters =>
        rw [legible] at shown
        cases shown
        obtain ⟨made, rfl⟩ := Action.ofExcept_eq_ok success
        unfold ofText at made
        cases declared : Version.ofText text with
        | error fault => rw [declared] at made; cases made
        | ok version =>
          rw [declared] at made
          cases made
          exact ⟨rfl, ⟨⟨content, readText, legible⟩, sidecar, document, beside, read, meaning⟩, declared⟩

/-- A shader that can be read loads exactly if its version can be read. -/
theorem Legible.load {path : Path} {world : World σ} {metadata : Metadata} {text : Text}
    (legible : Legible world.files path text metadata) :
    load path world = Action.ofExcept (ofText text metadata) world := by
  obtain ⟨⟨content, readText, legible⟩, sidecar, document, beside, read, meaning⟩ := legible
  have present : Action.isFile sidecar world = .ok true world := by
    rw [Action.isFile_apply, FileTree.isFile_of_read read]
    simp only [FileTree.canLook, (FileTree.lookup?_of_read read).1, ↓reduceIte]
  have parsed : Action.readJson sidecar world = .ok (.obj metadata) world := by
    rw [Action.readJson, bind_of_ok (Action.readBytes_of_read read), meaning]
    rfl
  have shown : Action.readText path world = .ok text world := by
    rw [Action.readText, bind_of_ok (Action.readBytes_of_read readText), legible]
    rfl
  rw [Shader.load, beside, bind_of_ok (Action.ofExcept_ok sidecar world), bind_of_ok present]
  simp only [Bool.not_true, Bool.false_eq_true, ↓reduceIte]
  rw [bind_of_ok parsed]
  dsimp only
  rw [bind_of_ok shown]

/-- What can be read depends only on what stands at the two paths. -/
theorem Legible.of_agreeOn {a b : FileTree} {path : Path} {text : Text} {metadata : Metadata}
    (legible : Legible a path text metadata) (agree : FileTree.AgreeOn (Sight path) a b) :
    Legible b path text metadata := by
  obtain ⟨⟨content, read, readable⟩, sidecar, document, beside, read', meaning⟩ := legible
  refine ⟨⟨content, ?_, readable⟩, sidecar, document, beside, ?_, meaning⟩
  · rw [← FileTree.AgreeOn.read (agree.mono fun _ member => .inl member), read]
  · rw [← FileTree.AgreeOn.read (agree.mono fun _ member => .inr ⟨sidecar, beside, member⟩), read']

/-- There is only one text and metadata to be read. -/
theorem Legible.unique {tree : FileTree} {path : Path} {text text' : Text} {metadata metadata' : Metadata}
    (legible : Legible tree path text metadata) (legible' : Legible tree path text' metadata') :
    text = text' ∧ metadata = metadata' := by
  obtain ⟨⟨content, read, readable⟩, sidecar, document, beside, readBeside, meaning⟩ := legible
  obtain ⟨⟨content', read', readable'⟩, sidecar', document', beside', readBeside', meaning'⟩ := legible'
  cases read.symm.trans read'
  cases beside.symm.trans beside'
  cases readBeside.symm.trans readBeside'
  cases readable.symm.trans readable'
  cases meaning.symm.trans meaning'
  exact ⟨rfl, rfl⟩

theorem after_load (path : Path) (world : World σ) : after (load path) world = world := by
  unfold load
  refine Action.after_bind_eq (Action.after_ofExcept _ world) fun sidecar => ?_
  refine Action.after_bind_eq (Action.after_isFile sidecar world) fun present => ?_
  cases present
  · rfl
  · refine Action.after_bind_eq (Action.after_readJson sidecar world) fun value => ?_
    cases value with
    | obj metadata =>
      refine Action.after_bind_eq (Action.after_readText path world) fun text => ?_
      exact Action.after_ofExcept _ world
    | _ => rfl

end Shader

end ShaderShrink
