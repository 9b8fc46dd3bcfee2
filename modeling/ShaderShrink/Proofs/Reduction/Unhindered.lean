import ShaderShrink.Proofs.Files.Room
import ShaderShrink.Proofs.Reduction.Keeping

/-!
# Reductions that nothing hinders

Where there is room for the files of a reduction, its marker, its steps and its final shader are written without a
fault.  Where nothing is in the way of the scratch directory, a judgement ends as the verdict does, and nothing is in
the way of the next one.
-/

namespace ShaderShrink

open Effect

variable {σ : Type} {work scratch : Path} {base stem : String} {world : World σ} {shader : Shader}

/-! ## Writing -/

theorem Action.writeJson_of_admits {path : Path} {value : Json} {document : Text}
    (stands : world.files.isDirectory path.parent = true) (admits : world.files.Admits path)
    (writable : value.indented? = some document) :
    writeJson path value world =
      .ok () { world with files := world.files.set path.place (.file (Text.utf8 document)) } := by
  unfold writeJson
  rw [bind_of_ok (makeDirectories_of_isDirectory stands), writable]
  exact writeBytes_of_admits admits _

theorem Action.writeJson_of_unwritable {path : Path} {value : Json} (stands : world.files.isDirectory path.parent = true)
    (unwritable : value.indented? = none) : writeJson path value world = .error .unwritableJson world := by
  unfold writeJson
  rw [bind_of_ok (makeDirectories_of_isDirectory stands), unwritable]
  rfl

/-- Where there is room for its two files, a shader is stored. -/
theorem Shader.store_of_admits {directory : Path} (stands : world.files.isDirectory directory = true)
    (room : ∀ name ∈ fileNames stem, world.files.Admits (directory.entry name)) (named : stem ≠ "")
    (writable : shader.Writable) :
    ∃ left, shader.store (directory.entry stem) world = .ok (directory.entry (stem ++ fileSuffix)) left := by
  obtain ⟨document, writable⟩ := Option.isSome_iff_exists.mp writable
  have text := room (stem ++ fileSuffix) (by simp [fileNames])
  have written := text.write (Text.utf8 shader.text)
  have stands' := FileTree.isDirectory_write written stands
  have metadata := (room (stem ++ metadataSuffix) (by simp [fileNames])).of_write written
  have stands' : (world.files.set (directory.entry (stem ++ fileSuffix)).place
      (.file (Text.utf8 shader.text))).isDirectory (directory.entry (stem ++ metadataSuffix)).parent = true := by
    rwa [Path.entry_parent]
  unfold store
  rw [Path.entry_name, Path.withName_of_ne _ (by rwa [Path.entry_name]), Path.withName_of_ne _ (by rwa [Path.entry_name]),
    Path.entry_parent, bind_of_ok (Action.ofExcept_ok _ world), Path.entry_parent,
    bind_of_ok (Action.makeDirectories_of_isDirectory stands), bind_of_ok (Action.writeBytes_of_admits text _),
    bind_of_ok (Action.ofExcept_ok _ _), bind_of_ok (Action.writeJson_of_admits stands' metadata writable)]
  exact ⟨_, rfl⟩

/-- A shader whose metadata cannot be written is not stored. -/
theorem Shader.store_of_unwritable {directory : Path} (stands : world.files.isDirectory directory = true)
    (room : world.files.Admits (directory.entry (stem ++ fileSuffix))) (named : stem ≠ "") (unwritable : ¬ shader.Writable) :
    ∃ left, shader.store (directory.entry stem) world = .error .unwritableJson left ∧ left.outside = world.outside := by
  have absent : (Json.obj shader.metadata).indented? = none := Option.not_isSome_iff_eq_none.mp unwritable
  have stands' : (world.files.set (directory.entry (stem ++ fileSuffix)).place
      (.file (Text.utf8 shader.text))).isDirectory (directory.entry (stem ++ metadataSuffix)).parent = true := by
    rw [Path.entry_parent]
    exact FileTree.isDirectory_write (room.write (Text.utf8 shader.text)) stands
  unfold store
  rw [Path.entry_name, Path.withName_of_ne _ (by rwa [Path.entry_name]), Path.withName_of_ne _ (by rwa [Path.entry_name]),
    Path.entry_parent, bind_of_ok (Action.ofExcept_ok _ world), Path.entry_parent,
    bind_of_ok (Action.makeDirectories_of_isDirectory stands), bind_of_ok (Action.writeBytes_of_admits room _),
    bind_of_ok (Action.ofExcept_ok _ _), bind_of_error (Action.writeJson_of_unwritable stands' absent)]
  exact ⟨_, rfl, rfl⟩

/-- Where there is room for its two files, a shader is written into the working directory. -/
theorem Artifact.write_of_admits {kind : ArtifactKind} (isName : Path.IsName stem)
    (stands : world.files.isDirectory work = true)
    (room : ∀ name ∈ Shader.fileNames stem, world.files.Admits (work.entry name)) (writable : shader.Writable) :
    ∃ artifact left, write work stem kind shader world = .ok artifact left := by
  obtain ⟨left, stored⟩ := Shader.store_of_admits stands room isName.ne_empty writable
  obtain ⟨-, -, -, holds⟩ := Shader.store_ok (by rwa [Path.entry_parent]) stored
  unfold write ofFile
  rw [Path.child_of_isName work isName, bind_of_ok stored, bind_of_ok (Action.readBytes_of_read holds.text)]
  exact ⟨_, left, rfl⟩

/-- Where a shader was stored, there was room for its two files. -/
theorem Shader.admits_of_store {directory path : Path} {left : World σ} (stands : world.files.isDirectory directory = true)
    (named : stem ≠ "") (success : shader.store (directory.entry stem) world = .ok path left) :
    ∀ name ∈ fileNames stem, world.files.Admits (directory.entry name) := by
  unfold store at success
  rw [Path.entry_name, Path.withName_of_ne _ (by rwa [Path.entry_name]), Path.withName_of_ne _ (by rwa [Path.entry_name]),
    Path.entry_parent, bind_of_ok (Action.ofExcept_ok _ world), Path.entry_parent,
    bind_of_ok (Action.makeDirectories_of_isDirectory stands)] at success
  obtain ⟨_, written, writing, success⟩ := bind_ok success
  obtain ⟨textWritten, -⟩ := Action.changeFiles_ok writing
  rw [bind_of_ok (Action.ofExcept_ok _ written)] at success
  obtain ⟨_, _, writing, -⟩ := bind_ok success
  have still := FileTree.isDirectory_write textWritten stands
  obtain ⟨document, -, metadataWritten, -⟩ := Action.writeJson_ok (by rwa [Path.entry_parent]) writing
  intro name member
  rcases mem_fileNames.mp member with rfl | rfl
  · obtain ⟨located, free, -⟩ := FileTree.write_ok textWritten
    exact ⟨located, free⟩
  · obtain ⟨located, free, -⟩ := FileTree.write_ok metadataWritten
    exact FileTree.Admits.of_agreeOn ⟨located, free⟩ (FileTree.agreeOn_write_entry
      (FileTree.standing_of_isDirectory stands) (append_metadataSuffix_ne stem) (append_fileSuffix_ne stem)
      (append_suffixes_ne stem).symm textWritten)

/-- Where a shader was written into the working directory, there was room for its two files. -/
theorem Artifact.admits_of_write {kind : ArtifactKind} {artifact : Artifact} {left : World σ} (isName : Path.IsName stem)
    (stands : world.files.isDirectory work = true) (success : write work stem kind shader world = .ok artifact left) :
    (∀ name ∈ Shader.fileNames stem, world.files.Admits (work.entry name)) ∧ shader.Writable := by
  obtain ⟨path, stored, storing, -⟩ := bind_ok success
  refine ⟨?_, Shader.writable_of_store storing⟩
  rw [Path.child_of_isName work isName] at storing
  exact Shader.admits_of_store stands isName.ne_empty storing

namespace Progress

/-- The names of files that a reduction still uses: those of the steps from a number on up to another one, those of the
final shader, and the marker. -/
inductive Uses (base : String) (next beyond : Nat) : String → Prop
  | step {number : Nat} {outcome : StepOutcome} {name : String} : next ≤ number → number < beyond →
      name ∈ Step.fileNames base number outcome → Uses base next beyond name
  | final {name : String} : name ∈ Shader.fileNames (Step.finalStem base) → Uses base next beyond name
  | marker : Uses base next beyond markerName

variable {next later beyond : Nat} {name : String}

theorem Uses.isOwn (uses : Uses base next beyond name) : IsOwn name := by
  cases uses with
  | step _ _ member | final member => exact Shader.isOwn_of_mem_fileNames member
  | marker => exact .inr rfl

theorem Uses.down (uses : Uses base next beyond name) : name ≠ ".." := by
  cases uses with
  | step _ _ member | final member => exact Shader.ne_of_mem_fileNames member
  | marker => exact markerName_ne

theorem Uses.earlier (uses : Uses base later beyond name) (further : next ≤ later) : Uses base next beyond name := by
  cases uses with
  | step least below member => exact .step (Nat.le_trans further least) below member
  | final member => exact .final member
  | marker => exact .marker

theorem Uses.within {more : Nat} (uses : Uses base next beyond name) (further : beyond ≤ more) : Uses base next more name := by
  cases uses with
  | step least below member => exact .step least (Nat.lt_of_lt_of_le below further) member
  | final member => exact .final member
  | marker => exact .marker

/-- Behind a step its files are not used any more. -/
theorem Uses.notStep {outcome : StepOutcome} (uses : Uses base (next + 1) beyond name) :
    name ∉ Step.fileNames base next outcome := by
  intro member
  cases uses with
  | step least _ member' => exact absurd (Step.mem_fileNames_number member member').1 (Nat.ne_of_lt least)
  | final member' => exact Step.finalStem_ne base _ _ (Shader.stem_eq_of_mem_fileNames member' member)
  | marker => exact Shader.notMarker_of_mem_fileNames member (List.mem_singleton_self _)

/-- Whether a working directory has room for all files that a reduction still uses. -/
def Room (work : Path) (base : String) (next beyond : Nat) (tree : FileTree) : Prop :=
  ∀ name, Uses base next beyond name → tree.Admits (work.entry name)

namespace Room

variable {a b : World σ} {names : List String}

theorem isDirectory (room : Room work base next beyond world.files) : world.files.isDirectory work = true :=
  FileTree.isDirectory_of_locate_entry (room markerName .marker).located

theorem advance (room : Room work base next beyond world.files) (further : next ≤ later) :
    Room work base later beyond world.files := fun name uses => room name (uses.earlier further)

/-- Changing files that are not used takes no room. -/
theorem beside (room : Room work base next beyond a.files) (agree : World.Agrees (Beside work names) a b)
    (unused : ∀ name, Uses base next beyond name → name ∉ names) : Room work base next beyond b.files :=
  fun name uses => (room name uses).of_agreeOn
    (agree.files.mono fun _ => beside_entry uses.isOwn uses.down (unused name uses))

/-- Where there is room, the marker is placed, and there is as much room behind it. -/
theorem placeMarker (room : Room work base next beyond world.files) :
    ∃ marked, Progress.placeMarker work world = .ok () marked ∧ Room work base next beyond marked.files := by
  obtain ⟨marked, touched, kept⟩ := Action.touch_of_admits (room markerName .marker)
  rw [← marker_eq] at touched
  exact ⟨marked, touched, fun name uses => kept _ (room name uses)⟩

/-- Where there is room, the next step is written. -/
theorem writeStep (room : Room work base next beyond world.files) (plain : '/' ∉ base.toList) (within : next < beyond)
    (outcome : StepOutcome) (writable : shader.Writable) :
    ∃ artifact left, Artifact.writeStep work base next outcome shader world = .ok artifact left :=
  Artifact.write_of_admits (Step.isName_fileStem plain next outcome) room.isDirectory
    (fun name member => room name (.step (Nat.le_refl next) within member)) writable

/-- Where there is room, the final shader is written. -/
theorem writeFinal (room : Room work base next beyond world.files) (plain : '/' ∉ base.toList)
    (writable : shader.Writable) : ∃ artifact left, Artifact.writeFinal work base shader world = .ok artifact left :=
  Artifact.write_of_admits (Step.isName_finalStem plain) room.isDirectory
    (fun name member => room name (.final member)) writable

/-- Where there is room, the marker is cleared once the final shader is written. -/
theorem clearMarker {artifact : Artifact} {written : World σ} (room : Room work base next beyond world.files)
    (plain : '/' ∉ base.toList) (writing : Artifact.writeFinal work base shader world = .ok artifact written) :
    ∃ cleared, Progress.clearMarker work written = .ok () cleared := by
  rw [Artifact.writeFinal_eq] at writing
  have agree := after_ok writing ▸ Artifact.write_agrees .final shader (Step.isName_finalStem plain)
    (FileTree.standing_of_isDirectory room.isDirectory)
  have admits := (room markerName .marker).of_agreeOn (agree.files.mono fun _ => beside_entry (.inr rfl) markerName_ne
    fun member => Shader.notMarker_of_mem_fileNames member (List.mem_singleton_self _))
  rw [← marker_eq] at admits
  exact Action.remove_of_admits admits

end Room

end Progress

/-! ## Judging -/

/-- The places that a scratch directory needs: those on the way to it, and those in it. -/
def Path.Needed (scratch : Path) (place : Place) : Prop := place ∈ scratch.parent.visited ∨ scratch.parts <+: place

/-- Where the scratch directory lies apart, it needs no file of the working directory. -/
theorem Apart.clear_needed (apart : Apart work base scratch) (standing : world.files.Standing work) {name : String}
    (own : Progress.IsOwn name) (down : name ≠ "..") : world.files.Clear scratch.Needed (work.entry name) := by
  intro place needed visited
  rcases (Path.mem_entry_visited work down).mp visited with way | rfl
  · exact standing place way
  · rcases needed with way | below
    · exact absurd (FileTree.visited_parent way) (apart.unvisited scratch List.mem_cons_self name own)
    · exact absurd below (apart.outside _ (.inr ⟨name, own, rfl⟩))

namespace Reducer

variable {reducer : Reducer σ}

/-- What keeps the scratch directory in order: the verdict keeps the way to it, and the system takes the files in there. -/
structure Sheltered (reducer : Reducer σ) (base : String) (scratch : Path) : Prop where
  keepsWay : ∀ shader path (world : World σ), world.scratch = scratch →
    World.Agrees (· ∈ scratch.parent.visited) world (after (reducer.verdict ⟨shader, path, scratch⟩) world)
  isName : Path.IsName base
  inside : scratch.parts ≠ []
  fits : scratch.Fits
  fitsFiles : ∀ name ∈ Shader.fileNames base, (scratch.entry name).Fits

/-- What makes a judgement end as the verdict does: the verdict ends with an answer or with the fault of an oracle and
keeps the way to the scratch directory, and the system takes the files in there. -/
structure Responsive (reducer : Reducer σ) (base : String) (scratch : Path) : Prop where
  answers : ∀ candidate world, (∃ answer left, reducer.verdict candidate world = .ok answer left) ∨
    ∃ fault left, reducer.verdict candidate world = .error fault left ∧ fault.isOracle = true
  keepsWay : ∀ shader path (world : World σ), world.scratch = scratch →
    World.Agrees (· ∈ scratch.parent.visited) world (after (reducer.verdict ⟨shader, path, scratch⟩) world)
  isName : Path.IsName base
  inside : scratch.parts ≠ []
  fits : scratch.Fits
  fitsFiles : ∀ name ∈ Shader.fileNames base, (scratch.entry name).Fits

theorem Responsive.sheltered (responsive : Responsive reducer base scratch) : Sheltered reducer base scratch :=
  { responsive with }

section Judge

variable {candidate : Shader} (sheltered : Sheltered reducer base world.scratch)
  (vacant : world.files.Vacant world.scratch)
include sheltered vacant

private theorem judge_keepsWay (candidate : Shader) : World.Agrees (· ∈ world.scratch.parent.visited) world
    (after (reducer.judge base candidate) world) := by
  have standing := FileTree.standing_of_isDirectory vacant.parent
  have clear : ∀ {tree : FileTree} (path : Path),
      FileTree.AgreeOn (· ∈ world.scratch.parent.visited) world.files tree →
      tree.Clear (· ∈ world.scratch.parent.visited) path :=
    fun path agree place member _ => (agree place member).symm.trans (standing place member)
  refine Action.withScratch_agrees (clear _ (.refl _ _))
    (fun place => FileTree.not_prefix_of_mem_parent sheltered.fits.down sheltered.inside) fun made agree => ?_
  refine .bind (Shader.store_agrees candidate (clear _ agree.files) (clear _ agree.files)) fun path stored _ agree' => ?_
  exact sheltered.keepsWay candidate path stored (agree'.scratch.trans agree.scratch)

/-- After a judgement nothing is in the way of the next one. -/
theorem judge_vacant (candidate : Shader) : (after (reducer.judge base candidate) world).files.Vacant world.scratch := by
  have way := judge_keepsWay sheltered vacant candidate
  have parent := (FileTree.AgreeOn.isDirectory way.files).symm.trans vacant.parent
  rw [after, judge, Action.withScratch_eq vacant sheltered.fits, leaves_adjust] at parent ⊢
  exact FileTree.vacant_eraseBelow parent sheltered.inside

theorem stands_entering : world.entering.files.isDirectory world.scratch = true :=
  FileTree.isDirectory_of_makeDirectories (vacant.makeDirectories sheltered.fits 0)

/-- A new scratch directory has room for every file whose path the system takes. -/
theorem admits_entering {name : String} (down : name ≠ "..") (fits : (world.scratch.entry name).Fits) :
    world.entering.files.Admits (world.scratch.entry name) := by
  have place := Path.entry_place world.scratch down
  refine FileTree.admits_entry fits (FileTree.standing_of_isDirectory (stands_entering sheltered vacant)) ?_
  rw [place, World.entering, FileTree.lookup?_set_of_ne _ (by simp)]
  exact vacant.empty _ (sheltered.fits.place ▸ List.prefix_append _ _)

private theorem admits_candidate {name : String} (member : name ∈ Shader.fileNames base) :
    world.entering.files.Admits (world.scratch.entry name) :=
  admits_entering sheltered vacant (Shader.ne_of_mem_fileNames member) (sheltered.fitsFiles name member)

/-- A candidate whose metadata can be written is stored, and the judgement ends as the verdict about it does. -/
theorem judge_of_writable (writable : candidate.Writable) : ∃ path stored,
    candidate.store (world.scratch.entry base) world.entering = .ok path stored ∧
    stored = { world with files := stored.files } ∧ candidate.StoredAt stored.files path ∧
    reducer.judge base candidate world =
      adjust (World.leaving world.scratch) (reducer.verdict ⟨candidate, path, world.scratch⟩ stored) := by
  have stands := stands_entering sheltered vacant
  obtain ⟨stored, storing⟩ := Shader.store_of_admits stands (fun _ => admits_candidate sheltered vacant)
    sheltered.isName.ne_empty writable
  obtain ⟨-, -, same, holds⟩ := Shader.store_ok (by rwa [Path.entry_parent]) storing
  refine ⟨world.scratch.entry (base ++ Shader.fileSuffix), stored, storing, same, holds, ?_⟩
  rw [judge, Action.withScratch_eq vacant sheltered.fits, Path.child_of_isName _ sheltered.isName, bind_of_ok storing]

/-- A candidate whose metadata cannot be written is not judged. -/
theorem judge_of_unwritable (unwritable : ¬ candidate.Writable) : ∃ left, left.outside = world.outside ∧
    reducer.judge base candidate world = .error .unwritableJson left := by
  obtain ⟨left, storing, outside⟩ := Shader.store_of_unwritable (stands_entering sheltered vacant)
    (admits_candidate sheltered vacant (by simp [Shader.fileNames])) sheltered.isName.ne_empty unwritable
  rw [← Path.child_of_isName _ sheltered.isName] at storing
  refine ⟨left.leaving world.scratch, outside, ?_⟩
  rw [judge, Action.withScratch_eq vacant sheltered.fits, bind_of_error storing]
  rfl

end Judge

/-- A judgement gives an answer, and then nothing is in the way of the next one. -/
theorem judge_answers {candidate : Shader} (responsive : Responsive reducer base world.scratch)
    (vacant : world.files.Vacant world.scratch) (writable : candidate.Writable) :
    ∃ answer left, Answers reducer base candidate world answer left ∧ left.files.Vacant world.scratch := by
  have free := judge_vacant responsive.sheltered vacant candidate
  obtain ⟨path, stored, -, -, -, judged⟩ := judge_of_writable responsive.sheltered vacant writable
  rcases responsive.answers ⟨candidate, path, world.scratch⟩ stored with ⟨answer, left, run⟩ | ⟨fault, left, run, oracle⟩
  · rw [run] at judged
    exact ⟨.ok answer, _, judged, after_ok judged ▸ free⟩
  · rw [run] at judged
    exact ⟨.error fault, _, ⟨judged, oracle⟩, after_error judged ▸ free⟩

end Reducer

end ShaderShrink
