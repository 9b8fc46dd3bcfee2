import ShaderShrink.Proofs.Reduction.StepName
import ShaderShrink.Proofs.Shader.Stored
import ShaderShrink.Reduction.Loop

/-!
# The working directory during a reduction

The progress of a reduction rests on the way to its working directory and on its own files in there.
A judgement leaves all of these alone, if the scratch directory lies apart and the verdict spares them.
The record of a step changes the two files of the step alone.
-/

namespace ShaderShrink

open Effect

variable {σ α : Type}

namespace Progress

/-- Whether a name is one of a reduction's own files: it has a dot, or is that of the marker. -/
def IsOwn (name : String) : Prop := '.' ∈ name.toList ∨ name = markerName

instance (name : String) : Decidable (IsOwn name) := inferInstanceAs (Decidable (_ ∨ _))

/-- The places on which the progress of a reduction rests: those on the way to the working directory,
and its own files in there. -/
def Own (work : Path) (place : Place) : Prop :=
  place ∈ work.visited ∨ ∃ name, IsOwn name ∧ place = work.place ++ [name]

theorem own_visited {work : Path} {place : Place} (member : place ∈ work.visited) : Own work place :=
  .inl member

end Progress

open Progress (IsOwn Own)

/-- Whether an action leaves all on which the progress in a working directory rests alone, in whatever world
it runs in which the directory stands. -/
def Action.Spares (action : Action σ α) (work scratch : Path) : Prop :=
  ∀ world, world.scratch = scratch → world.files.Standing work →
    World.Agrees (Own work) world (after action world)

/-- The same for a verdict about candidates. -/
def Verdict.Spares (verdict : Verdict σ) (work scratch : Path) : Prop :=
  ∀ shader path, (verdict ⟨shader, path, scratch⟩).Spares work scratch

/-- The paths that a judgement writes to: the scratch directory and the two files of the candidate. -/
def Reducer.scratchPaths (base : String) (scratch : Path) : List Path :=
  [scratch, (scratch.child base).parent.entry ((scratch.child base).name ++ Shader.fileSuffix),
    (scratch.child base).parent.entry ((scratch.child base).name ++ Shader.metadataSuffix)]

/-- Whether the scratch directory lies apart from a working directory: nothing on which progress rests
lies inside of it, and none of the paths in it visits one of the reduction's own files. -/
structure Apart (work : Path) (base : String) (scratch : Path) : Prop where
  outside : ∀ place, Own work place → ¬ scratch.parts <+: place
  unvisited : ∀ path ∈ Reducer.scratchPaths base scratch, ∀ name, IsOwn name →
    work.place ++ [name] ∉ path.visited

theorem Apart.clear {work : Path} {base : String} {scratch : Path} (apart : Apart work base scratch)
    {tree : FileTree} (standing : tree.Standing work) {path : Path}
    (member : path ∈ Reducer.scratchPaths base scratch) : tree.Clear (Own work) path := by
  rintro place (way | ⟨name, own, rfl⟩) visited
  · exact standing place way
  · exact absurd visited (apart.unvisited path member name own)

/-- Two directories beside each other lie apart. -/
theorem apart_of_ne {work scratch base : String} (isName : Path.IsName base) (downWork : work ≠ "..")
    (down : scratch ≠ "..") (differ : work ≠ scratch) : Apart ⟨"", [work]⟩ base ⟨"", [scratch]⟩ := by
  have parent : ((⟨"", [scratch]⟩ : Path).child base).parent = ⟨"", [scratch]⟩ := by
    rw [Path.child_of_isName _ isName, Path.entry_parent]
  have visited : (⟨"", [scratch]⟩ : Path).visited = [[], [scratch]] := by
    simp [Path.visited, Path.passed, Path.place, Place.passed, Place.walk, Place.next, down]
  have place : (⟨"", [work]⟩ : Path).place = [work] := by
    simp [Path.place, Place.walk, Place.next, downWork]
  constructor
  · rintro place' (way | ⟨name, -, rfl⟩) below
    · have ways : (⟨"", [work]⟩ : Path).visited = [[], [work]] := by
        simp [Path.visited, Path.passed, Path.place, Place.passed, Place.walk, Place.next, downWork]
      rw [ways] at way
      simp only [List.mem_cons, List.not_mem_nil, or_false] at way
      rcases way with rfl | rfl
      · simp at below
      · obtain ⟨rest, same⟩ := below
        exact differ (List.cons.inj same).1.symm
    · rw [place] at below
      obtain ⟨rest, same⟩ := below
      exact differ (List.cons.inj same).1.symm
  · intro path member name own inside
    rw [place] at inside
    simp only [Reducer.scratchPaths, parent, List.mem_cons, List.not_mem_nil, or_false] at member
    rcases member with rfl | rfl | rfl
    · simp [visited] at inside
    · rw [Path.mem_entry_visited _ (Shader.append_fileSuffix_ne _), visited] at inside
      simp [Path.place, Place.walk, Place.next, down, differ] at inside
    · rw [Path.mem_entry_visited _ (Shader.append_metadataSuffix_ne _), visited] at inside
      simp [Path.place, Place.walk, Place.next, down, differ] at inside

theorem World.Agrees.standing {work : Path} {places : Place → Prop} {a b : World σ}
    (agree : World.Agrees places a b) (within : ∀ place ∈ work.visited, places place)
    (standing : a.files.Standing work) : b.files.Standing work :=
  fun place member => (agree.files place (within place member)).symm.trans (standing place member)

theorem World.Agrees.isDirectory {work : Path} {places : Place → Prop} {a b : World σ}
    (agree : World.Agrees places a b) (within : ∀ place ∈ work.visited, places place) :
    b.files.isDirectory work = a.files.isDirectory work :=
  (FileTree.AgreeOn.isDirectory (agree.files.mono within)).symm

namespace Reducer

/-- A judgement changes nothing on which the progress of the reduction rests. -/
theorem judge_agrees {reducer : Reducer σ} {base : String} {world : World σ} (shader : Shader)
    (standing : world.files.Standing reducer.work) (apart : Apart reducer.work base world.scratch)
    (spares : Verdict.Spares reducer.verdict reducer.work world.scratch) :
    World.Agrees (Own reducer.work) world (after (reducer.judge base shader) world) := by
  refine Action.withScratch_agrees (apart.clear standing List.mem_cons_self) apart.outside fun made agree => ?_
  have standing := agree.standing (fun _ => Progress.own_visited) standing
  have clear : ∀ path ∈ scratchPaths base world.scratch, made.files.Clear (Own reducer.work) path :=
    fun _ member => apart.clear standing member
  refine .bind ?_ fun path stored _ agree' => ?_
  · exact Shader.store_agrees shader (clear _ (by simp [scratchPaths])) (clear _ (by simp [scratchPaths]))
  · exact spares shader path stored (agree'.scratch.trans agree.scratch)
      (agree'.standing (fun _ => Progress.own_visited) standing)

end Reducer

/-! ## Records of steps -/

namespace Progress

/-- The places on which progress rests, without some of the reduction's own files. -/
def Beside (work : Path) (names : List String) (place : Place) : Prop :=
  place ∈ work.visited ∨ ∃ name, IsOwn name ∧ name ∉ names ∧ place = work.place ++ [name]

theorem beside_entry {work : Path} {names : List String} {name : String} (own : IsOwn name)
    (down : name ≠ "..") (other : name ∉ names) {place : Place}
    (member : place ∈ (work.entry name).visited) : Beside work names place := by
  rcases (Path.mem_entry_visited work down).mp member with way | rfl
  · exact .inl way
  · exact .inr ⟨name, own, other, rfl⟩

theorem Beside.own {work : Path} {names : List String} {place : Place} (beside : Beside work names place) :
    Own work place :=
  beside.imp_right fun ⟨name, own, _, same⟩ => ⟨name, own, same⟩

/-- The path of a file left out visits no other file. -/
theorem clear_beside {work : Path} {names : List String} {tree : FileTree} (standing : tree.Standing work)
    {name : String} (down : name ≠ "..") (member : name ∈ names) :
    tree.Clear (Beside work names) (work.entry name) := by
  rintro place beside visited
  rcases (Path.mem_entry_visited work down).mp visited with way | rfl
  · exact standing place way
  · rcases beside with way | ⟨other, -, outside, same⟩
    · exact standing _ way
    · obtain rfl := List.singleton_inj.mp (List.append_cancel_left same)
      exact absurd member outside

end Progress

/-- The names of the two files of a shader. -/
def Shader.fileNames (stem : String) : List String := [stem ++ fileSuffix, stem ++ metadataSuffix]

theorem Shader.mem_fileNames {stem name : String} :
    name ∈ fileNames stem ↔ name = stem ++ fileSuffix ∨ name = stem ++ metadataSuffix := by
  simp only [fileNames, List.mem_cons, List.not_mem_nil, or_false]

theorem Shader.dot_of_mem_fileNames {stem name : String} (member : name ∈ fileNames stem) :
    '.' ∈ name.toList := by
  rcases mem_fileNames.mp member with rfl | rfl <;> simp [fileSuffix, metadataSuffix]

theorem Shader.isOwn_of_mem_fileNames {stem name : String} (member : name ∈ fileNames stem) : IsOwn name :=
  .inl (dot_of_mem_fileNames member)

/-- A name with a dot is not that of the marker. -/
theorem Progress.ne_markerName {name : String} (dot : '.' ∈ name.toList) : name ≠ markerName := by
  rintro rfl
  exact absurd dot (by decide)

theorem Shader.notMarker_of_mem_fileNames {stem name : String} (member : name ∈ fileNames stem) :
    name ∉ [Progress.markerName] :=
  fun same => Progress.ne_markerName (dot_of_mem_fileNames member) (List.mem_singleton.mp same)

theorem Shader.ne_of_mem_fileNames {stem name : String} (member : name ∈ fileNames stem) : name ≠ ".." := by
  rcases mem_fileNames.mp member with rfl | rfl
  · exact append_fileSuffix_ne stem
  · exact append_metadataSuffix_ne stem

theorem Shader.stem_eq_of_mem_fileNames {stem stem' name : String} (member : name ∈ fileNames stem)
    (member' : name ∈ fileNames stem') : stem = stem' := by
  have ends : ∀ a b : String, a ++ fileSuffix ≠ b ++ metadataSuffix := by
    intro a b same
    have reversed := congrArg (fun s : String => s.toList.reverse.head?) same
    simp [fileSuffix, metadataSuffix] at reversed
  rcases mem_fileNames.mp member with rfl | rfl <;> rcases mem_fileNames.mp member' with same | same
  · exact String.append_left_inj _ |>.mp same
  · exact absurd same (ends _ _)
  · exact absurd same.symm (ends _ _)
  · exact String.append_left_inj _ |>.mp same

/-- Whether an artifact is a stored shader, with the digest and the size of its text. -/
structure Artifact.Holds (tree : FileTree) (artifact : Artifact) (shader : Shader) : Prop where
  stored : shader.StoredAt tree artifact.path
  digest : artifact.digest = Blake3.digest (Text.utf8 shader.text)
  size : artifact.size = (Text.utf8 shader.text).size

namespace Artifact

/-- Stores a shader in the working directory and notes what its file is. -/
def write (work : Path) (stem : String) (kind : ArtifactKind) (shader : Shader) : Action σ Artifact := do
  let path ← shader.store (work.child stem)
  ofFile path kind

theorem writeStep_eq (work : Path) (base : String) (number : Nat) (outcome : StepOutcome) (shader : Shader) :
    (writeStep work base number outcome shader : Action σ Artifact) =
      write work (Step.fileStem base number (some outcome)) (.step outcome) shader := rfl

theorem writeFinal_eq (work : Path) (base : String) (shader : Shader) :
    (writeFinal work base shader : Action σ Artifact) = write work (Step.finalStem base) .final shader := rfl

theorem after_ofFile (path : Path) (kind : ArtifactKind) (world : World σ) :
    after (ofFile path kind) world = world :=
  Action.after_bind_eq (Action.after_readBytes path world) fun _ => rfl

variable {work : Path} {stem : String} {world : World σ}

/-- A shader that is written into the working directory leaves alone all places of which its two files are clear. -/
theorem write_agrees_of_clear {places : Place → Prop} (kind : ArtifactKind) (shader : Shader) (isName : Path.IsName stem)
    (clear : ∀ name ∈ Shader.fileNames stem, world.files.Clear places (work.entry name)) :
    World.Agrees places world (after (write work stem kind shader) world) := by
  refine .bind ?_ fun path stored _ _ => ?_
  · rw [Path.child_of_isName work isName]
    refine Shader.store_agrees shader ?_ ?_ <;> rw [Path.entry_parent, Path.entry_name]
    · exact clear _ (by simp [Shader.fileNames])
    · exact clear _ (by simp [Shader.fileNames])
  · rw [after_ofFile]
    exact .refl _ stored

/-- A shader that is written into the working directory changes its two files alone. -/
theorem write_agrees (kind : ArtifactKind) (shader : Shader) (isName : Path.IsName stem)
    (standing : world.files.Standing work) :
    World.Agrees (Progress.Beside work (Shader.fileNames stem)) world
      (after (write work stem kind shader) world) :=
  write_agrees_of_clear kind shader isName fun _ member =>
    Progress.clear_beside standing (Shader.ne_of_mem_fileNames member) member

/-- What was written into the working directory is the artifact of the shader. -/
theorem write_ok {kind : ArtifactKind} {shader : Shader} {artifact : Artifact} {left : World σ}
    (isName : Path.IsName stem) (directory : world.files.isDirectory work = true)
    (success : write work stem kind shader world = .ok artifact left) :
    artifact.path = work.entry (stem ++ Shader.fileSuffix) ∧ artifact.kind = kind ∧
      left = { world with files := left.files } ∧ artifact.Holds left.files shader := by
  obtain ⟨path, stored, run, success⟩ := bind_ok success
  rw [Path.child_of_isName work isName] at run
  obtain ⟨place, -, same, holds⟩ := Shader.store_ok (by rwa [Path.entry_parent]) run
  rw [Path.entry_parent, Path.entry_name] at place
  obtain ⟨content, found, success⟩ := bind_ok_still (Action.after_readBytes path stored) success
  cases success
  have text := (Action.readBytes_ok found).1
  rw [holds.text] at text
  cases text
  exact ⟨place, rfl, same, holds, rfl, rfl⟩

end Artifact

/-! ## Stored shaders that stay -/

section Stay

variable {work : Path} {stem : String} {shader : Shader}

/-- The places that the two paths of a shader in the working directory visit. -/
theorem Shader.sight_entry (named : stem ≠ "") {place : Place}
    (seen : Sight (work.entry (stem ++ fileSuffix)) place) :
    ∃ name ∈ fileNames stem, place ∈ (work.entry name).visited := by
  rcases seen with visited | ⟨sidecar, beside, visited⟩
  · exact ⟨_, List.mem_cons_self, visited⟩
  · rw [metadataPath_entry work named] at beside
    cases beside
    exact ⟨_, by simp [fileNames], visited⟩

/-- Changing none but other files changes nothing that a shader in the working directory is read from. -/
theorem Shader.agreeOn_sight {a b : World σ} {names : List String} (named : stem ≠ "")
    (agree : World.Agrees (Progress.Beside work names) a b) (other : ∀ name ∈ fileNames stem, name ∉ names) :
    FileTree.AgreeOn (Sight (work.entry (stem ++ fileSuffix))) a.files b.files := by
  refine agree.files.mono fun place seen => ?_
  obtain ⟨name, member, visited⟩ := sight_entry named seen
  exact Progress.beside_entry (isOwn_of_mem_fileNames member) (ne_of_mem_fileNames member)
    (other name member) visited

end Stay

end ShaderShrink
