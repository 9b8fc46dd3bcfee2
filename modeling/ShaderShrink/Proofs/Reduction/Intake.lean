import ShaderShrink.Proofs.Reduction.Marker
import ShaderShrink.Reduction.Preparation
import ShaderShrink.Settings.Usage

/-!
# Taking the input in

Checking the usage changes no file, and lets a reduction begin afresh only where no step is found and no
marker stands, and go on only where one does.  Putting the input into the working directory makes the
directory and changes nothing in it but the copies of the input.
-/

namespace ShaderShrink

open Effect

variable {σ : Type} {shader work : Path} {world left : World σ}

namespace Settings

/-! ## Checking the usage -/

/-- Whether an action changes the log at most. -/
private def OnlyLogs {α : Type} (action : Action σ α) (world : World σ) : Prop :=
  (after action world).files = world.files ∧ (after action world).scratch = world.scratch

private theorem checkTogether_onlyLogs (settings : Settings) (world : World σ) :
    OnlyLogs settings.checkTogether world := by
  unfold OnlyLogs checkTogether
  dsimp only
  split_ifs <;> exact ⟨rfl, rfl⟩

theorem files_of_checkTogether (settings : Settings) (world : World σ) :
    (after settings.checkTogether world).files = world.files := (checkTogether_onlyLogs settings world).1

private theorem after_demand (path : Path) (fault : Fault) (world : World σ) :
    after (do if !(← Action.isFile path) then throw fault : Action σ Unit) world = world := by
  refine Action.after_bind_eq (Action.after_isFile path world) fun present => ?_
  cases present <;> rfl

theorem after_checkFiles (settings : Settings) (shader : Path) (world : World σ) :
    after (settings.checkFiles shader) world = world := by
  unfold checkFiles
  refine Action.after_bind_eq (Action.after_isFile shader world) fun present => ?_
  cases present
  · rfl
  refine Action.after_bind_eq (Action.after_ofExcept _ world) fun metadata => ?_
  refine Action.after_bind_eq (Action.after_isFile metadata world) fun present => ?_
  cases present
  · rfl
  cases settings.referenceImage with
  | none => rfl
  | some image => exact after_demand image _ world

theorem after_checkDirectory (settings : Settings) (shader work : Path) (world : World σ) :
    after (settings.checkDirectory shader work) world = world := by
  unfold checkDirectory
  refine Action.after_bind_eq ?_ fun tree => ?_
  · rw [after, Action.filesFor_apply]
    split_ifs <;> rfl
  · split_ifs <;> rfl

private theorem checkUsage_onlyLogs (settings : Settings) (shader work : Path) (world : World σ) :
    OnlyLogs (settings.checkUsage shader work) world := by
  have together := checkTogether_onlyLogs settings world
  unfold OnlyLogs checkUsage
  cases run : settings.checkTogether world with
  | error fault left =>
    rw [after_error (bind_of_error run _), ← after_error run]
    exact together
  | ok _ checked =>
    have rest : after (do settings.checkFiles shader; settings.checkDirectory shader work) checked = checked :=
      Action.after_bind_eq (after_checkFiles settings shader checked) fun _ =>
        after_checkDirectory settings shader work checked
    rw [OnlyLogs, after_ok run] at together
    have whole : after (do settings.checkTogether; settings.checkFiles shader; settings.checkDirectory shader work)
        world = checked := by
      rw [after, bind_of_ok run]
      exact rest
    rw [whole]
    exact together

theorem files_of_checkUsage (settings : Settings) (shader work : Path) (world : World σ) :
    (after (settings.checkUsage shader work) world).files = world.files :=
  (checkUsage_onlyLogs settings shader work world).1

/-- Checking the usage changes no file. -/
theorem checkUsage_agrees (places : Place → Prop) (settings : Settings) (shader work : Path) (world : World σ) :
    World.Agrees places world (after (settings.checkUsage shader work) world) := by
  obtain ⟨files, scratch⟩ := checkUsage_onlyLogs settings shader work world
  exact ⟨scratch, files ▸ .refl places world.files⟩

/-- A reduction goes on only where a marker stands, and begins afresh only where none stands and no step is
found. -/
theorem checkDirectory_ok {settings : Settings}
    (success : settings.checkDirectory shader work world = .ok () left) :
    if settings.continuing then Progress.hasMarker world.files work = true
    else Progress.latest? world.files work shader.stem = none := by
  unfold checkDirectory at success
  obtain ⟨tree, looked, rest⟩ := bind_ok_still (by
    rw [after, Action.filesFor_apply]
    split_ifs <;> rfl) success
  rw [Action.filesFor_apply] at looked
  split_ifs at looked
  cases looked
  cases continuing : settings.continuing with
  | true =>
    cases marked : Progress.hasMarker world.files work with
    | true => rfl
    | false =>
      simp only [continuing, marked, Bool.not_false, ↓reduceIte] at rest
      cases rest
  | false =>
    cases found : Progress.latest? world.files work shader.stem with
    | none => rfl
    | some number =>
      simp only [continuing, found, Option.isSome_some, Bool.or_true, Bool.false_eq_true, ↓reduceIte] at rest
      cases rest

/-- Where a marker stands, a reduction may go on. -/
theorem checkDirectory_of_hasMarker {settings : Settings} (continuing : settings.continuing = true)
    (marked : Progress.hasMarker world.files work = true) :
    settings.checkDirectory shader work world = .ok () world := by
  have look : world.files.canLook (Progress.marker work) = true := by
    unfold Progress.hasMarker FileTree.has FileTree.at? at marked
    unfold FileTree.canLook
    cases located : world.files.locate (Progress.marker work) with
    | ok place => rfl
    | error failure => rw [located] at marked; cases marked
  unfold checkDirectory
  rw [bind_of_ok (show Action.filesFor (Progress.marker work) world = .ok world.files world by
    rw [Action.filesFor_apply, if_pos look])]
  simp only [continuing, marked, Bool.not_true, Bool.false_eq_true, ↓reduceIte]
  rfl

/-- What was found when the usage of a reduction was checked. -/
theorem checkUsage_ok {settings : Settings} (success : settings.checkUsage shader work world = .ok () left) :
    left.files = world.files ∧
      if settings.continuing then Progress.hasMarker world.files work = true
      else Progress.latest? world.files work shader.stem = none := by
  have whole := (checkUsage_onlyLogs settings shader work world).1
  rw [after_ok success] at whole
  obtain ⟨_, together, run, success⟩ := bind_ok success
  have same := (checkTogether_onlyLogs settings world).1
  rw [after_ok run] at same
  obtain ⟨_, -, success⟩ := bind_ok_still (after_checkFiles settings shader together) success
  exact ⟨whole, same ▸ checkDirectory_ok success⟩

/-- Where a marker stands, a reduction that goes on is refused only for its settings and its input files. -/
theorem checkUsage_of_hasMarker {settings : Settings} (continuing : settings.continuing = true)
    (marked : Progress.hasMarker world.files work = true) :
    settings.checkUsage shader work world = (do settings.checkTogether; settings.checkFiles shader) world := by
  unfold checkUsage
  cases run : settings.checkTogether world with
  | error fault left => rw [bind_of_error run, bind_of_error run]
  | ok _ together =>
    have same := (checkTogether_onlyLogs settings world).1
    rw [after_ok run] at same
    rw [bind_of_ok run, bind_of_ok run]
    cases found : settings.checkFiles shader together with
    | error fault left => exact bind_of_error found _
    | ok _ checked =>
      obtain rfl := (after_ok found).symm.trans (after_checkFiles settings shader together)
      rw [bind_of_ok found]
      exact checkDirectory_of_hasMarker continuing (same ▸ marked)

/-- Where a marker stands, no reduction begins afresh. -/
theorem checkUsage_of_fresh {settings : Settings} (fresh : settings.continuing = false)
    (marked : Progress.hasMarker world.files work = true) :
    ∃ fault left, settings.checkUsage shader work world = .error fault left := by
  cases run : settings.checkUsage shader work world with
  | error fault left => exact ⟨fault, left, rfl⟩
  | ok _ left =>
    obtain ⟨_, together, run, success⟩ := bind_ok run
    have same := (checkTogether_onlyLogs settings world).1
    rw [after_ok run] at same
    obtain ⟨_, -, success⟩ := bind_ok_still (after_checkFiles settings shader together) success
    unfold checkDirectory at success
    obtain ⟨tree, looked, rest⟩ := bind_ok_still (by
      rw [after, Action.filesFor_apply]
      split_ifs <;> rfl) success
    rw [Action.filesFor_apply] at looked
    split_ifs at looked
    cases looked
    rw [same] at rest
    simp only [fresh, marked, Bool.true_or, Bool.false_eq_true, ↓reduceIte] at rest
    cases rest

end Settings

/-- Whether a path leads to a shader file with some base name. -/
structure Path.IsShader (shader : Path) (base : String) : Prop where
  name : shader.name = base ++ Shader.fileSuffix
  filled : base ≠ ""
  plain : '/' ∉ base.toList

namespace Path.IsShader

variable {base : String}

theorem stem (isShader : IsShader shader base) : shader.stem = base := by
  rw [Path.stem, isShader.name, Shader.splitName_fileSuffix isShader.filled]

theorem isName (isShader : IsShader shader base) : IsName (base ++ Shader.fileSuffix) :=
  Step.isName_append isShader.plain (by decide) (by decide)

/-- A file of the same name elsewhere. -/
theorem entry (isShader : IsShader shader base) (directory : Path) :
    IsShader (directory.entry (base ++ Shader.fileSuffix)) base :=
  ⟨Path.entry_name directory _, isShader.filled, isShader.plain⟩

end Path.IsShader

namespace Preparation

/-! ## Putting the input into place -/

/-- The names that the copies of the input have in the working directory. -/
def inputNames (base : String) : List String := Shader.fileNames base ++ [referenceName]

variable {base : String} {places : Place → Prop}

/-- Placing the shader changes its two files alone. -/
theorem placeShader_agrees (isShader : shader.IsShader base)
    (clear : ∀ name ∈ inputNames base, world.files.Clear places (work.entry name)) :
    World.Agrees places world (after (placeShader shader work) world) := by
  unfold placeShader
  split
  · exact .refl places world
  · rw [isShader.name, Path.child_of_isName work isShader.isName]
    dsimp only
    rw [Shader.metadataPath_entry work isShader.filled]
    refine .bind (Action.copy_agrees (clear _ (by simp [inputNames, Shader.fileNames]))) fun _ copied _ agree => ?_
    refine .bind ?_ fun sidecar middle run _ => ?_
    · rw [Action.after_ofExcept]
      exact .refl places copied
    obtain ⟨-, rfl⟩ := Action.ofExcept_eq_ok run
    refine .bind (.refl places middle) fun target left run _ => ?_
    obtain ⟨same, rfl⟩ := Action.ofExcept_eq_ok run
    cases same
    have clear := clear _ (show base ++ Shader.metadataSuffix ∈ inputNames base by simp [inputNames, Shader.fileNames])
    exact .bind (Action.copy_agrees (clear.of_agreeOn agree.files)) fun _ left _ _ => .refl places left

private theorem placeReference_agrees (image : Path)
    (clear : ∀ name ∈ inputNames base, world.files.Clear places (work.entry name)) :
    World.Agrees places world (after (placeReference image work) world) := by
  unfold placeReference
  split
  · exact .refl places world
  · rw [Path.child_of_isName work (by decide)]
    exact .bind (Action.copy_agrees (clear _ (by simp [inputNames]))) fun _ left _ _ => .refl places left

/-- Putting the input into place changes nothing but the copies of the input, once the directory stands. -/
theorem prepare_agrees (isShader : shader.IsShader base) (reference : Option Path)
    (clearWork : world.files.Clear places work)
    (clear : ∀ name ∈ inputNames base, world.files.Clear places (work.entry name)) :
    World.Agrees places world (after (prepare shader work reference) world) := by
  refine .bind (Action.makeDirectories_agrees clearWork) fun _ made _ agree => ?_
  have clear := fun name member => (clear name member).of_agreeOn agree.files
  refine .bind (placeShader_agrees isShader clear) fun placed copied _ agree => ?_
  have clear := fun name member => (clear name member).of_agreeOn agree.files
  cases reference with
  | none => exact .refl places copied
  | some image => exact .bind (placeReference_agrees image clear) fun _ left _ _ => .refl places left

theorem ne_of_mem_inputNames {name : String} (member : name ∈ inputNames base) : name ≠ ".." := by
  rcases List.mem_append.mp member with shader | reference
  · exact Shader.ne_of_mem_fileNames shader
  · rw [List.mem_singleton.mp reference]
    decide

theorem clear_inputNames (standing : world.files.Standing work) :
    ∀ name ∈ inputNames base, world.files.Clear (Progress.Beside work (inputNames base)) (work.entry name) :=
  fun _ member => Progress.clear_beside standing (ne_of_mem_inputNames member) member

private theorem placeShader_ok {placed : Path} (isShader : shader.IsShader base)
    (success : placeShader shader work world = .ok placed left) : placed.IsShader base := by
  unfold placeShader at success
  split at success
  · cases success
    exact isShader
  · rw [isShader.name, Path.child_of_isName work isShader.isName] at success
    obtain ⟨_, copied, -, success⟩ := bind_ok success
    obtain ⟨sidecar, -, success⟩ := Action.bind_ofExcept_ok success
    obtain ⟨target, -, success⟩ := Action.bind_ofExcept_ok success
    obtain ⟨_, copied', -, success⟩ := bind_ok success
    cases success
    exact isShader.entry work

/-- Once the input is in place, the working directory stands. -/
theorem prepare_ok {reference : Option Path} {placed : Path × Option Path} (isShader : shader.IsShader base)
    (success : prepare shader work reference world = .ok placed left) :
    left.files.isDirectory work = true ∧ placed.1.IsShader base := by
  obtain ⟨_, made, run, success⟩ := bind_ok success
  have directory := FileTree.isDirectory_of_makeDirectories (Action.changeFiles_ok run).1
  obtain ⟨path, copied, run, success⟩ := bind_ok success
  have placedIs := placeShader_ok isShader run
  have agree := after_ok run ▸ placeShader_agrees isShader
    (clear_inputNames (FileTree.standing_of_isDirectory directory))
  have directory := (agree.isDirectory fun _ => .inl).trans directory
  cases reference with
  | none =>
    cases success
    exact ⟨directory, placedIs⟩
  | some image =>
    obtain ⟨target, left', run, success⟩ := bind_ok success
    cases success
    have agree := after_ok run ▸ @placeReference_agrees _ _ _ base _ image
      (clear_inputNames (FileTree.standing_of_isDirectory directory))
    exact ⟨(agree.isDirectory fun _ => .inl).trans directory, placedIs⟩

end Preparation

end ShaderShrink
