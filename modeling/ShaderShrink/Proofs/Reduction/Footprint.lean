import ShaderShrink.Proofs.Reduction.Marking
import ShaderShrink.Proofs.Reduction.Unhindered

/-!
# What a driver writes

A driver writes the files of its steps, those of the final shader, and the marker.  All other own files of the
working directory stay as they are, and so do the files of all steps that stand there when the driver begins or are
written while it goes on, whatever shader they belong to.
-/

namespace ShaderShrink

open Effect
open Progress (Found IsOwn Beside Uses markerName)

variable {σ : Type} {work scratch : Path} {base : String} {world : World σ}

namespace Progress

/-- The places on which progress rests and which no driver of a reduction of the shader writes. -/
def Unwritten (work : Path) (base : String) (place : Place) : Prop :=
  place ∈ work.visited ∨ ∃ name, IsOwn name ∧ (∀ beyond, ¬ Uses base 0 beyond name) ∧ place = work.place ++ [name]

variable {names : List String} {a b c : FileTree}

theorem Unwritten.beside {place : Place} (unwritten : Unwritten work base place)
    (written : ∀ name ∈ names, ∃ beyond, Uses base 0 beyond name) : Beside work names place :=
  unwritten.imp_right fun ⟨name, own, unused, same⟩ =>
    ⟨name, own, fun member => (written name member).elim fun beyond uses => unused beyond uses, same⟩

theorem Beside.of_append_left {others : List String} {place : Place} (beside : Beside work (names ++ others) place) :
    Beside work names place :=
  beside.imp_right fun ⟨name, own, outside, same⟩ => ⟨name, own, fun member => outside (List.mem_append_left _ member), same⟩

theorem Beside.of_append_right {others : List String} {place : Place} (beside : Beside work (others ++ names) place) :
    Beside work names place :=
  beside.imp_right fun ⟨name, own, outside, same⟩ => ⟨name, own, fun member => outside (List.mem_append_right _ member), same⟩

theorem isOwn_of_ofFileName? {name : String} (named : (Step.ofFileName? base name).isSome = true) : IsOwn name := by
  obtain ⟨⟨number, outcome⟩, found⟩ := Option.isSome_iff_exists.mp named
  exact isOwn_of_named found

private theorem not_isSome_of_metadata (base stem : String) :
    ¬ (Step.ofFileName? base (stem ++ Shader.metadataSuffix)).isSome = true := by
  rw [Step.ofFileName?_metadata]
  exact Bool.false_ne_true

/-- The names of the files of a shader's steps: those of their texts, and of the documents beside them. -/
inductive StepName (base : String) : String → Prop
  | text {name : String} : (Step.ofFileName? base name).isSome = true → StepName base name
  | metadata {stem : String} : (Step.ofFileName? base (stem ++ Shader.fileSuffix)).isSome = true →
      StepName base (stem ++ Shader.metadataSuffix)

namespace StepName

variable {name : String}

theorem isOwn (step : StepName base name) : IsOwn name := by
  cases step with
  | text named => exact isOwn_of_ofFileName? named
  | @metadata stem _ => exact @Shader.isOwn_of_mem_fileNames stem _ (by simp [Shader.fileNames])

/-- If a step's file is one of those of a shader, then it is that shader's text which tells the step. -/
theorem of_mem_fileNames {stem : String} (step : StepName base name) (member : name ∈ Shader.fileNames stem) :
    (Step.ofFileName? base (stem ++ Shader.fileSuffix)).isSome = true := by
  cases step with
  | text named =>
    rcases Shader.mem_fileNames.mp member with rfl | rfl
    · exact named
    · exact absurd named (not_isSome_of_metadata base stem)
  | @metadata other named =>
    obtain rfl : other = stem := Shader.stem_eq_of_mem_fileNames (by simp [Shader.fileNames]) member
    exact named

/-- A step's file is none of the files of a shader that is no step. -/
theorem notMem_fileNames {stem : String} (step : StepName base name)
    (other : Step.ofFileName? base (stem ++ Shader.fileSuffix) = none) : name ∉ Shader.fileNames stem := by
  intro member
  have named := step.of_mem_fileNames member
  rw [other] at named
  cases named

/-- A step's file is none of those with another end. -/
theorem ne_of_end {other : String} (step : StepName base name) (last before : Char) (front : Text)
    (reversed : other.toList.reverse = last :: before :: front) (notBreak : last ≠ '\n')
    (notText : last ≠ 'g' ∨ before ≠ 'a') (notDocument : last ≠ 'n' ∨ before ≠ 'o') : name ∉ [other] := by
  intro member
  obtain rfl := List.mem_singleton.mp member
  cases step with
  | text named =>
    rw [Step.ofFileName?_of_end last before front reversed notBreak notText] at named
    cases named
  | metadata _ =>
    simp [Shader.metadataSuffix] at reversed
    obtain ⟨rfl, rfl, -⟩ := reversed
    simp at notDocument

/-- A step's file is none of the copies of its shader's input. -/
theorem notMem_input (step : StepName base name) : name ∉ Preparation.inputNames base := by
  rw [Preparation.inputNames, List.mem_append, not_or]
  refine ⟨step.notMem_fileNames (Step.ofFileName?_of_start fun digit tail same => ?_),
    step.ne_of_end 'g' 'n' _ rfl (by decide) (.inr (by decide)) (.inl (by decide))⟩
  simp [Shader.fileSuffix] at same

end StepName

/-- The names of the files of a shader's steps that are found in a working directory. -/
inductive StepFile (tree : FileTree) (work : Path) (base : String) : String → Prop
  | text {name : String} : (Step.ofFileName? base name).isSome = true →
      (tree.lookup? (work.place ++ [name])).isSome = true → StepFile tree work base name
  | metadata {stem : String} : (Step.ofFileName? base (stem ++ Shader.fileSuffix)).isSome = true →
      (tree.lookup? (work.place ++ [stem ++ Shader.fileSuffix])).isSome = true →
      StepFile tree work base (stem ++ Shader.metadataSuffix)

theorem StepFile.named {name : String} (file : StepFile a work base name) : StepName base name := by
  cases file with
  | text named _ => exact .text named
  | metadata named _ => exact .metadata named

theorem StepFile.isOwn {name : String} (file : StepFile a work base name) : IsOwn name := file.named.isOwn

/-- Whether all files of a shader's steps in one tree are the same in another. -/
def KeepsSteps (work : Path) (base : String) (a b : FileTree) : Prop :=
  ∀ name, StepFile a work base name → b.lookup? (work.place ++ [name]) = a.lookup? (work.place ++ [name])

theorem KeepsSteps.trans (first : KeepsSteps work base a b) (second : KeepsSteps work base b c) :
    KeepsSteps work base a c := by
  intro name file
  have same := first name file
  refine (second name ?_).trans same
  cases file with
  | text named stands => exact .text named (same.symm ▸ stands)
  | metadata named stands => exact .metadata named ((first _ (.text named stands)).symm ▸ stands)

end Progress

open Progress (Unwritten KeepsSteps)

namespace Reducer

variable {reducer : Reducer σ} {first limit : Int} {now : ReductionState} {p q : Position σ}

/-- What a reduction may write behind its last position: the files of one more step, those of the final shader, and the
marker. -/
def Last (base : String) (course : List (Position σ)) (name : String) : Prop :=
  name = markerName ∨ name ∈ Shader.fileNames (Step.finalStem base) ∨
    ∃ last outcome, course.getLast? = some last ∧ name ∈ Step.fileNames base last.number outcome

/-- Behind its last position a reduction writes the files of one step, or those of the final shader, and the marker. -/
theorem reduce_ends (careful : Careful reducer base world.scratch) (running : now.status = .running)
    (directory : world.files.isDirectory reducer.work = true) (positive : 1 ≤ first) :
    ∃ names, World.Agrees (Beside reducer.work names) (lastWorld (reducer.course base first limit now world) world)
      (leaves (reducer.reduce base first limit (now, world))).2 ∧
        ∀ name ∈ names, Last base (reducer.course base first limit now world) name := by
  have marked := fun last (isLast : (reducer.course base first limit now world).getLast? = some last) =>
    marked_of_mem careful (List.mem_of_getLast? isLast)
  have isMarker : ∀ course : List (Position σ), ∀ name ∈ [markerName], Last base course name :=
    fun _ _ member => .inl (List.mem_singleton.mp member)
  have finishing : ∀ {last : Position σ} {artifact : Artifact} {written : World σ},
      (reducer.course base first limit now world).getLast? = some last →
      Artifact.writeFinal reducer.work base last.state.shader last.world = .ok artifact written →
      World.Agrees (Beside reducer.work (Shader.fileNames (Step.finalStem base) ++ [markerName])) last.world
        (after (Progress.clearMarker reducer.work) written) := by
    intro last artifact written isLast writing
    have directory := (marked last isLast).directory
    have agree := after_ok writing ▸ Artifact.write_agrees .final last.state.shader (Step.isName_finalStem careful.plain)
      (FileTree.standing_of_isDirectory directory)
    have directory := (agree.isDirectory fun _ => .inl).trans directory
    exact (agree.mono fun _ => Beside.of_append_left).trans
      ((Progress.clearMarker_agrees (FileTree.standing_of_isDirectory directory)).mono fun _ => Beside.of_append_right)
  have reduces := reduce_cases reducer base first limit world running
  generalize reducer.reduce base first limit (now, world) = result at reduces ⊢
  cases reduces with
  | refused _ low => omega
  | unmarked empty failed =>
    rw [lastWorld, empty]
    exact ⟨[markerName], after_error failed ▸ Progress.placeMarker_agrees (FileTree.standing_of_isDirectory directory),
      isMarker _⟩
  | unchecked empty marking checks =>
    rw [lastWorld, empty]
    exact ⟨[markerName], (careful.opened_agrees marking checks).1, isMarker _⟩
  | crashed isLast steps =>
    have marked := marked _ isLast
    obtain ⟨outcome, agree⟩ := Careful.step_agrees (marked.sameScratch.symm ▸ careful) marked.directory steps
    rw [lastWorld, isLast]
    exact ⟨_, agree, fun name member => .inr (.inr ⟨_, outcome, isLast, member⟩)⟩
  | unwritten isLast failed =>
    rw [lastWorld, isLast]
    refine ⟨_, after_error failed ▸ Artifact.write_agrees .final _ (Step.isName_finalStem careful.plain)
      (FileTree.standing_of_isDirectory (marked _ isLast).directory), fun name member => .inr (.inl member)⟩
  | uncleared status isLast writing failed =>
    rw [lastWorld, isLast]
    exact ⟨_, after_error failed ▸ finishing isLast writing, fun name member =>
      (List.mem_append.mp member).elim (fun final => .inr (.inl final)) (isMarker _ name)⟩
  | finished status message isLast writing clearing _ =>
    rw [lastWorld, isLast]
    exact ⟨_, (after_ok clearing ▸ finishing isLast writing).trans (World.agrees_noting _ _ _ _), fun name member =>
      (List.mem_append.mp member).elim (fun final => .inr (.inl final)) (isMarker _ name)⟩

theorem Last.uses {course : List (Position σ)} {name : String} (isLast : Last base course name) :
    ∃ beyond, Uses base 0 beyond name := by
  rcases isLast with rfl | final | ⟨last, outcome, -, member⟩
  · exact ⟨0, .marker⟩
  · exact ⟨0, .final final⟩
  · exact ⟨last.number + 1, .step (Nat.zero_le _) (Nat.lt_succ_self _) member⟩

private theorem step_uses (number : Nat) (outcome : StepOutcome) :
    ∀ name ∈ Step.fileNames base number outcome, ∃ beyond, Uses base 0 beyond name :=
  fun _ member => ⟨number + 1, .step (Nat.zero_le _) (Nat.lt_succ_self _) member⟩

/-- Up to every position, a reduction has changed no own file but those that it writes. -/
theorem agrees_of_mem (careful : Careful reducer base world.scratch)
    (member : p ∈ reducer.course base first limit now world) :
    World.Agrees (Unwritten reducer.work base) world p.world := by
  refine @course_induction σ reducer base first limit now world
    (fun p => World.Agrees (Unwritten reducer.work base) world p.world) (fun marked opened marking checks => ?_)
    (fun p member q further agree => ?_) p member
  · exact (careful.opened_agrees marking checks).1.mono fun _ unwritten => unwritten.beside fun name member =>
      ⟨0, List.mem_singleton.mp member ▸ .marker⟩
  · have marked := marked_of_mem careful member
    obtain ⟨-, outcome, further⟩ := Careful.next?_agrees (marked.sameScratch.symm ▸ careful) marked.directory further
    exact agree.trans (further.mono fun _ unwritten => unwritten.beside (step_uses p.number outcome))

section Whole

variable (careful : Careful reducer base world.scratch) (running : now.status = .running)
  (directory : world.files.isDirectory reducer.work = true) (positive : 1 ≤ first)
include careful running directory positive

/-- However a reduction ends, it has changed no own file but those that it writes. -/
theorem reduce_agrees : World.Agrees (Unwritten reducer.work base) world
    (leaves (reducer.reduce base first limit (now, world))).2 := by
  obtain ⟨names, agree, isLast⟩ := @reduce_ends _ _ _ _ first limit _ careful running directory positive
  have last : World.Agrees (Unwritten reducer.work base) world
      (lastWorld (reducer.course base first limit now world) world) := by
    unfold lastWorld
    cases found : (reducer.course base first limit now world).getLast? with
    | none => exact .refl _ world
    | some last => exact agrees_of_mem careful (List.mem_of_getLast? found)
  exact last.trans (agree.mono fun _ unwritten => unwritten.beside fun name member => (isLast name member).uses)

end Whole

end Reducer

end ShaderShrink
