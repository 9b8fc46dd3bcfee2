import ShaderShrink.Proofs.Reduction.Course
import ShaderShrink.Proofs.Reduction.Marker

/-!
# What a reduction leaves alone

A judgement leaves all own files of the reduction alone, and a step those of all other steps, whether it
ends with a fault or not.  What a step records is the candidate that it wrote.
-/

namespace ShaderShrink

open Effect

variable {σ : Type}

/-- The names of the two files of a step. -/
def Step.fileNames (base : String) (number : Nat) (outcome : StepOutcome) : List String :=
  Shader.fileNames (Step.fileStem base number (some outcome))

theorem Step.mem_fileNames_number {base name : String} {number number' : Nat} {outcome outcome' : StepOutcome}
    (member : name ∈ fileNames base number outcome) (member' : name ∈ fileNames base number' outcome') :
    number = number' ∧ outcome = outcome' := by
  have same := Shader.stem_eq_of_mem_fileNames member member'
  have files : fileName base number outcome = fileName base number' outcome' := by
    rw [fileName, fileName, same]
  exact fileName_inj files

theorem Progress.Own.beside {work : Path} {names : List String} {a b : World σ}
    (agree : World.Agrees (Progress.Own work) a b) : World.Agrees (Progress.Beside work names) a b :=
  agree.mono fun _ => Progress.Beside.own

/-- What an artifact of the working directory holds stays if none but other files change. -/
theorem Artifact.Holds.of_beside {artifact : Artifact} {work : Path} {stem : String} {names : List String}
    {a b : World σ} {shader : Shader} (holds : artifact.Holds a.files shader)
    (placed : artifact.path = work.entry (stem ++ Shader.fileSuffix)) (named : stem ≠ "")
    (agree : World.Agrees (Progress.Beside work names) a b)
    (other : ∀ name ∈ Shader.fileNames stem, name ∉ names) : artifact.Holds b.files shader := by
  refine { holds with stored := ?_ }
  rw [placed]
  exact (placed ▸ holds.stored).of_agreeOn (Shader.agreeOn_sight named agree other)

namespace Reducer

variable {reducer : Reducer σ} {base : String}

/-- What makes a reduction keep to its own files: the base name is a name, the scratch directory lies apart,
and the verdict spares the own files. -/
structure Careful (reducer : Reducer σ) (base : String) (scratch : Path) : Prop where
  plain : '/' ∉ base.toList
  apart : Apart reducer.work base scratch
  spares : Verdict.Spares reducer.verdict reducer.work scratch

/-- A shader that got an answer was stored, so that its metadata can be written. -/
theorem writable_of_judge {shader : Shader} {world left : World σ} {answer : Bool}
    (success : reducer.judge base shader world = .ok answer left) : shader.Writable := by
  obtain ⟨made, inside, directory, success⟩ := Action.withScratch_ok success
  obtain ⟨path, stored, storing, -⟩ := bind_ok success
  exact Shader.writable_of_store storing

theorem Careful.judge_agrees {world : World σ} (careful : Careful reducer base world.scratch)
    (directory : world.files.isDirectory reducer.work = true) (candidate : Shader) :
    World.Agrees (Progress.Own reducer.work) world (after (reducer.judge base candidate) world) :=
  Reducer.judge_agrees candidate (FileTree.standing_of_isDirectory directory) careful.apart careful.spares

theorem answers_after {candidate : Shader} {world left : World σ} {answer : Answer}
    (answers : Answers reducer base candidate world answer left) :
    after (reducer.judge base candidate) world = left := by
  cases answer with
  | ok value => exact after_ok answers
  | error fault => exact after_error answers.1

/-- A judgement leaves all own files alone. -/
theorem Careful.answers_agrees {world left : World σ} (careful : Careful reducer base world.scratch)
    (directory : world.files.isDirectory reducer.work = true) {candidate : Shader} {answer : Answer}
    (answers : Answers reducer base candidate world answer left) :
    World.Agrees (Progress.Own reducer.work) world left :=
  answers_after answers ▸ careful.judge_agrees directory candidate

theorem writeStep_agrees {work : Path} {world : World σ} (plain : '/' ∉ base.toList)
    (directory : world.files.isDirectory work = true) (number : Nat) (outcome : StepOutcome)
    (candidate : Shader) :
    World.Agrees (Progress.Beside work (Step.fileNames base number outcome)) world
      (after (Artifact.writeStep work base number outcome candidate) world) := by
  rw [Artifact.writeStep_eq]
  exact Artifact.write_agrees _ candidate (Step.isName_fileStem plain number outcome)
    (FileTree.standing_of_isDirectory directory)

/-- A record leaves alone the files of all other steps. -/
theorem recorded_agrees {key : String} {number : Nat} {candidate : Shader} {answer : Answer}
    {judged left : World σ} {records : List StepRecord} (plain : '/' ∉ base.toList)
    (directory : judged.files.isDirectory reducer.work = true)
    (recorded : Recorded reducer base key number candidate answer judged records left) :
    World.Agrees (Progress.Beside reducer.work (Step.fileNames base number (outcomeOf answer))) judged left := by
  cases recorded with
  | dropped _ => exact .refl _ judged
  | written _ writing =>
    exact after_ok writing ▸ writeStep_agrees plain directory number (outcomeOf answer) candidate

/-- After an answer the working directory stands, and with its record none but the files of the step have changed. -/
theorem Careful.recorded_agrees {key : String} {number : Nat} {candidate : Shader} {answer : Answer}
    {world judged left : World σ} {records : List StepRecord} (careful : Careful reducer base world.scratch)
    (directory : world.files.isDirectory reducer.work = true)
    (answers : Answers reducer base candidate world answer judged)
    (recorded : Recorded reducer base key number candidate answer judged records left) :
    judged.files.isDirectory reducer.work = true ∧
      World.Agrees (Progress.Beside reducer.work (Step.fileNames base number (outcomeOf answer))) world left := by
  have agree := careful.answers_agrees directory answers
  have directory := (agree.isDirectory fun _ => Progress.own_visited).trans directory
  exact ⟨directory, (Progress.Own.beside agree).trans (Reducer.recorded_agrees careful.plain directory recorded)⟩

/-- What is recorded is the candidate, under the number of the step. -/
theorem recorded_holds {key : String} {number : Nat} {candidate : Shader} {answer : Answer}
    {judged left : World σ} {records : List StepRecord} (plain : '/' ∉ base.toList)
    (directory : judged.files.isDirectory reducer.work = true)
    (recorded : Recorded reducer base key number candidate answer judged records left) :
    (records = [] ∧ left = judged ∧ answer = .ok false) ∨ ∃ artifact,
      records = [⟨number, outcomeOf answer, key, artifact⟩] ∧
      artifact.path = reducer.work.entry (Step.fileName base number (outcomeOf answer)) ∧
      artifact.Holds left.files candidate := by
  cases recorded with
  | dropped unkept =>
    refine .inl ⟨rfl, rfl, ?_⟩
    rcases answer with fault | _ | _
    · cases unkept
    · rfl
    · cases unkept
  | @written artifact _ _ writing =>
    rw [Artifact.writeStep_eq] at writing
    obtain ⟨placed, -, -, holds⟩ := Artifact.write_ok (Step.isName_fileStem plain number _) directory writing
    exact .inr ⟨artifact, rfl, placed, holds⟩

/-- Where a candidate is kept, its file stands. -/
theorem recorded_stands {key : String} {number : Nat} {candidate : Shader} {answer : Answer}
    {judged left : World σ} {records : List StepRecord} (plain : '/' ∉ base.toList)
    (directory : judged.files.isDirectory reducer.work = true) (kept : reducer.keeps answer = true)
    (recorded : Recorded reducer base key number candidate answer judged records left) :
    (left.files.lookup? (reducer.work.place ++ [Step.fileName base number (outcomeOf answer)])).isSome = true := by
  cases recorded with
  | dropped unkept =>
    rw [kept] at unkept
    cases unkept
  | @written artifact _ _ writing =>
    rw [Artifact.writeStep_eq] at writing
    obtain ⟨placed, -, -, holds⟩ := Artifact.write_ok (Step.isName_fileStem plain number _) directory writing
    have found := (FileTree.lookup?_of_read holds.stored.text).2
    rw [placed, Path.entry_place _ (Shader.append_fileSuffix_ne _)] at found
    exact Option.isSome_iff_exists.mpr ⟨_, found⟩

/-- A step leaves alone the files of all other steps, also when it ends with a fault. -/
theorem Careful.step_agrees {p : Position σ} (careful : Careful reducer base p.world.scratch)
    (directory : p.world.files.isDirectory reducer.work = true)
    {result : EStateM.Result Fault (ReductionState × World σ) (List String)}
    (steps : Steps reducer base p result) :
    ∃ outcome, World.Agrees (Progress.Beside reducer.work (Step.fileNames base p.number outcome)) p.world
      (leaves result).2 := by
  cases steps with
  | exhausted _ => exact ⟨.success, .refl _ p.world⟩
  | unproposed fault context => exact ⟨.success, .refl _ p.world⟩
  | crashed _ failed _ =>
    exact ⟨.success, Progress.Own.beside (after_error failed ▸ careful.judge_agrees directory _)⟩
  | unwritten _ answers _ failed =>
    have agree := careful.answers_agrees directory answers
    have directory := (agree.isDirectory fun _ => Progress.own_visited).trans directory
    exact ⟨_, (Progress.Own.beside agree).trans
      (after_error failed ▸ writeStep_agrees careful.plain directory p.number _ _)⟩
  | stopped _ answers recorded _ => exact ⟨_, (careful.recorded_agrees directory answers recorded).2⟩
  | moved level message _ answers recorded _ =>
    exact ⟨_, (careful.recorded_agrees directory answers recorded).2.trans (World.agrees_noting _ _ level message)⟩

/-- From one position to the next, none but the files of the step between them change. -/
theorem Careful.next?_agrees {p q : Position σ} (careful : Careful reducer base p.world.scratch)
    (directory : p.world.files.isDirectory reducer.work = true) (further : reducer.next? base p = some q) :
    q.number = p.number + 1 ∧ ∃ outcome,
      World.Agrees (Progress.Beside reducer.work (Step.fileNames base p.number outcome)) p.world q.world := by
  obtain ⟨_, _, _, answer, _, _, left, level, message, -, answers, recorded, rfl⟩ := next?_cases further
  exact ⟨rfl, outcomeOf answer, (careful.recorded_agrees directory answers recorded).2.trans
    (World.agrees_noting _ left level message)⟩

/-- The judgement of the starting shader leaves all own files alone. -/
theorem Careful.checks_agrees {now : ReductionState} {world : World σ}
    (careful : Careful reducer base world.scratch) (directory : world.files.isDirectory reducer.work = true)
    {result : EStateM.Result Fault (ReductionState × World σ) Unit}
    (checks : Checks reducer base now world result) :
    World.Agrees (Progress.Own reducer.work) world (leaves result).2 := by
  cases checks with
  | skipped _ => exact .refl _ world
  | passed message _ success =>
    exact (after_ok success ▸ careful.judge_agrees directory now.shader).trans (World.agrees_noting _ _ _ _)
  | refused message _ success => exact after_ok success ▸ careful.judge_agrees directory now.shader
  | failed _ failed => exact after_error failed ▸ careful.judge_agrees directory now.shader

theorem marked_agrees {work : Path} {world marked : World σ}
    (marking : Progress.placeMarker work world = .ok () marked) :
    World.Agrees (Progress.Beside work [Progress.markerName]) world marked :=
  after_ok marking ▸ Progress.placeMarker_agrees
    (FileTree.standing_of_isDirectory (Progress.placeMarker_ok marking).1)

/-- In front of the loop nothing has changed but the marker, which stands. -/
theorem Careful.opened_agrees {first limit : Int} {now : ReductionState} {world marked : World σ}
    (careful : Careful reducer base world.scratch)
    (marking : Progress.placeMarker reducer.work world = .ok () marked)
    {result : EStateM.Result Fault (ReductionState × World σ) Unit}
    (checks : Checks reducer base now (announced base first limit now marked) result) :
    World.Agrees (Progress.Beside reducer.work [Progress.markerName]) world (leaves result).2 ∧
      World.Agrees (Progress.Own reducer.work) marked (leaves result).2 := by
  have agree := marked_agrees marking
  have directory := (agree.isDirectory fun _ => .inl).trans (Progress.placeMarker_ok marking).1
  have careful : Careful reducer base (announced base first limit now marked).scratch := by
    rwa [← agree.scratch] at careful
  have still : World.Agrees (Progress.Own reducer.work) marked (leaves result).2 :=
    (World.agrees_noting _ marked .info _).trans (careful.checks_agrees directory checks)
  exact ⟨agree.trans (Progress.Own.beside still), still⟩

end Reducer

end ShaderShrink
