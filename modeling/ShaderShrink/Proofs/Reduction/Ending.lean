import ShaderShrink.Proofs.Reduction.Beginning
import ShaderShrink.Proofs.Reduction.Exhaustion
import ShaderShrink.Proofs.Reduction.Footprint
import ShaderShrink.Proofs.Reduction.Interruption

/-!
# How a call ends

The end of a call decides what the working directory tells about it.  A call that returns leaves the final shader and no
marker.  A call that fails leaves the marker if it has placed it, and as it was if not; all files of steps stay, and
the fault is described in a file unless it is one of the usage or an interruption.
-/

namespace ShaderShrink

open Effect
open Progress (Unwritten KeepsSteps Uses hasMarker markerName)

variable {σ α : Type} {work scratch shader : Path} {base : String} {world : World σ}

namespace Step

theorem faultFileName_notMem_fileNames (base stem : String) : faultFileName base ∉ Shader.fileNames stem := by
  intro member
  rcases Shader.mem_fileNames.mp member with same | same
  all_goals
    have reversed := congrArg (fun s : String => s.toList.reverse) same
    simp [faultFileName, Shader.fileSuffix, Shader.metadataSuffix] at reversed

end Step

namespace Reduction

theorem isOwn_faultFileName (base : String) : Progress.IsOwn (Step.faultFileName base) :=
  .inl (by simp [Step.faultFileName])

end Reduction

namespace Preparation

end Preparation

namespace Reducer

variable {reducer : Reducer σ} {p : Position σ} {opportunity : Opportunity} {candidate : Shader} {fault : Fault}
  {artifact : Artifact} {judged left : World σ}

end Reducer

namespace Call

variable {call : Call σ} {input : Path × Option Path} {taken : World σ}

/-- The worlds from the one in which the driver of a call begins to the one that it leaves. -/
def stages (call : Call σ) (shader work : Path) (world : World σ) : List (World σ) :=
  match call.driver? shader work world with
  | none => []
  | some (driver, entered) =>
    entered :: (driver.course entered).map (·.world) ++ [(leaves (driver.reduce entered)).2]

/-- Taking the input in leaves an own file alone over which nothing is copied, unless the path to the working directory
passes its place and the directory does not stand yet. -/
theorem lookup?_of_intake {name : String} (settings : Settings) (isShader : shader.IsShader base)
    (clear : world.files.isDirectory work = true ∨ work.place ++ [name] ∉ work.visited)
    (uncopied : name ∉ Preparation.inputNames base) :
    (after (Reduction.intake shader work settings) world).files.lookup? (work.place ++ [name]) =
      world.files.lookup? (work.place ++ [name]) := by
  have passed : ∀ place, place = work.place ++ [name] → place ∈ work.visited →
      world.files.lookup? place = some .directory := by
    rintro place rfl way
    rcases clear with directory | outside
    · exact FileTree.standing_of_isDirectory directory _ way
    · exact absurd way outside
  have agree : World.Agrees (· = work.place ++ [name]) world (after (Reduction.intake shader work settings) world) := by
    refine Reduction.intake_agrees isShader passed fun copied member place same visited => ?_
    rcases (Path.mem_entry_visited work (Preparation.ne_of_mem_inputNames member)).mp visited with way | here
    · exact passed place same way
    · obtain rfl := List.singleton_inj.mp (List.append_cancel_left (same.symm.trans here))
      exact absurd member uncopied
  exact (agree.files _ rfl).symm

namespace Drives

variable {driver : Driver σ} {entered : World σ} (drives : Drives driver work base entered.scratch)
  (directory : entered.files.isDirectory work = true)
include drives directory

/-- However a driver ends, it has changed no own file but those that it writes. -/
theorem agrees : World.Agrees (Unwritten work base) entered (leaves (driver.reduce entered)).2 := by
  obtain ⟨rfl, rfl, careful, running, positive⟩ := drives
  exact Reducer.reduce_agrees careful running directory positive

end Drives

section Fails

variable (isShader : shader.IsShader base) (apart : Apart work base world.scratch)
  (spare : Reduction.ToolsSpare call.tools work world.scratch)
include isShader apart spare

/-- What a call that returns leaves: the two files of the final shader, and no marker. -/
structure Concludes (work : Path) (base : String) (result : ReductionResult) (left : World σ) : Prop where
  unmarked : hasMarker left.files work = false
  text : left.files.read (work.entry (Step.finalStem base ++ Shader.fileSuffix)) = .ok (Text.utf8 result.shader.text)
  metadata : ∃ document, (Json.obj result.shader.metadata).indented? = some document ∧
    left.files.read (work.entry (Step.finalStem base ++ Shader.metadataSuffix)) = .ok (Text.utf8 document)

theorem run_concludes {result : ReductionResult} {left : World σ} (success : call.run shader work world = .ok result left) :
    Concludes work base result left := by
  have runs := run_cases call isShader work world
  generalize ended : call.run shader work world = result at runs
  rw [success] at ended
  cases runs with
  | refused => cases ended
  | unready | failed => exact absurd ended.symm (Reduction.report_ne_ok work base _ _ _)
  | finished found reduced =>
    cases ended
    obtain ⟨_, _, _, -, entrance⟩ := driver?_some isShader apart spare found
    obtain ⟨sameWork, sameBase, careful, running, -⟩ := entrance.drives
    obtain ⟨-, gone, -, placed, holds⟩ := Reducer.reduce_concludes careful running reduced
    obtain ⟨text, sidecar, document, beside, writable, metadata⟩ := holds.stored
    rw [sameWork, sameBase] at placed
    rw [placed] at text beside
    cases (Shader.metadataPath_entry work (Step.isName_finalStem isShader.plain).ne_empty).symm.trans beside
    exact ⟨sameWork ▸ gone, text, document, writable, metadata⟩

end Fails

/-- Tools with which long shaders crash, and which fail on all others. -/
def failingBelow (size : Nat) (fault : Fault) : Dispatcher Unit where
  render shader _ _ := do
    if (← Action.readText shader).length < size then throw fault else return ⟨.crash, none, []⟩
  validate _ := pure ⟨0, []⟩

/-- A call that begins afresh with such tools, and stops when the oracle fails. -/
def failing (size : Nat) (fault : Fault) : Call Unit :=
  ⟨pure (failingBelow size fault), { crashSettings false with stopOnError := true }⟩

/-- Some directories, and some files with their texts. -/
def holding (directories : List Place) (texts : List (Place × String)) : World Unit :=
  ⟨⟨directories.map (·, .directory) ++ texts.map fun (place, text) => (place, .file text.toUTF8)⟩, [],
    ⟨"", ["scratch"]⟩, 0, ()⟩

/-- A shader file with an empty function. -/
def emptyNamed (base : String) : World Unit :=
  holding [] [([base ++ ".frag"], "void main() \x7b\n\x7d\n"), ([base ++ ".json"], "\x7b\x7d")]

/-- Whether a call fails, and its fault and what it leaves are as a test says. -/
def breaksWith (call : Call σ) (shader work : Path) (world : World σ) (test : Fault → World σ → Bool) : Bool :=
  match call.run shader work world with
  | .ok _ _ => false
  | .error fault left => test fault left

theorem exists_of_breaksWith {test : Fault → World σ → Bool} (breaks : call.breaksWith shader work world test = true) :
    ∃ fault left, call.run shader work world = .error fault left ∧ test fault left = true := by
  unfold breaksWith at breaks
  split at breaks
  · cases breaks
  · exact ⟨_, _, by assumption, breaks⟩

end Call

end ShaderShrink
