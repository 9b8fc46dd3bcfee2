import ShaderShrink.Proofs.Reduction.Secured
import ShaderShrink.Proofs.Reduction.Sequence

/-!
# How long the marker stands

From the moment in which a driver has placed the marker, the marker stands at every position and after every fault;
it is gone once the driver has ended with a final shader.  A call that does not come to place the marker ends with a
fault, and changes nothing in the working directory but the copies of its input and the description of that fault.
-/

namespace ShaderShrink

open Effect
open Progress (hasMarker markerName placeMarker clearMarker)

variable {σ : Type} {work scratch shader : Path} {base : String} {world left : World σ} {fault : Fault}

namespace Progress

/-- A marker that cannot be placed changes nothing. -/
theorem placeMarker_error (failed : placeMarker work world = .error fault left) : left = world := by
  unfold placeMarker Action.touch at failed
  rw [bind_of_ok (Action.files_apply world)] at failed
  split at failed
  · exact (Action.writeBytes_error failed).1
  · cases failed

/-- A marker that cannot be cleared stays. -/
theorem clearMarker_error (failed : clearMarker work world = .error fault left) : left = world := by
  rw [clearMarker, Action.remove, Action.changeFiles_apply] at failed
  split at failed <;> cases failed
  rfl

/-- A marker that was cleared is gone. -/
theorem hasMarker_clearMarker (cleared : clearMarker work world = .ok () left) : hasMarker left.files work = false :=
  FileTree.has_remove_self (Action.changeFiles_ok cleared).1

/-- Writing the files of a shader leaves the marker. -/
theorem hasMarker_of_fileNames {stem : String} {a b : World σ}
    (agree : World.Agrees (Beside work (Shader.fileNames stem)) a b) : hasMarker b.files work = hasMarker a.files work :=
  hasMarker_of_beside agree fun member => Shader.notMarker_of_mem_fileNames member (List.mem_singleton_self _)

theorem markerName_notMem_faultFileName (base : String) : markerName ∉ [Step.faultFileName base] := by
  have dot : '.' ∈ (Step.faultFileName base).toList := by simp [Step.faultFileName]
  exact fun member => ne_markerName dot (List.mem_singleton.mp member).symm

end Progress

namespace Reducer

variable {reducer : Reducer σ} {first limit : Int} {now state : ReductionState} {marked : World σ} {p q : Position σ}

/-- What holds at every position of a reduction: the marker stands. -/
structure Marked (reducer : Reducer σ) (scratch : Path) (p : Position σ) : Prop where
  sameScratch : p.world.scratch = scratch
  stands : hasMarker p.world.files reducer.work = true

theorem Marked.directory (marked : Marked reducer scratch p) : p.world.files.isDirectory reducer.work = true :=
  Progress.isDirectory_of_hasMarker marked.stands

/-- A step leaves the marker, also when it ends with a fault. -/
theorem Marked.step {result : EStateM.Result Fault (ReductionState × World σ) (List String)}
    (marked : Marked reducer scratch p) (careful : Careful reducer base scratch) (steps : Steps reducer base p result) :
    hasMarker (leaves result).2.files reducer.work = true ∧ (leaves result).2.scratch = scratch := by
  obtain ⟨outcome, agree⟩ := Careful.step_agrees (marked.sameScratch.symm ▸ careful) marked.directory steps
  exact ⟨(Progress.hasMarker_of_fileNames agree).trans marked.stands, agree.scratch.trans marked.sameScratch⟩

theorem Marked.next (marked : Marked reducer scratch p) (careful : Careful reducer base scratch)
    (further : reducer.next? base p = some q) : Marked reducer scratch q := by
  obtain ⟨-, outcome, agree⟩ := Careful.next?_agrees (marked.sameScratch.symm ▸ careful) marked.directory further
  exact ⟨agree.scratch.trans marked.sameScratch, (Progress.hasMarker_of_fileNames agree).trans marked.stands⟩

/-- At every position of a reduction the marker stands. -/
theorem marked_of_mem (careful : Careful reducer base world.scratch)
    (member : p ∈ reducer.course base first limit now world) : Marked reducer world.scratch p := by
  refine course_induction (fun marked opened marking checks => ?_)
    (fun _ _ _ further marked => marked.next careful further) member
  obtain ⟨agree, still⟩ := careful.opened_agrees marking checks
  exact ⟨agree.scratch, (Progress.hasMarker_of_own still).trans (Progress.placeMarker_ok marking).2⟩

/-- Writing the final shader leaves the marker. -/
private theorem Marked.writeFinal {last : Position σ} (marked : Marked reducer scratch last) (plain : '/' ∉ base.toList)
    (shader : Shader) :
    let left := after (Artifact.writeFinal reducer.work base shader) last.world
    hasMarker left.files reducer.work = true ∧ left.scratch = scratch := by
  have agree := Artifact.write_agrees .final shader (Step.isName_finalStem plain)
    (FileTree.standing_of_isDirectory marked.directory)
  rw [← Artifact.writeFinal_eq] at agree
  exact ⟨(Progress.hasMarker_of_fileNames agree).trans marked.stands, agree.scratch.trans marked.sameScratch⟩

/-- A reduction that has placed the marker and ends with a fault leaves the marker. -/
theorem hasMarker_of_failed (careful : Careful reducer base world.scratch) (running : now.status = .running)
    (positive : 1 ≤ first) (marking : placeMarker reducer.work world = .ok () marked)
    (failed : reducer.reduce base first limit (now, world) = .error fault (state, left)) :
    hasMarker left.files reducer.work = true ∧ left.scratch = world.scratch := by
  have reduces := reduce_cases reducer base first limit world running
  have stands := fun last (isLast : (reducer.course base first limit now world).getLast? = some last) =>
    marked_of_mem careful (List.mem_of_getLast? isLast)
  rw [failed] at reduces
  cases reduces with
  | refused _ low => omega
  | unmarked _ refused => cases refused.symm.trans marking
  | unchecked _ marking checks =>
    obtain ⟨agree, still⟩ := careful.opened_agrees marking checks
    exact ⟨(Progress.hasMarker_of_own still).trans (Progress.placeMarker_ok marking).2, agree.scratch⟩
  | crashed isLast steps => exact (stands _ isLast).step careful steps
  | unwritten isLast failed => exact after_error failed ▸ (stands _ isLast).writeFinal careful.plain _
  | uncleared _ isLast writing failed =>
    rw [Progress.clearMarker_error failed]
    exact after_ok writing ▸ (stands _ isLast).writeFinal careful.plain _

/-- A reduction that cannot place the marker ends at once. -/
theorem reduce_of_unmarked (positive : 1 ≤ first) (refused : placeMarker reducer.work world = .error fault left) :
    reducer.reduce base first limit (now, world) = .error fault (now, world) := by
  obtain rfl := Progress.placeMarker_error refused
  have low : ¬ first < 1 := Int.not_lt.mpr positive
  unfold reduce
  simp only [low, ↓reduceIte]
  exact bind_act_of_error refused now _

/-- A reduction that ends with a final shader has written it, and cleared the marker. -/
theorem reduce_concludes {result : ReductionResult} (careful : Careful reducer base world.scratch)
    (running : now.status = .running)
    (success : reducer.reduce base first limit (now, world) = .ok result (state, left)) :
    (∃ marked, placeMarker reducer.work world = .ok () marked) ∧
      hasMarker left.files reducer.work = false ∧ left.scratch = world.scratch ∧
      result.artifact.path = reducer.work.entry (Step.finalStem base ++ Shader.fileSuffix) ∧
      result.artifact.Holds left.files result.shader := by
  have reduces := reduce_cases reducer base first limit world running
  rw [success] at reduces
  cases reduces with
  | @finished last artifact written cleared status message isLast writing clearing _ _ =>
    have marked := marked_of_mem careful (List.mem_of_getLast? isLast)
    have isName : Path.IsName (Step.finalStem base) := Step.isName_finalStem careful.plain
    rw [Artifact.writeFinal_eq] at writing
    have agree := after_ok writing ▸ Artifact.write_agrees .final last.state.shader isName
      (FileTree.standing_of_isDirectory marked.directory)
    have directory := (agree.isDirectory fun _ => .inl).trans marked.directory
    obtain ⟨placed, -, -, holds⟩ := Artifact.write_ok isName marked.directory writing
    have kept := after_ok clearing ▸ Progress.clearMarker_agrees (FileTree.standing_of_isDirectory directory)
    have holds := holds.of_beside placed isName.ne_empty kept fun _ => Shader.notMarker_of_mem_fileNames
    have gone := Progress.hasMarker_clearMarker clearing
    refine ⟨?_, gone, (kept.scratch.trans agree.scratch).trans marked.sameScratch, placed, holds⟩
    cases marking : placeMarker reducer.work world with
    | ok _ marked => exact ⟨marked, rfl⟩
    | error fault left =>
      have none : reducer.course base first limit now world = [] := by simp only [course, marking]
      rw [none] at isLast
      cases isLast

end Reducer

namespace Call

variable {call : Call σ} {driver : Driver σ} {entered marked : World σ}

/-- The world in which a call has just placed the marker, if it comes so far. -/
def marked? (call : Call σ) (shader work : Path) (world : World σ) : Option (World σ) :=
  match call.driver? shader work world with
  | none => none
  | some (driver, entered) =>
    match placeMarker driver.reducer.work entered with
    | .ok () marked => some marked
    | .error _ _ => none

theorem marked?_eq_some : call.marked? shader work world = some marked ↔
    ∃ driver entered, call.driver? shader work world = some (driver, entered) ∧
      placeMarker driver.reducer.work entered = .ok () marked := by
  unfold marked?
  constructor
  · intro found
    split at found
    · cases found
    · rename_i driver entered isDriver
      refine ⟨driver, entered, isDriver, ?_⟩
      split at found <;> cases found
      assumption
  · rintro ⟨driver, entered, isDriver, marking⟩
    simp only [isDriver, marking]

/-- The driver of a call that does not place the marker ends at once. -/
theorem reduce_of_marked?_none (positive : (1 : Int) ≤ driver.first)
    (found : call.driver? shader work world = some (driver, entered)) (unmarked : call.marked? shader work world = none) :
    ∃ fault, driver.reduce entered = .error fault (driver.state, entered) := by
  simp only [marked?, found] at unmarked
  split at unmarked
  · cases unmarked
  · exact ⟨_, Reducer.reduce_of_unmarked positive (by assumption)⟩

/-- What the driver of a call is known to be: careful, running, at work in the working directory, and past the number
zero. -/
structure Drives (driver : Driver σ) (work : Path) (base : String) (scratch : Path) : Prop where
  work : driver.reducer.work = work
  base : driver.base = base
  careful : Reducer.Careful driver.reducer driver.base scratch
  running : driver.state.status = .running
  positive : (1 : Int) ≤ driver.first

theorem Entrance.drives {placed : Path} {taken : World σ} (entrance : Entrance call work base placed taken driver entered) :
    Drives driver work base entered.scratch := by
  obtain ⟨verdict, made⟩ := entrance.made
  have sameBase : driver.base = base := made.base.trans entrance.isShader.stem
  refine ⟨by rw [made.reducer], sameBase, sameBase.symm ▸ entrance.careful, made.running, ?_⟩
  have first : 1 ≤ driver.first := by
    rw [made.first]
    unfold Progress.start
    split
    · dsimp only
      split <;> exact Nat.le_add_left 1 _
    · exact Nat.le_refl 1
  exact Int.ofNat_le.mpr first

/-- A fault that is reported goes on, perhaps as that of its description. -/
theorem report_error (work : Path) (base : String) (fault : Fault) (world : World σ) :
    ∃ fault' left, (Reduction.report work base fault : Action σ ReductionResult) world = .error fault' left := by
  cases reported : (Reduction.report work base fault : Action σ ReductionResult) world with
  | ok value left => exact absurd reported (Reduction.report_ne_ok work base fault value left)
  | error fault' left => exact ⟨fault', left, rfl⟩

theorem report_agrees_of_isShader (isShader : shader.IsShader base) (directory : world.files.isDirectory work = true)
    (fault : Fault) : World.Agrees (Progress.Beside work [Step.faultFileName base]) world
      (after (Reduction.report work base fault : Action σ ReductionResult) world) := by
  have agree := Reduction.report_agrees (α := ReductionResult) isShader directory fault
  rwa [isShader.stem] at agree

section Runs

variable (isShader : shader.IsShader base) (apart : Apart work base world.scratch)
  (spare : Reduction.ToolsSpare call.tools work world.scratch)
include isShader apart spare

/-- What a call does between taking its input in and placing the marker. -/
theorem run_of_marked? (placed : call.marked? shader work world = some marked) :
    ∃ driver entered, call.driver? shader work world = some (driver, entered) ∧
      Drives driver work base entered.scratch ∧ placeMarker work entered = .ok () marked ∧
      entered.files.isDirectory work = true ∧ entered.scratch = world.scratch := by
  obtain ⟨driver, entered, found, marking⟩ := marked?_eq_some.mp placed
  obtain ⟨_, _, _, intake, entrance⟩ := driver?_some isShader apart spare found
  have drives := entrance.drives
  exact ⟨driver, entered, found, drives, drives.work ▸ marking, entrance.directory,
    entrance.agree.scratch.trans (Reduction.scratch_of_intake isShader intake)⟩

/-- While a call that has placed the marker goes on, the marker stands. -/
theorem hasMarker_of_mem_passes {moment : World σ} (member : moment ∈ call.passes shader work world) :
    hasMarker moment.files work = true := by
  unfold passes at member
  split at member
  · rename_i driver entered found
    obtain ⟨_, _, _, -, entrance⟩ := driver?_some isShader apart spare found
    obtain ⟨p, inside, rfl⟩ := List.mem_map.mp member
    exact entrance.drives.work ▸ (Reducer.marked_of_mem entrance.drives.careful inside).stands
  · cases member

/-- A call that has placed the marker leaves it, unless it ends with a final shader. -/
theorem hasMarker_run (placed : call.marked? shader work world = some marked) :
    hasMarker (after (call.run shader work) world).files work = !succeeds (call.run shader work world) ∧
      (after (call.run shader work) world).scratch = world.scratch := by
  obtain ⟨driver, entered, found, drives, marking, directory, sameScratch⟩ := run_of_marked? isShader apart spare placed
  have runs := run_cases call isShader work world
  unfold after
  generalize call.run shader work world = result at runs ⊢
  cases runs with
  | refused failed => simp only [driver?, failed] at found; cases found
  | unready intake failed => simp only [driver?, intake, failed] at found; cases found
  | @failed driver' entered' left fault state found' reduced =>
    cases found.symm.trans found'
    obtain ⟨stands, kept⟩ := Reducer.hasMarker_of_failed drives.careful drives.running drives.positive
      (drives.work.symm ▸ marking) reduced
    rw [drives.work] at stands
    have agree := report_agrees_of_isShader isShader (Progress.isDirectory_of_hasMarker stands) fault
    obtain ⟨fault', left', reported⟩ := report_error work base fault left
    rw [after_error reported] at agree
    rw [reported]
    exact ⟨(Progress.hasMarker_of_beside agree (Progress.markerName_notMem_faultFileName base)).trans stands,
      (agree.scratch.trans kept).trans sameScratch⟩
  | finished found' reduced =>
    cases found.symm.trans found'
    obtain ⟨-, gone, kept, -⟩ := Reducer.reduce_concludes drives.careful drives.running reduced
    exact ⟨drives.work ▸ gone, kept.trans sameScratch⟩

/-- A call that takes its input in and does not come to place the marker ends with a fault; since then it has changed no
own file but the description of that fault. -/
theorem run_unmarked {input : Path × Option Path} {taken : World σ}
    (intake : Reduction.intake shader work call.settings world = .ok input taken)
    (unmarked : call.marked? shader work world = none) :
    ∃ fault left, call.run shader work world = .error fault left ∧
      World.Agrees (Progress.Beside work [Step.faultFileName base]) taken left := by
  have directory := (Reduction.intake_ok isShader intake).1
  have sameScratch := Reduction.scratch_of_intake isShader intake
  have reporting : ∀ fault {failed : World σ}, World.Agrees (Progress.Own work) taken failed →
      ∃ fault' left, (Reduction.report work base fault : Action σ ReductionResult) failed = .error fault' left ∧
        World.Agrees (Progress.Beside work [Step.faultFileName base]) taken left := by
    intro fault failed agree
    have directory := (agree.isDirectory fun _ => Progress.own_visited).trans directory
    obtain ⟨fault', left, reported⟩ := report_error work base fault failed
    exact ⟨fault', left, reported, (Progress.Own.beside agree).trans
      (after_error reported ▸ report_agrees_of_isShader isShader directory fault)⟩
  have runs := run_cases call isShader work world
  generalize call.run shader work world = result at runs ⊢
  cases runs with
  | refused failed => cases intake.symm.trans failed
  | unready intake' failed =>
    cases intake.symm.trans intake'
    have agree := after_error failed ▸ (sameScratch.symm ▸ spare).setUp call.settings _ _ directory
    exact reporting _ agree
  | failed found reduced =>
    obtain ⟨_, _, _, intake', entrance⟩ := driver?_some isShader apart spare found
    cases intake.symm.trans intake'
    obtain ⟨fault, ended⟩ := reduce_of_marked?_none entrance.drives.positive found unmarked
    cases ended.symm.trans reduced
    exact reporting _ entrance.agree
  | finished found reduced =>
    obtain ⟨_, _, _, -, entrance⟩ := driver?_some isShader apart spare found
    obtain ⟨fault, ended⟩ := reduce_of_marked?_none entrance.drives.positive found unmarked
    cases ended.symm.trans reduced

end Runs

end Call

end ShaderShrink
