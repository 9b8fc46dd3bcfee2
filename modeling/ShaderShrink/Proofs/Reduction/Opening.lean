import ShaderShrink.Proofs.Judge.Sparing
import ShaderShrink.Proofs.Reduction.Intake
import ShaderShrink.Proofs.Reduction.Keeping
import ShaderShrink.Reduction.Run

/-!
# From a call to its driver

A call of a reduction checks its usage, takes its input in, makes the tools and the judge ready, and loads the
shader to start from.  What it has come to by then is a driver, which does the rest.  `Runs` has one case for
each of the ways in which a call can end.
-/

namespace ShaderShrink

open Effect

variable {σ α : Type}

/-- A reduction that is ready to begin. -/
structure Driver (σ : Type) where
  reducer : Reducer σ
  base : String
  first : Nat
  limit : Nat
  state : ReductionState

namespace Driver

/-- What the reduction does. -/
def reduce (driver : Driver σ) (world : World σ) :
    EStateM.Result Fault (ReductionState × World σ) ReductionResult :=
  driver.reducer.reduce driver.base driver.first driver.limit (driver.state, world)

/-- The same, without the state that is left. -/
def run (driver : Driver σ) : Action σ ReductionResult := fun world =>
  match driver.reduce world with
  | .ok result (_, world) => .ok result world
  | .error fault (_, world) => .error fault world

/-- The positions that the reduction comes to. -/
def course (driver : Driver σ) (world : World σ) : List (Position σ) :=
  driver.reducer.course driver.base driver.first driver.limit driver.state world

end Driver

namespace Reduction

/-! ## The parts of a run -/

/-- Makes the driver for a shader that is in the working directory. -/
def ready (verdict : Verdict σ) (shader work : Path) (settings : Settings) : Action σ (Driver σ) := do
  let version ← Action.ofExcept (Version.ofText (← Action.readText shader))
  Action.log .debug ("shading language version " ++ version.text)
  let start := Progress.start (← Action.files) shader work settings.continuing
  let program ← Shader.load start.shader
  if start.resumed then
    Action.log .info ("continuing previous reduction from " ++ start.shader.name ++ " at step " ++
      toString start.nextStep)
  Action.makeDirectories work
  return {
    reducer := ⟨verdict, work, settings.keepRejected, settings.stopOnError⟩
    base := shader.stem
    first := start.nextStep
    limit := settings.maxSteps
    state := ⟨Context.create settings.seed ⟨settings.reduceEverywhere, version⟩, program, !start.resumed,
      .running, []⟩
  }

theorem reduceFile_eq (verdict : Verdict σ) (shader work : Path) (settings : Settings) :
    reduceFile verdict shader work settings = ready verdict shader work settings >>= Driver.run := by
  simp only [ready, bind_assoc]
  unfold reduceFile
  refine bind_congr fun text => bind_congr fun version => bind_congr fun _ => bind_congr fun tree =>
    bind_congr fun program => ?_
  generalize Progress.start tree shader work settings.continuing = start
  cases resumed : start.resumed <;>
    simp only [Bool.false_eq_true, ↓reduceIte, bind_assoc, pure_bind] <;> rfl

/-- Checks the usage and puts the input into the working directory. -/
def intake (shader work : Path) (settings : Settings) : Action σ (Path × Option Path) := do
  settings.checkUsage shader work
  Preparation.prepare shader work settings.referenceImage

/-- Makes the tools and the judge ready. -/
def makeVerdict (tools : Action σ (Dispatcher σ)) (work : Path) (settings : Settings)
    (reference : Option Path) : Action σ (Verdict σ) := do
  let dispatcher ← tools
  let judge ← Judge.ofSettings settings work reference
  return judge.isInteresting dispatcher

/-- Makes the driver, once the input is taken in. -/
def setUp (tools : Action σ (Dispatcher σ)) (work : Path) (settings : Settings) (placed : Path)
    (reference : Option Path) : Action σ (Driver σ) := do
  ready (← makeVerdict tools work settings reference) placed work settings

/-- Describes a fault if it has to be, and goes on with it. -/
def report (work : Path) (base : String) (fault : Fault) : Action σ α := do
  if isDescribed fault then describeFault work base fault
  throw fault

theorem run_eq (tools : Action σ (Dispatcher σ)) (shader work : Path) (settings : Settings) :
    run tools shader settings work =
      intake shader work settings >>= fun (placed, reference) =>
        tryCatch (setUp tools work settings placed reference >>= Driver.run) (report work placed.stem) := by
  simp only [intake, setUp, makeVerdict, bind_assoc, pure_bind, ← reduceFile_eq]
  rfl

variable {tools : Action σ (Dispatcher σ)} {shader work scratch placed : Path} {settings : Settings}
  {reference : Option Path} {base : String} {world left : World σ}

/-! ## What the parts leave alone -/

/-- Whether making tools ready and using them leaves all on which progress rests alone. -/
structure ToolsSpare (tools : Action σ (Dispatcher σ)) (work scratch : Path) : Prop where
  making : tools.Spares work scratch
  using_ : ∀ world dispatcher left, tools world = .ok dispatcher left → dispatcher.Spares work scratch

theorem makeVerdict_spares (making : tools.Spares work scratch) (settings : Settings) (reference : Option Path) :
    (makeVerdict tools work settings reference).Spares work scratch :=
  .bind making fun _ => .bind (Judge.ofSettings_spares settings reference) fun _ => .of_after fun _ => rfl

theorem ToolsSpare.makeVerdict (spare : ToolsSpare tools work scratch) (settings : Settings)
    (reference : Option Path) : (makeVerdict tools work settings reference).Spares work scratch :=
  makeVerdict_spares spare.making settings reference

theorem ToolsSpare.verdict (spare : ToolsSpare tools work scratch) {verdict : Verdict σ}
    (success : Reduction.makeVerdict tools work settings reference world = .ok verdict left) :
    Verdict.Spares verdict work scratch := by
  obtain ⟨dispatcher, made, run, success⟩ := bind_ok success
  obtain ⟨judge, chosen, run', success⟩ := bind_ok success
  cases success
  exact Judge.isInteresting_spares (Judge.ofSettings_keeps run') (spare.using_ _ _ _ run)

/-- Taking the input in changes nothing but its copies, once the directory stands. -/
theorem intake_agrees {places : Place → Prop} (isShader : shader.IsShader base)
    (clearWork : world.files.Clear places work)
    (clear : ∀ name ∈ Preparation.inputNames base, world.files.Clear places (work.entry name)) :
    World.Agrees places world (after (intake shader work settings) world) := by
  refine .bind (settings.checkUsage_agrees places shader work world) fun _ checked _ agree => ?_
  exact Preparation.prepare_agrees isShader settings.referenceImage (clearWork.of_agreeOn agree.files)
    fun name member => (clear name member).of_agreeOn agree.files

theorem scratch_of_intake {input : Path × Option Path} (isShader : shader.IsShader base)
    (success : intake shader work settings world = .ok input left) : left.scratch = world.scratch := by
  have agree : World.Agrees (fun _ => False) world (after (intake shader work settings) world) :=
    intake_agrees isShader (fun _ never => nomatch never) fun _ _ _ never => nomatch never
  rw [after_ok success] at agree
  exact agree.scratch

/-- Once the input is taken in, the working directory stands. -/
theorem intake_ok (isShader : shader.IsShader base)
    (success : intake shader work settings world = .ok (placed, reference) left) :
    left.files.isDirectory work = true ∧ placed.IsShader base := by
  obtain ⟨_, checked, -, success⟩ := bind_ok success
  exact Preparation.prepare_ok isShader success

/-- A call that takes its input in has found a marker or no step. -/
theorem checked_of_intake {input : Path × Option Path}
    (success : intake shader work settings world = .ok input left) :
    if settings.continuing then Progress.hasMarker world.files work = true
    else Progress.latest? world.files work shader.stem = none := by
  obtain ⟨_, checked, run, -⟩ := bind_ok success
  exact (Settings.checkUsage_ok run).2

/-- Making the driver changes no file once the working directory stands. -/
theorem ready_agrees (places : Place → Prop) (verdict : Verdict σ)
    (directory : world.files.isDirectory work = true) :
    World.Agrees places world (after (ready verdict placed work settings) world) := by
  refine .bind_still (Action.after_readText placed world) fun text _ => ?_
  refine .bind_still (Action.after_ofExcept _ world) fun version _ => ?_
  refine .bind ⟨rfl, .refl places world.files⟩ fun _ noted run _ => ?_
  cases run
  refine .bind_still rfl fun tree _ => ?_
  refine .bind_still (Shader.after_load _ _) fun program _ => ?_
  dsimp only
  have made : ∀ (driver : Driver σ) (noted : World σ), noted.files = world.files →
      World.Agrees places noted (after (do Action.makeDirectories work; return driver) noted) := by
    intro driver noted same
    rw [after, bind_of_ok (Action.makeDirectories_of_isDirectory (same ▸ directory))]
    exact .refl places noted
  split_ifs
  · refine .bind ⟨rfl, .refl places world.files⟩ fun _ noted run _ => ?_
    cases run
    exact made _ _ rfl
  · exact made _ _ rfl

/-- Up to the driver, none of the reduction's own files changes. -/
theorem setUp_agrees (making : tools.Spares work world.scratch) (settings : Settings) (placed : Path)
    (reference : Option Path) (directory : world.files.isDirectory work = true) :
    World.Agrees (Progress.Own work) world
      (after (Reduction.setUp tools work settings placed reference) world) := by
  have standing := FileTree.standing_of_isDirectory directory
  refine .bind (makeVerdict_spares making settings reference world rfl standing) fun verdict armed _ agree => ?_
  exact ready_agrees _ verdict ((agree.isDirectory fun _ => Progress.own_visited).trans directory)

theorem ToolsSpare.setUp (spare : ToolsSpare tools work world.scratch) (settings : Settings) (placed : Path)
    (reference : Option Path) (directory : world.files.isDirectory work = true) :
    World.Agrees (Progress.Own work) world
      (after (Reduction.setUp tools work settings placed reference) world) :=
  setUp_agrees spare.making settings placed reference directory

/-- What the driver of a reduction is made of. -/
structure Made (verdict : Verdict σ) (placed work : Path) (settings : Settings) (tree : FileTree)
    (driver : Driver σ) : Prop where
  reducer : driver.reducer = ⟨verdict, work, settings.keepRejected, settings.stopOnError⟩
  base : driver.base = placed.stem
  first : driver.first = (Progress.start tree placed work settings.continuing).nextStep
  isInitial : driver.state.isInitial = !settings.continuing
  running : driver.state.status = .running
  noSteps : driver.state.steps = []
  legible : Shader.Legible tree (Progress.start tree placed work settings.continuing).shader
    driver.state.shader.text driver.state.shader.metadata
  version : Version.ofText driver.state.shader.text = .ok driver.state.shader.version

theorem start_resumed (tree : FileTree) (continuing : Bool) :
    (Progress.start tree shader work continuing).resumed = continuing := by
  cases continuing with
  | false => rfl
  | true =>
    simp only [Progress.start, ↓reduceIte]
    cases Progress.latestSuccess? tree work shader.stem <;> rfl

theorem ready_ok {verdict : Verdict σ} {driver : Driver σ} (directory : world.files.isDirectory work = true)
    (success : ready verdict placed work settings world = .ok driver left) :
    Made verdict placed work settings world.files driver ∧ left.files = world.files := by
  obtain ⟨text, -, success⟩ := bind_ok_still (Action.after_readText placed world) success
  obtain ⟨version, -, success⟩ := Action.bind_ofExcept_ok success
  obtain ⟨_, noted, run, success⟩ := bind_ok success
  cases run
  obtain ⟨tree, run, success⟩ := bind_ok_still rfl success
  cases run
  obtain ⟨program, loaded, success⟩ := bind_ok_still (Shader.after_load _ _) success
  obtain ⟨-, legible, declared⟩ := Shader.load_ok loaded
  have resumed := congrArg (!·) (@start_resumed placed work world.files settings.continuing)
  dsimp only at success
  have made : ∀ (driver' : Driver σ) (noted' : World σ), noted'.files = world.files →
      (do Action.makeDirectories work; return driver') noted' = .ok driver left →
      driver' = driver ∧ left.files = world.files := by
    intro driver' noted' same success
    rw [bind_of_ok (Action.makeDirectories_of_isDirectory (same ▸ directory))] at success
    cases success
    exact ⟨rfl, same⟩
  split_ifs at success
  · obtain ⟨_, noted', run, success⟩ := bind_ok success
    cases run
    obtain ⟨rfl, same⟩ := made _ _ (by rfl) success
    exact ⟨⟨rfl, rfl, rfl, resumed, rfl, rfl, legible, declared⟩, same⟩
  · obtain ⟨rfl, same⟩ := made _ _ (by rfl) success
    exact ⟨⟨rfl, rfl, rfl, resumed, rfl, rfl, legible, declared⟩, same⟩

/-- A driver needs a placed shader that can be read, with a version that can be read. -/
theorem ready_text {verdict : Verdict σ} {driver : Driver σ}
    (success : ready verdict placed work settings world = .ok driver left) :
    ∃ content text version, world.files.read placed = .ok content ∧ Text.read? content = some text ∧
      Version.ofText text = .ok version := by
  obtain ⟨text, shown, success⟩ := bind_ok_still (Action.after_readText placed world) success
  obtain ⟨version, declared, -⟩ := Action.bind_ofExcept_ok success
  obtain ⟨content, found, shown⟩ := bind_ok_still (Action.after_readBytes placed world) shown
  cases readable : Text.read? content with
  | none => rw [readable] at shown; cases shown
  | some characters =>
    rw [readable] at shown
    cases shown
    exact ⟨content, text, version, (Action.readBytes_ok found).1, readable, declared⟩

private theorem describeFault_agrees (isShader : placed.IsShader base)
    (directory : world.files.isDirectory work = true) (fault : Fault) :
    World.Agrees (Progress.Beside work [Step.faultFileName base]) world
      (after (describeFault work base fault) world) := by
  have isName := Step.isName_faultFileName isShader.plain
  unfold describeFault
  rw [after, bind_of_ok (Action.makeDirectories_of_isDirectory directory)]
  refine .bind (.bind ?_ fun _ written _ _ => ?_) fun dump noted _ _ => ⟨rfl, .refl _ noted.files⟩
  · rw [Path.child_of_isName work isName]
    exact Action.writeBytes_agrees (Progress.clear_beside (FileTree.standing_of_isDirectory directory) isName.2
      (List.mem_singleton_self _)) _
  · rw [Artifact.after_ofFile]
    exact .refl _ written

/-- Describing a fault changes nothing else in the working directory. -/
theorem report_agrees (isShader : placed.IsShader base) (directory : world.files.isDirectory work = true)
    (fault : Fault) :
    World.Agrees (Progress.Beside work [Step.faultFileName base]) world
      (after (report work placed.stem fault : Action σ α) world) := by
  rw [isShader.stem]
  unfold report
  split_ifs
  · exact .bind (describeFault_agrees isShader directory fault) fun _ described _ _ => .refl _ described
  · exact .refl _ world

/-- A fault that was reported is not forgotten. -/
theorem report_ne_ok (work : Path) (base : String) (fault : Fault) (value : α) (left : World σ) :
    (report work base fault : Action σ α) world ≠ .ok value left := by
  intro success
  unfold report at success
  split_ifs at success
  · obtain ⟨_, described, -, success⟩ := bind_ok success
    cases success
  · cases success

end Reduction

/-! ## Calls -/

/-- A call of a reduction, apart from its shader and its working directory. -/
structure Call (σ : Type) where
  tools : Action σ (Dispatcher σ)
  settings : Settings

namespace Call

variable {call : Call σ} {shader work scratch : Path} {base : String} {world : World σ}

/-- The reduction that a call asks for. -/
def run (call : Call σ) (shader work : Path) : Action σ ReductionResult :=
  Reduction.run call.tools shader call.settings work

/-- The driver of a call and the world in which it begins, if the call comes so far. -/
def driver? (call : Call σ) (shader work : Path) (world : World σ) : Option (Driver σ × World σ) :=
  match Reduction.intake shader work call.settings world with
  | .error _ _ => none
  | .ok (placed, reference) taken =>
    match Reduction.setUp call.tools work call.settings placed reference taken with
    | .error _ _ => none
    | .ok driver entered => some (driver, entered)

/-- The steps in front of a driver. -/
inductive Enters (call : Call σ) (shader work : Path) (world : World σ) (driver : Driver σ) (entered : World σ) :
    Prop
  | intro {placed : Path} {reference : Option Path} {verdict : Verdict σ} {taken armed : World σ} :
      Reduction.intake shader work call.settings world = .ok (placed, reference) taken →
      Reduction.makeVerdict call.tools work call.settings reference taken = .ok verdict armed →
      Reduction.ready verdict placed work call.settings armed = .ok driver entered →
      Enters call shader work world driver entered

theorem enters_of_driver? {driver : Driver σ} {entered : World σ}
    (found : call.driver? shader work world = some (driver, entered)) :
    Enters call shader work world driver entered := by
  unfold driver? at found
  split at found
  · cases found
  · rename_i placed reference taken intake
    split at found
    · cases found
    · rename_i driver' entered' setUp
      cases found
      obtain ⟨verdict, armed, making, ready⟩ := bind_ok setUp
      exact .intro intake making ready

/-- What is known of a driver when it begins. -/
structure Entrance (call : Call σ) (work : Path) (base : String) (placed : Path) (taken : World σ)
    (driver : Driver σ) (entered : World σ) : Prop where
  isShader : placed.IsShader base
  directory : entered.files.isDirectory work = true
  agree : World.Agrees (Progress.Own work) taken entered
  made : ∃ verdict, Reduction.Made verdict placed work call.settings entered.files driver
  input : ∃ content text version, entered.files.read placed = .ok content ∧ Text.read? content = some text ∧
    Version.ofText text = .ok version
  careful : Reducer.Careful driver.reducer base entered.scratch

/-- A call that comes to its driver has taken its input in, and changed none of the reduction's own files since
then. -/
theorem driver?_some {driver : Driver σ} {entered : World σ} (isShader : shader.IsShader base)
    (apart : Apart work base world.scratch) (spare : Reduction.ToolsSpare call.tools work world.scratch)
    (found : call.driver? shader work world = some (driver, entered)) :
    ∃ placed reference taken, Reduction.intake shader work call.settings world = .ok (placed, reference) taken ∧
      Entrance call work base placed taken driver entered := by
  obtain ⟨intake, making, ready⟩ := enters_of_driver? found
  rename_i placed reference verdict taken armed
  refine ⟨placed, reference, taken, intake, ?_⟩
  obtain ⟨directory, isPlaced⟩ := Reduction.intake_ok isShader intake
  have sameScratch := Reduction.scratch_of_intake isShader intake
  have agree := after_ok making ▸ spare.makeVerdict call.settings reference taken sameScratch
    (FileTree.standing_of_isDirectory directory)
  have directory := (agree.isDirectory fun _ => Progress.own_visited).trans directory
  have agree' := after_ok ready ▸ Reduction.ready_agrees (Progress.Own work) verdict directory
  obtain ⟨made, same⟩ := Reduction.ready_ok directory ready
  have scratch := (agree'.scratch.trans agree.scratch).trans sameScratch
  have input := Reduction.ready_text ready
  refine ⟨isPlaced, same ▸ directory, agree.trans agree', ⟨verdict, same ▸ made⟩, same ▸ input, isShader.plain, ?_, ?_⟩
  · rw [made.reducer, scratch]
    exact apart
  · rw [made.reducer, scratch]
    exact spare.verdict making

/-- All ways in which a call can end. -/
inductive Runs (call : Call σ) (shader work : Path) (base : String) (world : World σ) :
    EStateM.Result Fault (World σ) ReductionResult → Prop
  /-- The usage is refused, or the input cannot be put into place. -/
  | refused {fault : Fault} {left : World σ} :
      Reduction.intake shader work call.settings world = .error fault left →
      Runs call shader work base world (.error fault left)
  /-- There is no driver. -/
  | unready {placed : Path} {reference : Option Path} {fault : Fault} {taken left : World σ} :
      Reduction.intake shader work call.settings world = .ok (placed, reference) taken →
      Reduction.setUp call.tools work call.settings placed reference taken = .error fault left →
      Runs call shader work base world (Reduction.report work base fault left)
  /-- The driver fails. -/
  | failed {driver : Driver σ} {entered left : World σ} {fault : Fault} {state : ReductionState} :
      call.driver? shader work world = some (driver, entered) →
      driver.reduce entered = .error fault (state, left) →
      Runs call shader work base world (Reduction.report work base fault left)
  /-- The driver ends with a final shader. -/
  | finished {driver : Driver σ} {entered left : World σ} {result : ReductionResult} {state : ReductionState} :
      call.driver? shader work world = some (driver, entered) →
      driver.reduce entered = .ok result (state, left) →
      Runs call shader work base world (.ok result left)

/-- A call ends in one of the ways in which it can end. -/
theorem run_cases (call : Call σ) (isShader : shader.IsShader base) (work : Path) (world : World σ) :
    Runs call shader work base world (call.run shader work world) := by
  unfold run
  rw [Reduction.run_eq]
  cases intake : Reduction.intake shader work call.settings world with
  | error fault left =>
    rw [bind_of_error intake]
    exact .refused intake
  | ok input taken =>
    obtain ⟨placed, reference⟩ := input
    rw [bind_of_ok intake]
    dsimp only
    rw [(Reduction.intake_ok isShader intake).2.stem]
    cases setUp : Reduction.setUp call.tools work call.settings placed reference taken with
    | error fault left =>
      rw [try_of_error (bind_of_error setUp _)]
      exact .unready intake setUp
    | ok driver entered =>
      have found : call.driver? shader work world = some (driver, entered) := by
        simp only [driver?, intake, setUp]
      cases reduced : driver.reduce entered with
      | error fault after =>
        obtain ⟨state, left⟩ := after
        have failed : (Reduction.setUp call.tools work call.settings placed reference >>= Driver.run) taken =
            .error fault left := by
          rw [bind_of_ok setUp, Driver.run, reduced]
        rw [try_of_error failed]
        exact .failed found reduced
      | ok result after =>
        obtain ⟨state, left⟩ := after
        have success : (Reduction.setUp call.tools work call.settings placed reference >>= Driver.run) taken =
            .ok result left := by
          rw [bind_of_ok setUp, Driver.run, reduced]
        rw [try_of_ok success]
        exact .finished found reduced

end Call

end ShaderShrink
