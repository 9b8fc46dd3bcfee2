import ShaderShrink.Proofs.Reduction.Blame
import ShaderShrink.Proofs.Reduction.Ending

/-!
# Faults of the usage

A fault of the usage is found before any work is done: the tools have not been used, and all in which the state of a
reduction rests is as it was.  In particular nothing goes on with a reduction that has ended.
-/

namespace ShaderShrink

open Effect
open Progress (Beside hasMarker markerName)

variable {σ : Type} {work shader : Path} {base : String} {world left : World σ} {fault : Fault}

/-! ## Where a reduction may not go on -/

namespace Settings

variable {settings : Settings}

/-- The paths that the settings and the shader file name: those of the input files. -/
inductive Names (settings : Settings) (shader : Path) : Path → Prop
  | shader : Names settings shader shader
  | metadata {path : Path} : Shader.metadataPath shader = .ok path → Names settings shader path
  | reference {path : Path} : settings.referenceImage = some path → Names settings shader path

/-- Whether a fault is one of the usage, or that of an input path which is too long. -/
def Refuses (settings : Settings) (shader : Path) (tree : FileTree) (fault : Fault) : Prop :=
  fault.isUsage = true ∨ ∃ path, settings.Names shader path ∧ tree.canLook path = false ∧
    fault = Action.fileFault .nameTooLong path

private theorem usage_checkTogether (settings : Settings) :
    Raises (fun fault => fault.isUsage = true) (settings.checkTogether : Action σ Unit) := by
  intro world fault left failed
  unfold checkTogether at failed
  dsimp only at failed
  split_ifs at failed <;> cases failed <;> rfl

private theorem isFile_error {path : Path} (failed : (Action.isFile path : Action σ Bool) world = .error fault left) :
    world.files.canLook path = false ∧ fault = Action.fileFault .nameTooLong path := by
  rcases bind_error failed with failed | ⟨_, _, _, failed⟩
  · rw [Action.filesFor_apply] at failed
    split_ifs at failed with look
    cases failed
    exact ⟨Bool.not_eq_true _ |>.mp look, rfl⟩
  · cases failed

private theorem checkFiles_error (isShader : shader.IsShader base)
    (failed : settings.checkFiles shader world = .error fault left) : settings.Refuses shader world.files fault := by
  have still : ∀ {path present middle}, (Action.isFile path : Action σ Bool) world = .ok present middle → middle = world :=
    fun run => (after_ok run).symm.trans (Action.after_isFile _ world)
  have missing : ∀ {path} {left : World σ}, settings.Names shader path →
      (Action.isFile path : Action σ Bool) world = .error fault left → settings.Refuses shader world.files fault :=
    fun names failed => .inr ⟨_, names, isFile_error failed⟩
  unfold checkFiles at failed
  rcases bind_error failed with failed | ⟨found, _, run, failed⟩
  · exact missing .shader failed
  obtain rfl := still run
  cases found with
  | false => cases failed; exact .inl rfl
  | true =>
    have named : shader.name ≠ "" := isShader.name ▸ isShader.isName.ne_empty
    obtain ⟨path, beside⟩ : ∃ path, Shader.metadataPath shader = .ok path := ⟨_, Path.withName_of_ne shader named _⟩
    rw [show shader.withSuffix Shader.metadataSuffix = .ok path from beside] at failed
    rcases bind_error failed with failed | ⟨_, _, run, failed⟩
    · cases failed
    cases run
    rcases bind_error failed with failed | ⟨found, _, run, failed⟩
    · exact missing (.metadata beside) failed
    obtain rfl := still run
    cases found with
    | false => cases failed; exact .inl rfl
    | true =>
      cases given : settings.referenceImage with
      | none => simp only [given] at failed; cases failed
      | some image =>
        simp only [given] at failed
        rcases bind_error failed with failed | ⟨found, _, run, failed⟩
        · exact missing (.reference given) failed
        cases found <;> cases failed
        exact .inl rfl

private theorem checkDirectory_error (continuing : settings.continuing = true)
    (looks : world.files.canLook (Progress.marker work) = true) (unmarked : hasMarker world.files work = false)
    (failed : settings.checkDirectory shader work world = .error fault left) : fault.isUsage = true := by
  unfold checkDirectory at failed
  rw [bind_of_ok (show Action.filesFor (Progress.marker work) world = .ok world.files world by
    rw [Action.filesFor_apply, if_pos looks])] at failed
  simp only [continuing, unmarked, Bool.not_false, ↓reduceIte] at failed
  cases failed
  rfl

/-- Where the system takes the marker's path and no marker stands, a reduction that is to go on is refused for its
usage, unless the path of an input file is too long; and no file changes. -/
theorem checkUsage_of_unmarked (isShader : shader.IsShader base) (continuing : settings.continuing = true)
    (looks : world.files.canLook (Progress.marker work) = true) (unmarked : hasMarker world.files work = false) :
    ∃ fault left, settings.checkUsage shader work world = .error fault left ∧ left.files = world.files ∧
      settings.Refuses shader world.files fault := by
  have same := files_of_checkUsage settings shader work world
  cases run : settings.checkUsage shader work world with
  | ok _ left =>
    have marked := (checkUsage_ok run).2
    rw [if_pos continuing, unmarked] at marked
    cases marked
  | error fault left =>
    rw [after_error run] at same
    refine ⟨fault, left, rfl, same, ?_⟩
    rcases bind_error run with failed | ⟨_, together, passed, rest⟩
    · exact .inl (usage_checkTogether settings _ _ _ failed)
    have files : together.files = world.files := by
      rw [← after_ok passed, files_of_checkTogether]
    rcases bind_error rest with failed | ⟨_, checked, passed, failed⟩
    · exact files ▸ checkFiles_error isShader failed
    obtain rfl : checked = together := (after_ok passed).symm.trans (after_checkFiles settings shader together)
    exact .inl (checkDirectory_error continuing (files ▸ looks) (files ▸ unmarked) failed)

end Settings

/-! ## What a fault of the usage leaves alone -/

namespace Progress

/-- The names of the files in which the state of a shader's reduction rests: the marker, the files of its steps, those
of its final shader, and the description of its fault. -/
inductive StateFile (base : String) : String → Prop
  | marker : StateFile base markerName
  | step {name : String} : StepName base name → StateFile base name
  | final {name : String} : name ∈ Shader.fileNames (Step.finalStem base) → StateFile base name
  | fault : StateFile base (Step.faultFileName base)

variable {name : String}

theorem StateFile.isOwn (file : StateFile base name) : IsOwn name := by
  cases file with
  | marker => exact .inr rfl
  | step named => exact named.isOwn
  | final member => exact Shader.isOwn_of_mem_fileNames member
  | fault => exact Reduction.isOwn_faultFileName base

private theorem finalName_notMem_inputNames (member : name ∈ Shader.fileNames (Step.finalStem base)) :
    name ∉ Preparation.inputNames base := by
  intro copied
  rcases List.mem_append.mp copied with shader | reference
  · have same := congrArg String.length (Shader.stem_eq_of_mem_fileNames member shader)
    simp [Step.finalStem] at same
  · rw [List.mem_singleton.mp reference] at member
    rcases Shader.mem_fileNames.mp member with same | same
    all_goals
      have reversed := congrArg (fun s : String => s.toList.reverse) same
      simp [Preparation.referenceName, Shader.fileSuffix, Shader.metadataSuffix] at reversed

/-- No input is copied over the state of its reduction. -/
theorem StateFile.notMem_inputNames (file : StateFile base name) : name ∉ Preparation.inputNames base := by
  cases file with
  | marker => exact Call.markerName_notMem_inputNames base
  | step named => exact named.notMem_input
  | final member => exact finalName_notMem_inputNames member
  | fault =>
    rw [Preparation.inputNames, List.mem_append, not_or]
    refine ⟨Step.faultFileName_notMem_fileNames base base, fun reference => ?_⟩
    have reversed := congrArg (fun s : String => s.toList.reverse) (List.mem_singleton.mp reference)
    simp [Step.faultFileName, Preparation.referenceName] at reversed

end Progress

namespace Reduction

/-- A driver that cannot be made cannot be made with any other judge either. -/
theorem ready_error (verdict verdict' : Verdict σ) {placed : Path} {settings : Settings}
    (failed : ready verdict placed work settings world = .error fault left) :
    ready verdict' placed work settings world = .error fault left := by
  have same : ready verdict' placed work settings =
      ready verdict placed work settings >>= fun driver =>
        pure { driver with reducer := { driver.reducer with verdict := verdict' } } := by
    simp only [ready, bind_assoc]
    refine bind_congr fun text => bind_congr fun version => bind_congr fun _ => bind_congr fun tree =>
      bind_congr fun program => ?_
    split_ifs <;> simp only [bind_assoc, pure_bind]
  rw [same, bind_of_error failed]

/-- Where a driver cannot be made, the tools have not been used: it cannot be made with others either. -/
theorem setUp_error {tools : Action σ (Dispatcher σ)} {placed : Path} {settings : Settings} {reference : Option Path}
    (other : Dispatcher σ) (failed : setUp tools work settings placed reference world = .error fault left) :
    setUp (do let _ ← tools; return other) work settings placed reference world = .error fault left := by
  rcases bind_error failed with failed | ⟨verdict, armed, making, failed⟩
  · refine bind_of_error ?_ _
    rcases bind_error failed with failed | ⟨dispatcher, made, makes, failed⟩
    · exact bind_of_error (bind_of_error failed _) _
    · rcases bind_error failed with failed | ⟨judge, chosen, -, failed⟩
      · unfold makeVerdict
        rw [bind_assoc, bind_of_ok makes, pure_bind]
        exact bind_of_error failed _
      · cases failed
  · obtain ⟨dispatcher, made, makes, rest⟩ := bind_ok making
    obtain ⟨judge, chosen, choosing, rest⟩ := bind_ok rest
    cases rest
    unfold setUp makeVerdict
    simp only [bind_assoc, pure_bind]
    rw [bind_of_ok makes, bind_of_ok choosing]
    exact ready_error _ _ failed

end Reduction

namespace Call

variable {call : Call σ}

/-- The same call with tools that are used in the place of its own. -/
def replacing (call : Call σ) (other : Dispatcher σ) : Call σ :=
  { call with tools := do let _ ← call.tools; return other }

/-- A call without a driver reports why. -/
theorem run_of_unready {placed : Path} {reference : Option Path} {taken : World σ} (isShader : shader.IsShader base)
    (intake : Reduction.intake shader work call.settings world = .ok (placed, reference) taken)
    (failed : Reduction.setUp call.tools work call.settings placed reference taken = .error fault left) :
    call.run shader work world = Reduction.report work base fault left := by
  rw [run, Reduction.run_eq, bind_of_ok intake]
  dsimp only
  rw [(Reduction.intake_ok isShader intake).2.stem, try_of_error (bind_of_error failed _)]

/-- A driver with blameless tools never blames the usage. -/
theorem blameless_driver {driver : Driver σ} {entered : World σ} {state : ReductionState} (isShader : shader.IsShader base)
    (blameless : ∀ world dispatcher left, call.tools world = .ok dispatcher left → dispatcher.Blameless)
    (spares : call.tools.Spares work world.scratch)
    (found : call.driver? shader work world = some (driver, entered))
    (failed : driver.reduce entered = .error fault (state, left)) : fault.Blameless := by
  obtain ⟨intake, making, ready⟩ := enters_of_driver? found
  rename_i placed reference verdict taken armed
  obtain ⟨directory, isPlaced⟩ := Reduction.intake_ok isShader intake
  have agree := after_ok making ▸ Reduction.makeVerdict_spares spares call.settings reference taken
    (Reduction.scratch_of_intake isShader intake) (FileTree.standing_of_isDirectory directory)
  have directory := (agree.isDirectory fun _ => Progress.own_visited).trans directory
  obtain ⟨made, -⟩ := Reduction.ready_ok directory ready
  obtain ⟨dispatcher, _, makes, rest⟩ := bind_ok making
  obtain ⟨judge, _, -, rest⟩ := bind_ok rest
  cases rest
  refine Reducer.blameless_reduce (fun candidate => ?_) made.running failed
  rw [made.reducer]
  exact judge.blameless_isInteresting (blameless _ _ _ makes) candidate

/-- What a call with a fault of the usage has left alone: the tools, so that with any others it ends likewise, and the
state of the reduction, unless the working directory does not stand yet and the path to it passes that. -/
structure LeavesAlone (call : Call σ) (shader work : Path) (base : String) (world : World σ) (fault : Fault)
    (left : World σ) : Prop where
  tools : ∀ other, (call.replacing other).run shader work world = .error fault left
  state : ∀ name, Progress.StateFile base name →
    world.files.isDirectory work = true ∨ work.place ++ [name] ∉ work.visited →
      left.files.lookup? (work.place ++ [name]) = world.files.lookup? (work.place ++ [name])

theorem leavesAlone_of_isUsage (isShader : shader.IsShader base) (spares : call.tools.Spares work world.scratch)
    (blameless : ∀ world dispatcher left, call.tools world = .ok dispatcher left → dispatcher.Blameless)
    (failed : call.run shader work world = .error fault left) (isUsage : fault.isUsage = true) :
    LeavesAlone call shader work base world fault left := by
  have runs := run_cases call isShader work world
  generalize ended : call.run shader work world = result at runs
  rw [failed] at ended
  cases runs with
  | refused refusal =>
    cases ended
    refine ⟨fun other => run_of_refused refusal, fun name file clear => ?_⟩
    exact after_error refusal ▸ lookup?_of_intake call.settings isShader clear file.notMem_inputNames
  | @unready placed reference reason taken broken intake unready =>
    obtain ⟨rfl, rfl⟩ := Reduction.report_of_isUsage ended.symm isUsage
    refine ⟨fun other => ?_, fun name file clear => ?_⟩
    · have unready' := Reduction.setUp_error other unready
      have reported : (call.replacing other).run shader work world = _ := run_of_unready isShader intake unready'
      exact reported.trans ended.symm
    · have agree := after_error unready ▸ Reduction.setUp_agrees
        ((Reduction.scratch_of_intake isShader intake).symm ▸ spares) call.settings placed reference
        (Reduction.intake_ok isShader intake).1
      rw [← agree.files _ (.inr ⟨name, file.isOwn, rfl⟩)]
      exact after_ok intake ▸ lookup?_of_intake call.settings isShader clear file.notMem_inputNames
  | failed found reduced =>
    obtain ⟨rfl, rfl⟩ := Reduction.report_of_isUsage ended.symm isUsage
    cases (blameless_driver isShader blameless spares found reduced).symm.trans isUsage
  | finished => cases ended

end Call

/-! ## Nothing goes on with a reduction that has ended -/

namespace Progress

/-- A working directory in which no reduction is under way, and in which the system takes the path of the marker. -/
structure Idle (work : Path) (world : World σ) : Prop where
  directory : world.files.isDirectory work = true
  short : FileTree.ShortEntry work markerName
  unmarked : hasMarker world.files work = false

variable {names : List String} {next : World σ}

theorem Idle.looks (idle : Idle work world) : world.files.canLook (marker work) = true := by
  rw [FileTree.canLook, marker_eq, FileTree.locate_entry idle.directory (by decide) markerName_ne idle.short]

theorem Idle.of_beside (idle : Idle work world) (agree : World.Agrees (Beside work names) world next)
    (other : markerName ∉ names) : Idle work next :=
  ⟨(agree.isDirectory fun _ => .inl).trans idle.directory, idle.short,
    (hasMarker_of_beside agree other).trans idle.unmarked⟩

theorem Idle.of_files (idle : Idle work world) (same : next.files = world.files) : Idle work next :=
  ⟨same ▸ idle.directory, idle.short, same ▸ idle.unmarked⟩

/-- Where a marker stands, the system takes its path. -/
theorem short_of_hasMarker {tree : FileTree} (stands : hasMarker tree work = true) :
    FileTree.ShortEntry work markerName := by
  by_contra long
  have located := FileTree.locate_entry_of_not_short (isDirectory_of_hasMarker stands) (by decide) markerName_ne long
  rw [hasMarker, marker_eq, FileTree.has, FileTree.at?, located] at stands
  cases stands

end Progress

namespace Call

variable {call : Call σ} (isShader : shader.IsShader base) (apart : Apart work base world.scratch)
  (spare : Reduction.ToolsSpare call.tools work world.scratch)
include isShader apart spare

/-- A call that does not come to place the marker changes no own file but the copies of its input and the description of
its fault. -/
theorem run_agrees_of_unmarked (directory : world.files.isDirectory work = true)
    (unmarked : call.marked? shader work world = none) :
    World.Agrees (Progress.Beside work (Preparation.inputNames base ++ [Step.faultFileName base])) world
      (after (call.run shader work) world) := by
  have standing := FileTree.standing_of_isDirectory directory
  have taken : World.Agrees (Progress.Beside work (Preparation.inputNames base ++ [Step.faultFileName base])) world
      (after (Reduction.intake shader work call.settings) world) :=
    (Reduction.intake_agrees isShader (fun place _ visited => standing place visited)
      (Preparation.clear_inputNames standing)).mono fun _ => Progress.Beside.of_append_left
  cases intake : Reduction.intake shader work call.settings world with
  | error fault left =>
    rw [after_error (run_of_refused intake)]
    rwa [after_error intake] at taken
  | ok input entered =>
    obtain ⟨fault, left, ended, agree⟩ := run_unmarked isShader apart spare intake unmarked
    rw [after_error ended]
    rw [after_ok intake] at taken
    exact taken.trans (agree.mono fun _ => Progress.Beside.of_append_right)

/-- Once a call has ended with a final shader, no reduction is under way. -/
theorem idle_of_run {result : ReductionResult} (success : call.run shader work world = .ok result left) :
    Progress.Idle work left ∧ left.scratch = world.scratch := by
  have unmarked := (run_concludes isShader apart spare success).unmarked
  have runs := run_cases call isShader work world
  generalize ended : call.run shader work world = outcome at runs
  rw [success] at ended
  cases runs with
  | refused => cases ended
  | unready | failed => exact absurd ended.symm (Reduction.report_ne_ok work base _ _ _)
  | finished found reduced =>
    cases ended
    obtain ⟨_, _, _, intake, entrance⟩ := driver?_some isShader apart spare found
    have agree := entrance.drives.agrees entrance.directory
    simp only [reduced, leaves] at agree
    obtain ⟨sameWork, sameBase, careful, running, -⟩ := entrance.drives
    obtain ⟨⟨marked, marking⟩, -, sameScratch, -⟩ := Reducer.reduce_concludes careful running reduced
    refine ⟨⟨(agree.isDirectory fun _ => .inl).trans entrance.directory, ?_, unmarked⟩, ?_⟩
    · exact Progress.short_of_hasMarker (Progress.placeMarker_ok (sameWork ▸ marking)).2
    · exact (sameScratch.trans entrance.agree.scratch).trans (Reduction.scratch_of_intake isShader intake)

omit apart spare

/-- Where no reduction is under way, a call that is to go on is refused, and changes no file. -/
theorem run_of_idle (idle : Progress.Idle work world) (continuing : call.settings.continuing = true) :
    ∃ fault left, call.run shader work world = .error fault left ∧ left.files = world.files ∧
      call.settings.Refuses shader world.files fault := by
  obtain ⟨fault, left, failed, same, refuses⟩ :=
    Settings.checkUsage_of_unmarked isShader continuing idle.looks idle.unmarked
  exact ⟨fault, left, run_of_refused (bind_of_error failed _), same, refuses⟩

end Call

namespace Assignment

/-- Until an assignment that begins afresh places the marker, no reduction is under way, and every assignment that goes on is
refused. -/
theorem refused_of_idle {later : List (Assignment σ)} (fair : ∀ assignment ∈ later, assignment.Fair work world.scratch)
    (idle : Progress.Idle work world)
    (unplaced : ∀ start ∈ starts work later world, start.1.settings.continuing = false →
      start.1.marked? start.1.shader work start.2 = none) :
    ∀ start ∈ starts work later world, start.1.settings.continuing = true →
      ∃ fault left, start.1.run work start.2 = .error fault left ∧ left.files = start.2.files ∧
        start.1.settings.Refuses start.1.shader start.2.files fault := by
  induction later generalizing world with
  | nil => exact fun _ member => nomatch member
  | cons assignment rest ih =>
    obtain ⟨apart, spare⟩ := fair assignment List.mem_cons_self
    obtain ⟨sameScratch, -⟩ := Call.run_keeps assignment.isShader apart spare
    have further : Progress.Idle work (after (assignment.run work) world) := by
      cases continuing : assignment.settings.continuing with
      | true =>
        obtain ⟨fault, left, failed, same, -⟩ := Call.run_of_idle assignment.isShader idle continuing
        rw [run, after_error failed]
        exact idle.of_files same
      | false =>
        refine idle.of_beside (Call.run_agrees_of_unmarked assignment.isShader apart spare idle.directory
          (unplaced (assignment, world) List.mem_cons_self continuing)) ?_
        rw [List.mem_append, not_or]
        exact ⟨Call.markerName_notMem_inputNames _, Progress.markerName_notMem_faultFileName _⟩
    intro start member continuing
    rcases List.mem_cons.mp member with rfl | later
    · exact Call.run_of_idle assignment.isShader idle continuing
    · refine ih (fun other member => ?_) further (fun start member => unplaced start (List.mem_cons_of_mem _ member))
        start later continuing
      rw [run, sameScratch]
      exact fair other (List.mem_cons_of_mem _ member)

/-- A fault of the usage leaves the tools and the state of the reduction alone.  After a reduction has ended with a final
shader, and until a call that begins afresh places the marker, every call that is to go on is refused and changes no
file. -/
theorem usage_faults_keep_state {work : Path} :
    (∀ (assignment : Assignment σ) (world left : World σ) (fault : Fault),
      assignment.tools.Spares work world.scratch →
      (∀ world dispatcher left, assignment.tools world = .ok dispatcher left → dispatcher.Blameless) →
      assignment.run work world = .error fault left → fault.isUsage = true →
        assignment.LeavesAlone assignment.shader work assignment.base world fault left) ∧
    ∀ (finished : Assignment σ) (later : List (Assignment σ)) (world left : World σ) (result : ReductionResult),
      (∀ assignment ∈ finished :: later, assignment.Fair work world.scratch) →
      finished.run work world = .ok result left →
      (∀ start ∈ starts work later left, start.1.settings.continuing = false →
        start.1.marked? start.1.shader work start.2 = none) →
      ∀ start ∈ starts work later left, start.1.settings.continuing = true →
        ∃ fault left, start.1.run work start.2 = .error fault left ∧ left.files = start.2.files ∧
          start.1.settings.Refuses start.1.shader start.2.files fault := by
  refine ⟨fun assignment world left fault spares blameless failed isUsage =>
      Call.leavesAlone_of_isUsage assignment.isShader spares blameless failed isUsage,
    fun finished later world left result fair success unplaced => ?_⟩
  obtain ⟨apart, spare⟩ := fair finished List.mem_cons_self
  obtain ⟨idle, sameScratch⟩ := Call.idle_of_run finished.isShader apart spare success
  exact refused_of_idle (fun other member => sameScratch ▸ fair other (List.mem_cons_of_mem _ member)) idle unplaced

/-- Tools with which every shader crashes. -/
def crashing : Dispatcher Unit where
  render _ _ _ := pure ⟨.crash, none, []⟩
  validate _ := pure ⟨0, []⟩

/-- A reduction of the first shader with an error string that is no pattern. -/
def unreadable : Assignment Unit :=
  { onFirst (pure crashing) false with settings := { Call.crashSettings false with errorString := some "(" } }

/-- A reduction of the first shader that is to go on, with a reference image whose path is too long for the system. -/
def farReference : Assignment Unit :=
  { onFirst (pure crashing) true with settings :=
      { Call.crashSettings true with referenceImage := some ⟨"", [String.ofList (List.replicate 64 '𝒏')]⟩ } }

private theorem spares_crashing (work scratch : Path) :
    Reduction.ToolsSpare (pure crashing : Action Unit (Dispatcher Unit)) work scratch where
  making := .of_after fun _ => rfl
  using_ _ _ _ success := by
    cases success
    exact ⟨fun _ _ => .of_after fun _ => rfl, fun _ => .of_after fun _ => rfl⟩

private theorem blameless_crashing {world left : World Unit} {dispatcher : Dispatcher Unit}
    (success : (pure crashing : Action Unit (Dispatcher Unit)) world = .ok dispatcher left) : dispatcher.Blameless := by
  cases success
  exact ⟨fun _ _ _ => .ofPure _, fun _ => .ofPure _⟩

/-- An error string that is no pattern is a fault of the usage, and a reduction that has ended is not gone on with. -/
theorem usage_faults_keep_state_emptyNamed :
    (∃ fault left, unreadable.run ⟨"", ["work"]⟩ (Call.emptyNamed "a") = .error fault left ∧ fault.isUsage = true ∧
      unreadable.LeavesAlone ⟨"", ["a.frag"]⟩ ⟨"", ["work"]⟩ "a" (Call.emptyNamed "a") fault left) ∧
    ∃ result finished, (onFirst (pure crashing) false).run ⟨"", ["work"]⟩ (Call.emptyNamed "a") = .ok result finished ∧
      ∃ fault left, (onFirst (pure crashing) true).run ⟨"", ["work"]⟩ finished = .error fault left ∧
        left.files = finished.files ∧ (Call.crashSettings true).Refuses ⟨"", ["a.frag"]⟩ finished.files fault := by
  have fair : ∀ continuing, (onFirst (pure crashing) continuing).Fair ⟨"", ["work"]⟩ (Call.emptyNamed "a").scratch :=
    fun _ => ⟨apart_of_ne (show Path.IsName "a" by decide) (by decide) (by decide) (by decide), spares_crashing _ _⟩
  have breaks : unreadable.breaksWith ⟨"", ["a.frag"]⟩ ⟨"", ["work"]⟩ (Call.emptyNamed "a") (fun fault _ => fault.isUsage) =
      true := by decide +kernel
  have success : succeeds ((onFirst (pure crashing) false).run ⟨"", ["work"]⟩ (Call.emptyNamed "a")) = true := by
    decide +kernel
  obtain ⟨alone, refused⟩ := @usage_faults_keep_state Unit ⟨"", ["work"]⟩
  obtain ⟨fault, left, failed, isUsage⟩ := Call.exists_of_breaksWith breaks
  obtain ⟨result, finished, success⟩ := exists_of_succeeds success
  refine ⟨⟨fault, left, failed, isUsage, ?_⟩, result, finished, success, ?_⟩
  · exact alone unreadable _ left fault (spares_crashing _ _).making (fun _ _ _ => blameless_crashing) failed isUsage
  · refine refused (onFirst (pure crashing) false) [onFirst (pure crashing) true] _ finished result ?_ success ?_
      (onFirst (pure crashing) true, finished) List.mem_cons_self rfl
    · intro assignment member
      simp only [List.mem_cons, List.not_mem_nil, or_false] at member
      rcases member with rfl | rfl
      · exact fair false
      · exact fair true
    · intro start member fresh
      obtain rfl := List.mem_singleton.mp member
      cases fresh

/-- The fault of a call that is to go on where no reduction is under way need not be one of the usage; and a call with a
fault of the usage may have made a directory in the place of the marker. -/
theorem usage_faults_otherwise :
    (succeeds ((onFirst (pure crashing) false).run ⟨"", ["work"]⟩ (Call.emptyNamed "a")) = true ∧
      ∃ fault left, farReference.run ⟨"", ["work"]⟩
          (after ((onFirst (pure crashing) false).run ⟨"", ["work"]⟩) (Call.emptyNamed "a")) = .error fault left ∧
        fault.isUsage = false) ∧
    ∃ fault left, unreadable.run ⟨"", ["w", markerName, ".."]⟩ (Call.emptyNamed "a") = .error fault left ∧
      fault.isUsage = true ∧ (Call.emptyNamed "a").files.lookup? ["w", markerName] = none ∧
      left.files.isDirectory ⟨"", ["w", markerName]⟩ = true := by
  have success : succeeds ((onFirst (pure crashing) false).run ⟨"", ["work"]⟩ (Call.emptyNamed "a")) = true := by
    decide +kernel
  have far : farReference.breaksWith ⟨"", ["a.frag"]⟩ ⟨"", ["work"]⟩
      (after ((onFirst (pure crashing) false).run ⟨"", ["work"]⟩) (Call.emptyNamed "a"))
      (fun fault _ => !fault.isUsage) = true := by decide +kernel
  have made : unreadable.breaksWith ⟨"", ["a.frag"]⟩ ⟨"", ["w", markerName, ".."]⟩ (Call.emptyNamed "a")
      (fun fault left => fault.isUsage && left.files.isDirectory ⟨"", ["w", markerName]⟩) = true := by decide +kernel
  have before : (Call.emptyNamed "a").files.lookup? ["w", markerName] = none := by decide +kernel
  refine ⟨⟨success, ?_⟩, ?_⟩
  · obtain ⟨fault, left, failed, test⟩ := Call.exists_of_breaksWith far
    exact ⟨fault, left, failed, by simpa using test⟩
  · obtain ⟨fault, left, failed, test⟩ := Call.exists_of_breaksWith made
    rw [Bool.and_eq_true_iff] at test
    exact ⟨fault, left, failed, test.1, before, test.2⟩

end Assignment

end ShaderShrink
