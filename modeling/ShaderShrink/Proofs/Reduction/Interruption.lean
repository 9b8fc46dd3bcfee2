import ShaderShrink.Proofs.Reduction.Marking

/-!
# Interrupted reductions of several shaders

Reductions of several shaders may take turns in one working directory.  There is one marker for all of them, so a
reduction that was interrupted may be gone on with until a call that goes on, with whatever shader, ends with a final
shader: in between the marker stands, calls that begin afresh are refused, and a call that goes on is refused only for
its settings and its input files.
-/

namespace ShaderShrink

open Effect
open Progress (hasMarker)

variable {σ : Type} {work scratch shader : Path} {base : String} {world : World σ}

namespace Call

variable {call : Call σ}

/-- A call that is refused ends as its intake. -/
theorem run_of_refused {fault : Fault} {left : World σ}
    (failed : Reduction.intake shader work call.settings world = .error fault left) :
    call.run shader work world = .error fault left := by
  rw [run, Reduction.run_eq, bind_of_error failed]

theorem markerName_notMem_inputNames (base : String) : Progress.markerName ∉ Preparation.inputNames base := by
  intro member
  rcases List.mem_append.mp member with shader | reference
  · exact Progress.ne_markerName (Shader.dot_of_mem_fileNames shader) rfl
  · exact absurd (List.mem_singleton.mp reference) (by decide)

/-- Taking the input in leaves a marker that stands. -/
theorem hasMarker_intake (settings : Settings) (isShader : shader.IsShader base)
    (stands : hasMarker world.files work = true) :
    hasMarker (after (Reduction.intake shader work settings) world).files work = true := by
  have standing := FileTree.standing_of_isDirectory (Progress.isDirectory_of_hasMarker stands)
  have agree : World.Agrees (Progress.Beside work (Preparation.inputNames base)) world
      (after (Reduction.intake shader work settings) world) :=
    Reduction.intake_agrees isShader (fun place _ visited => standing place visited) (Preparation.clear_inputNames standing)
  exact (Progress.hasMarker_of_beside agree (markerName_notMem_inputNames base)).trans stands

section Standing

variable (isShader : shader.IsShader base) (apart : Apart work base world.scratch)
  (spare : Reduction.ToolsSpare call.tools work world.scratch)
include isShader apart spare

/-- A call keeps the scratch directory, and leaves a marker that stands unless it ends with a final shader. -/
theorem run_keeps :
    (after (call.run shader work) world).scratch = world.scratch ∧
      (hasMarker world.files work = true → succeeds (call.run shader work world) = false →
        hasMarker (after (call.run shader work) world).files work = true) := by
  cases intake : Reduction.intake shader work call.settings world with
  | error fault left =>
    rw [after_error (run_of_refused intake)]
    have taken : World.Agrees (fun _ => False) world (after (Reduction.intake shader work call.settings) world) :=
      Reduction.intake_agrees isShader (fun _ never => never.elim) fun _ _ _ never => never.elim
    refine ⟨(after_error intake ▸ taken).scratch, fun stands _ => ?_⟩
    exact after_error intake ▸ hasMarker_intake call.settings isShader stands
  | ok input taken =>
    cases placed : call.marked? shader work world with
    | some marked =>
      obtain ⟨stands, sameScratch⟩ := hasMarker_run isShader apart spare placed
      exact ⟨sameScratch, fun _ unfinished => by rw [stands, unfinished]; rfl⟩
    | none =>
      obtain ⟨fault, left, ended, agree⟩ := run_unmarked isShader apart spare intake placed
      rw [after_error ended]
      refine ⟨agree.scratch.trans (Reduction.scratch_of_intake isShader intake), fun stands _ => ?_⟩
      exact (Progress.hasMarker_of_beside agree (Progress.markerName_notMem_faultFileName base)).trans
        (after_ok intake ▸ hasMarker_intake call.settings isShader stands)

end Standing

/-- Where the marker stands, a call that begins afresh is refused. -/
theorem refused_of_fresh (fresh : call.settings.continuing = false) (stands : hasMarker world.files work = true) :
    succeeds (call.run shader work world) = false := by
  obtain ⟨fault, left, refused⟩ := @Settings.checkUsage_of_fresh _ shader work _ _ fresh stands
  rw [run_of_refused (bind_of_error refused _)]
  rfl

end Call

/-- A call together with the shader that it is to reduce. -/
structure Assignment (σ : Type) extends Call σ where
  shader : Path
  base : String
  isShader : shader.IsShader base

namespace Assignment

/-- The reduction that an assignment asks for. -/
def run (assignment : Assignment σ) (work : Path) : Action σ ReductionResult :=
  assignment.toCall.run assignment.shader work

/-- The worlds that an assignment passes through, at the positions of its driver. -/
def passes (assignment : Assignment σ) (work : Path) (world : World σ) : List (World σ) :=
  assignment.toCall.passes assignment.shader work world

/-- Assignments, each with the world that it begins in, which is what the one before it left. -/
def starts (work : Path) : List (Assignment σ) → World σ → List (Assignment σ × World σ)
  | [], _ => []
  | assignment :: rest, world => (assignment, world) :: starts work rest (after (assignment.run work) world)

/-- The worlds that a sequence of assignments passes through, from the one in front of the first to the one behind
the last. -/
def moments (work : Path) : List (Assignment σ) → World σ → List (World σ)
  | [], world => [world]
  | assignment :: rest, world =>
    world :: assignment.passes work world ++ moments work rest (after (assignment.run work) world)

/-- Whether an assignment leaves the working directory alone, but for what a reduction does in there. -/
structure Fair (assignment : Assignment σ) (work scratch : Path) : Prop where
  apart : Apart work assignment.base scratch
  spare : Reduction.ToolsSpare assignment.tools work scratch

/-- As long as no assignment that goes on ends with a final shader, the marker stands at all times, and none that
begins afresh is let in. -/
theorem marker_stays {later : List (Assignment σ)} (fair : ∀ assignment ∈ later, assignment.Fair work world.scratch)
    (stands : hasMarker world.files work = true)
    (unfinished : ∀ start ∈ starts work later world, start.1.settings.continuing = true →
      succeeds (start.1.run work start.2) = false) :
    (∀ moment ∈ moments work later world, hasMarker moment.files work = true) ∧
      ∀ start ∈ starts work later world, hasMarker start.2.files work = true := by
  induction later generalizing world with
  | nil => exact ⟨fun moment member => List.mem_singleton.mp member ▸ stands, fun _ member => nomatch member⟩
  | cons assignment rest ih =>
    obtain ⟨apart, spare⟩ := fair assignment List.mem_cons_self
    have ends : succeeds (assignment.run work world) = false := by
      cases continuing : assignment.settings.continuing with
      | true => exact unfinished (assignment, world) List.mem_cons_self continuing
      | false => exact Call.refused_of_fresh continuing stands
    obtain ⟨sameScratch, kept⟩ := Call.run_keeps assignment.isShader apart spare
    obtain ⟨ihMoments, ihStarts⟩ := @ih (after (assignment.run work) world)
      (fun other member => by
        rw [run, sameScratch]
        exact fair other (List.mem_cons_of_mem _ member))
      (kept stands ends) fun start member => unfinished start (List.mem_cons_of_mem _ member)
    refine ⟨fun moment member => ?_, fun start member => ?_⟩
    · rcases List.mem_cons.mp member with rfl | later
      · exact stands
      · rcases List.mem_append.mp later with passing | further
        · exact Call.hasMarker_of_mem_passes assignment.isShader apart spare passing
        · exact ihMoments moment further
    · rcases List.mem_cons.mp member with rfl | further
      · exact stands
      · exact ihStarts start further

/-- Once an assignment has placed the marker and not ended with a final shader, and until an assignment that goes on
with some shader ends with one: the marker stands at all times, so that going on, with this shader or with any other
one, is refused only for the settings and the input files; and whatever begins afresh is refused. -/
theorem interrupted_resumable {aborted : Assignment σ} {later : List (Assignment σ)} {marked : World σ}
    (fair : ∀ assignment ∈ aborted :: later, assignment.Fair work world.scratch)
    (placed : aborted.marked? aborted.shader work world = some marked)
    (failed : succeeds (aborted.run work world) = false)
    (unfinished : ∀ start ∈ starts work later (after (aborted.run work) world), start.1.settings.continuing = true →
      succeeds (start.1.run work start.2) = false) :
    (∀ moment ∈ marked :: aborted.passes work world ++ moments work later (after (aborted.run work) world),
        hasMarker moment.files work = true ∧
        ∀ (settings : Settings) (shader : Path), settings.continuing = true →
          settings.checkUsage shader work moment = (do settings.checkTogether; settings.checkFiles shader) moment) ∧
      ∀ start ∈ starts work later (after (aborted.run work) world), start.1.settings.continuing = false →
        ∃ fault left, start.1.settings.checkUsage start.1.shader work start.2 = .error fault left := by
  obtain ⟨apart, spare⟩ := fair aborted List.mem_cons_self
  obtain ⟨stands, sameScratch⟩ := Call.hasMarker_run aborted.isShader apart spare placed
  rw [show succeeds (aborted.toCall.run aborted.shader work world) = false from failed] at stands
  obtain ⟨atMoments, atStarts⟩ := @marker_stays _ work (after (aborted.run work) world) later
    (fun other member => by
      rw [run, sameScratch]
      exact fair other (List.mem_cons_of_mem _ member))
    stands unfinished
  have all : ∀ moment ∈ marked :: aborted.passes work world ++ moments work later (after (aborted.run work) world),
      hasMarker moment.files work = true := by
    intro moment member
    rcases List.mem_append.mp member with here | further
    · rcases List.mem_cons.mp here with rfl | passing
      · obtain ⟨driver, entered, -, -, marking, -⟩ := Call.run_of_marked? aborted.isShader apart spare placed
        exact (Progress.placeMarker_ok marking).2
      · exact Call.hasMarker_of_mem_passes aborted.isShader apart spare passing
    · exact atMoments moment further
  exact ⟨fun moment member => ⟨all moment member, fun settings shader continuing =>
      Settings.checkUsage_of_hasMarker continuing (all moment member)⟩,
    fun start member fresh => Settings.checkUsage_of_fresh fresh (atStarts start member)⟩

/-- Two shader files with an empty function, and nothing else. -/
def twoShaders : World Unit :=
  ⟨⟨[(["a.frag"], .file "void main() \x7b\n\x7d\n".toUTF8), (["a.json"], .file "\x7b\x7d".toUTF8),
    (["b.frag"], .file "void main() \x7b\n\x7d\n".toUTF8), (["b.json"], .file "\x7b\x7d".toUTF8)]⟩, [], ⟨"", ["scratch"]⟩, 0, ()⟩

/-- Tools that are interrupted whenever they are used. -/
def interrupting : Dispatcher Unit where
  render _ _ _ := throw (.interrupted "")
  validate _ := throw (.interrupted "")

/-- A reduction of the first shader. -/
def onFirst (tools : Action Unit (Dispatcher Unit)) (continuing : Bool) : Assignment Unit :=
  ⟨⟨tools, Call.crashSettings continuing⟩, ⟨"", ["a.frag"]⟩, "a", rfl, by decide, by decide⟩

/-- A reduction of the second shader. -/
def onSecond (tools : Action Unit (Dispatcher Unit)) (continuing : Bool) : Assignment Unit :=
  ⟨⟨tools, Call.crashSettings continuing⟩, ⟨"", ["b.frag"]⟩, "b", rfl, by decide, by decide⟩

/-- Assignments on the two shaders that take turns: one begins afresh, and the others go on with tools that cannot be made
ready. -/
def takingTurns : List (Assignment Unit) :=
  [onSecond (pure interrupting) false, onSecond (throw (.runtime "")) true, onFirst (throw (.runtime "")) true]

/-- What the first reduction of the first shader leaves when it is interrupted. -/
def afterInterruption : World Unit :=
  after ((onFirst (pure interrupting) false).run ⟨"", ["work"]⟩) twoShaders

private theorem spares_interrupting (work scratch : Path) :
    Reduction.ToolsSpare (pure interrupting : Action Unit (Dispatcher Unit)) work scratch where
  making := .of_after fun _ => rfl
  using_ _ _ _ success := by
    cases success
    exact ⟨fun _ _ => .of_after fun _ => rfl, fun _ => .of_after fun _ => rfl⟩

private theorem spares_failing (work scratch : Path) :
    Reduction.ToolsSpare (throw (.runtime "") : Action Unit (Dispatcher Unit)) work scratch where
  making := .of_after fun _ => rfl
  using_ _ _ _ success := nomatch success

/-- The first shader may be gone on with all the time. -/
theorem interrupted_resumable_takingTurns :
    takingTurns.length < (moments ⟨"", ["work"]⟩ takingTurns afterInterruption).length ∧
    ∀ moment ∈ moments ⟨"", ["work"]⟩ takingTurns afterInterruption,
      hasMarker moment.files ⟨"", ["work"]⟩ = true ∧
      (Call.crashSettings true).checkUsage ⟨"", ["a.frag"]⟩ ⟨"", ["work"]⟩ moment =
        (do (Call.crashSettings true).checkTogether; (Call.crashSettings true).checkFiles ⟨"", ["a.frag"]⟩) moment := by
  have apart : ∀ base : String, Path.IsName base → Apart ⟨"", ["work"]⟩ base twoShaders.scratch := fun base isName =>
    apart_of_ne isName (by decide) (by decide) (by decide)
  have fair : ∀ assignment ∈ onFirst (pure interrupting) false :: takingTurns,
      assignment.Fair ⟨"", ["work"]⟩ twoShaders.scratch := by
    intro assignment member
    simp only [takingTurns, List.mem_cons, List.not_mem_nil, or_false] at member
    rcases member with rfl | rfl | rfl | rfl
    · exact ⟨apart "a" (by decide), spares_interrupting _ _⟩
    · exact ⟨apart "b" (by decide), spares_interrupting _ _⟩
    · exact ⟨apart "b" (by decide), spares_failing _ _⟩
    · exact ⟨apart "a" (by decide), spares_failing _ _⟩
  obtain ⟨marked, placed⟩ := Option.isSome_iff_exists.mp (show
    ((onFirst (pure interrupting) false).marked? ⟨"", ["a.frag"]⟩ ⟨"", ["work"]⟩ twoShaders).isSome = true by
      decide +kernel)
  have failed : succeeds ((onFirst (pure interrupting) false).run ⟨"", ["work"]⟩ twoShaders) = false := by decide +kernel
  have unfinished : ((starts ⟨"", ["work"]⟩ takingTurns afterInterruption).all fun start =>
      !succeeds (start.1.run ⟨"", ["work"]⟩ start.2)) = true := by decide +kernel
  obtain ⟨stands, -⟩ := interrupted_resumable fair placed failed fun start member _ => by
    simpa using List.all_eq_true.mp unfinished start member
  refine ⟨by decide +kernel, fun moment member => ?_⟩
  obtain ⟨marked, accepted⟩ := stands moment (List.mem_append_right _ member)
  exact ⟨marked, accepted _ _ rfl⟩

end Assignment

end ShaderShrink
