import ShaderShrink.Proofs.Reduction.Onward
import ShaderShrink.Proofs.Reduction.Opening

/-!
# Sequences of calls

Calls of a reduction of one shader in one working directory follow each other, each from what the one before
it left, however that one ended.  At all times the steps in the directory are numbered once, a step that was
written is never touched again, and new steps have greater numbers than all others.
-/

namespace ShaderShrink

open Effect
open Progress (Numbered Extends Found)

variable {σ : Type} {shader work scratch : Path} {base : String} {whole : Prop} {bound : Nat}

namespace Progress

variable {tree : FileTree}

/-- Where no step is found, the steps are numbered below one. -/
theorem numbered_of_none (none : ∀ step, ¬ Found tree work base step) : Numbered tree work base whole 1 where
  named step found := absurd found (none step)
  positive step found := absurd found (none step)
  below step found := absurd found (none step)
  single step _ found := absurd found (none step)
  gapless _ _ low high := absurd low (Nat.not_le_of_lt high)

/-- A reduction that goes on begins with a number above all steps that it finds. -/
theorem Numbered.latest (numbered : Numbered tree work base whole bound)
    (directory : tree.isDirectory work = true) :
    Numbered tree work base whole ((latest? tree work base).getD 0 + 1) := by
  cases latest : latest? tree work base with
  | none =>
    refine numbered_of_none fun step found => ?_
    have member := mem_steps.mpr ⟨directory, found⟩
    rw [latest?_eq_none.mp latest] at member
    cases member
  | some number =>
    obtain ⟨⟨greatest, member, rfl⟩, all⟩ := latest?_eq_some.mp latest
    have below := numbered.below greatest (mem_steps.mp member).2
    exact { numbered with
      below := fun step found => Nat.lt_succ_of_le (all step (mem_steps.mpr ⟨directory, found⟩))
      gapless := fun all number low high => numbered.gapless all number low (by
        simp only [Option.getD_some] at high
        omega) }

end Progress

/-- What holds between calls: the steps are numbered, there is none if the working directory does not stand,
and then its path leads straight down. -/
structure Settled (work : Path) (base : String) (whole : Prop) (world : World σ) : Prop where
  numbered : ∃ bound, Numbered world.files work base whole bound
  absent : world.files.isDirectory work = false → Numbered world.files work base whole 1
  reachable : world.files.isDirectory work = true ∨ ".." ∉ work.parts

variable {world : World σ} {call : Call σ} {settings : Settings}

theorem Settled.start (clean : ∀ step, ¬ Found world.files work base step)
    (reachable : world.files.isDirectory work = true ∨ ".." ∉ work.parts) : Settled work base whole world :=
  ⟨⟨1, Progress.numbered_of_none clean⟩, fun _ => Progress.numbered_of_none clean, reachable⟩

/-- What comes after a directory that stands is settled. -/
theorem Settled.of_onward {a b : World σ} (onward : Onward work base whole a b)
    (directory : a.files.isDirectory work = true) : Settled work base whole b := by
  have stands := onward.extends_.directory directory
  refine ⟨onward.numbered, fun absent => ?_, .inl stands⟩
  rw [stands] at absent
  cases absent

namespace Reduction

private theorem not_visited (plain : ".." ∉ work.parts) (name : String) :
    work.place ++ [name] ∉ work.visited := by
  intro visited
  have longer := (Path.prefix_of_mem_visited plain visited).length_le
  rw [List.length_append, List.length_singleton] at longer
  omega

/-- Taking the input in keeps the numbering, also where it makes the working directory. -/
theorem intake_numbered (settings : Settings) (isShader : shader.IsShader base)
    (reachable : world.files.isDirectory work = true ∨ ".." ∉ work.parts)
    (numbered : Numbered world.files work base whole bound) :
    Numbered (after (intake shader work settings) world).files work base whole bound ∧
      Onward work base whole world (after (intake shader work settings) world) := by
  have unrelated := Step.unrelated_inputNames base
  cases stands : world.files.isDirectory work with
  | true =>
    have standing := FileTree.standing_of_isDirectory stands
    have agree : World.Agrees (Progress.Beside work (Preparation.inputNames base)) world
        (after (intake shader work settings) world) :=
      intake_agrees isShader (fun place _ visited => standing place visited) (Preparation.clear_inputNames standing)
    exact ⟨(numbered.beside agree unrelated).1, .beside numbered agree unrelated⟩
  | false =>
    have plain := reachable.resolve_left (by rw [stands]; exact Bool.false_ne_true)
    have agree : World.Agrees (Progress.Files work (Preparation.inputNames base)) world
        (after (intake shader work settings) world) := by
      refine intake_agrees isShader ?_ ?_
      · rintro place ⟨name, -, -, rfl⟩ visited
        exact absurd visited (not_visited plain name)
      · rintro entry member place ⟨name, -, outside, rfl⟩ visited
        rcases (Path.mem_entry_visited work (Preparation.ne_of_mem_inputNames member)).mp visited with way | same
        · exact absurd way (not_visited plain name)
        · obtain rfl := List.singleton_inj.mp (List.append_cancel_left same)
          exact absurd member outside
    have still := numbered.still unrelated agree.files fun directory => by rw [stands] at directory; cases directory
    exact ⟨still.1, still.2, agree.scratch, bound, still.1⟩

end Reduction

namespace Call

/-- A driver begins with a number above all steps in the directory. -/
theorem driver?_numbered {driver : Driver σ} {entered : World σ} (isShader : shader.IsShader base)
    (apart : Apart work base world.scratch) (spare : Reduction.ToolsSpare call.tools work world.scratch)
    (settled : Settled work base whole world)
    (found : call.driver? shader work world = some (driver, entered)) :
    Onward work base whole world entered ∧ Numbered entered.files work base whole driver.first ∧ 1 ≤ driver.first := by
  obtain ⟨placed, reference, taken, intake, entrance⟩ := driver?_some isShader apart spare found
  obtain ⟨verdict, made⟩ := entrance.made
  have checked := Reduction.checked_of_intake intake
  have taking : ∀ {bound}, Numbered world.files work base whole bound →
      Numbered entered.files work base whole bound ∧ Onward work base whole world entered := by
    intro bound numbered
    obtain ⟨numbered, onward⟩ := Reduction.intake_numbered call.settings isShader settled.reachable numbered
    rw [after_ok intake] at numbered onward
    exact ⟨(numbered.own entrance.agree).1, onward.trans (.own numbered entrance.agree)⟩
  rw [made.first]
  cases continuing : call.settings.continuing with
  | true =>
    obtain ⟨bound, numbered⟩ := settled.numbered
    obtain ⟨numbered, onward⟩ := taking numbered
    have first : (Progress.start entered.files placed work true).nextStep =
        (Progress.latest? entered.files work base).getD 0 + 1 := by
      simp only [Progress.start, ↓reduceIte, entrance.isShader.stem]
      cases Progress.latestSuccess? entered.files work base <;> rfl
    rw [first]
    exact ⟨onward, numbered.latest entrance.directory, Nat.le_add_left 1 _⟩
  | false =>
    simp only [continuing, Bool.false_eq_true, ↓reduceIte, isShader.stem] at checked
    have numbered : Numbered world.files work base whole 1 := by
      cases directory : world.files.isDirectory work with
      | false => exact settled.absent directory
      | true =>
        refine Progress.numbered_of_none fun step found => ?_
        have member := Progress.mem_steps.mpr ⟨directory, found⟩
        rw [Progress.latest?_eq_none.mp checked] at member
        cases member
    obtain ⟨numbered, onward⟩ := taking numbered
    exact ⟨onward, numbered, Nat.le_refl 1⟩

/-- The worlds that a call passes through, at the positions of its driver. -/
def passes (call : Call σ) (shader work : Path) (world : World σ) : List (World σ) :=
  match call.driver? shader work world with
  | some (driver, entered) => (driver.course entered).map (·.world)
  | none => []

/-- What a driver does goes on from the world in which the call began. -/
theorem driver_chain {driver : Driver σ} {entered : World σ} (isShader : shader.IsShader base)
    (apart : Apart work base world.scratch) (spare : Reduction.ToolsSpare call.tools work world.scratch)
    (settled : Settled work base whole world) (keeps : whole → call.settings.keepRejected = true)
    (found : call.driver? shader work world = some (driver, entered)) :
    (driver.base = base ∧ entered.files.isDirectory work = true) ∧ Onward work base whole world entered ∧
      List.IsChain (Onward work base whole)
        (entered :: call.passes shader work world ++ [(leaves (driver.reduce entered)).2]) := by
  obtain ⟨onward, numbered, positive⟩ := driver?_numbered isShader apart spare settled found
  obtain ⟨placed, reference, taken, intake, entrance⟩ := driver?_some isShader apart spare found
  obtain ⟨verdict, made⟩ := entrance.made
  have sameBase : driver.base = base := made.base.trans entrance.isShader.stem
  have sameWork : driver.reducer.work = work := by rw [made.reducer]
  have keepsRejected : whole → driver.reducer.keepRejected = true := by
    rw [made.reducer]
    exact keeps
  refine ⟨⟨sameBase, entrance.directory⟩, onward, ?_⟩
  simp only [passes, found]
  subst sameBase sameWork
  have first : (1 : Int) ≤ driver.first := by omega
  exact Reducer.reduce_chain entrance.careful made.running entrance.directory first numbered keepsRejected

/-- Reporting a fault goes on. -/
private theorem report_onward {a b : World σ} (fault : Fault) (isShader : shader.IsShader base)
    (onward : Onward work base whole a b) (directory : a.files.isDirectory work = true) :
    Onward work base whole b (after (Reduction.report work base fault : Action σ ReductionResult) b) := by
  obtain ⟨bound, numbered⟩ := onward.numbered
  have agree := Reduction.report_agrees (α := ReductionResult) isShader (onward.extends_.directory directory) fault
  rw [isShader.stem] at agree
  exact .beside numbered agree (Step.unrelated_faultFileName base)

/-- However a call ends, it goes on through all its worlds, and leaves the directory settled. -/
theorem chain (isShader : shader.IsShader base) (apart : Apart work base world.scratch)
    (spare : Reduction.ToolsSpare call.tools work world.scratch) (settled : Settled work base whole world)
    (keeps : whole → call.settings.keepRejected = true) :
    List.IsChain (Onward work base whole)
        (world :: call.passes shader work world ++ [after (call.run shader work) world]) ∧
      Settled work base whole (after (call.run shader work) world) := by
  have runs := run_cases call isShader work world
  unfold after
  generalize call.run shader work world = result at runs ⊢
  cases runs with
  | @refused fault left failed =>
    have none : call.driver? shader work world = none := by simp only [driver?, failed]
    obtain ⟨bound, numbered⟩ := settled.numbered
    have taking : ∀ {bound}, Numbered world.files work base whole bound →
        Numbered left.files work base whole bound ∧ Onward work base whole world left := fun numbered =>
      after_error failed ▸ Reduction.intake_numbered call.settings isShader settled.reachable numbered
    have onward := (taking numbered).2
    simp only [passes, none]
    refine ⟨List.isChain_pair.mpr onward, onward.numbered, fun absent => ?_, ?_⟩
    · cases directory : world.files.isDirectory work with
      | false => exact (taking (settled.absent directory)).1
      | true =>
        rw [leaves, onward.extends_.directory directory] at absent
        cases absent
    · exact settled.reachable.imp_left onward.extends_.directory
  | @unready placed reference fault taken left intake failed =>
    have none : call.driver? shader work world = none := by simp only [driver?, intake, failed]
    obtain ⟨bound, numbered⟩ := settled.numbered
    obtain ⟨numbered, onward⟩ := after_ok intake ▸ Reduction.intake_numbered call.settings isShader settled.reachable numbered
    have directory := (Reduction.intake_ok isShader intake).1
    have spare : Reduction.ToolsSpare call.tools work taken.scratch := by rwa [onward.sameScratch]
    have agree := after_error failed ▸ spare.setUp call.settings placed reference directory
    have setting : Onward work base whole taken left := .own numbered agree
    have reported := setting.trans (report_onward fault isShader setting directory)
    simp only [passes, none]
    exact ⟨List.isChain_pair.mpr (onward.trans reported), .of_onward reported directory⟩
  | @failed driver entered left fault state found reduced =>
    obtain ⟨⟨sameBase, directory⟩, onward, chain⟩ := driver_chain isShader apart spare settled keeps found
    rw [reduced] at chain
    have ending := Onward.chain_ends chain
    have reported := report_onward fault isShader ending directory
    exact ⟨Onward.chain_stretch chain onward reported, .of_onward (ending.trans reported) directory⟩
  | @finished driver entered left result state found reduced =>
    obtain ⟨⟨sameBase, directory⟩, onward, chain⟩ := driver_chain isShader apart spare settled keeps found
    rw [reduced] at chain
    have ending := Onward.chain_ends chain
    refine ⟨Onward.chain_stretch chain onward (.refl ending.numbered), .of_onward ending directory⟩

/-- The worlds that a sequence of calls passes through, from the one in front of the first call to the one behind
the last call. -/
def moments (shader work : Path) : List (Call σ) → World σ → List (World σ)
  | [], world => [world]
  | call :: calls, world =>
    world :: call.passes shader work world ++
      moments shader work calls (after (call.run shader work) world)

end Call

namespace Progress

/-- Without gaps, the numbers of the steps are those from one to the last. -/
theorem Numbered.numbers {tree : FileTree} (numbered : Numbered tree work base whole bound) (all : whole) :
    ∃ last, ∀ number, (∃ step ∈ steps tree work base, step.number = number) ↔ 1 ≤ number ∧ number ≤ last := by
  cases directory : tree.isDirectory work with
  | false =>
    refine ⟨0, fun number => ⟨?_, fun ⟨low, high⟩ => absurd low (by omega)⟩⟩
    rintro ⟨step, member, -⟩
    rw [mem_steps, directory] at member
    exact absurd member.1 Bool.false_ne_true
  | true =>
    refine ⟨bound - 1, fun number => ⟨?_, fun ⟨low, high⟩ => ?_⟩⟩
    · rintro ⟨step, member, rfl⟩
      have found := (mem_steps.mp member).2
      exact ⟨numbered.positive step found, Nat.le_sub_one_of_lt (numbered.below step found)⟩
    · obtain ⟨step, found, same⟩ := numbered.gapless all number low (by omega)
      exact ⟨step, mem_steps.mpr ⟨directory, found⟩, same⟩

end Progress

namespace Call

instance : Trans (Onward (σ := σ) work base whole) (Onward work base whole) (Onward work base whole) := ⟨Onward.trans⟩

/-- Settings of a reduction that keeps a crash. -/
def crashSettings (continuing : Bool) : Settings where
  kind := .noImage
  referenceImage := none
  threshold := .ofInt 0
  timeout := 30
  maxSteps := 10
  retryLimit := 0
  verbose := false
  skipRender := true
  seed := 0
  errorString := none
  server := none
  token := none
  reduceEverywhere := false
  stopOnError := false
  softwareRenderer := false
  continuing
  keepRejected := true
  renderCommand := []
  validatorCommand := []

/-- A shader file with a blank line and a function of one statement, and nothing else. -/
def blankLineAndStatement : World (List RenderStatus) :=
  ⟨⟨[(["s.frag"], .file "\nvoid f()\x7b\nx;\n\x7d\n".toUTF8), (["s.json"], .file "\x7b\x7d".toUTF8)]⟩, [], ⟨"", ["scratch"]⟩, 0, []⟩

end Call

end ShaderShrink
