import ShaderShrink.Proofs.Reduction.Abort
import ShaderShrink.Proofs.Reduction.Copies
import ShaderShrink.Proofs.Reduction.Sequence

/-!
# Where a call begins

The driver of a call that begins afresh finds no steps.  That of one that goes on begins with the shader of the
latest accepted step, or with the placed shader if there is none; in both cases with a number above all steps.
-/

namespace ShaderShrink

open Effect
open Progress (Found Numbered Secures)

variable {σ : Type} {shader work scratch : Path} {base : String} {world : World σ}

/-- Whether a working directory stands, or can be made where nothing stands. -/
def FileTree.Ready (tree : FileTree) (work : Path) : Prop :=
  tree.isDirectory work = true ∨ ".." ∉ work.parts ∧ ∀ name, tree.lookup? (work.place ++ [name]) = none

namespace Call

variable {call : Call σ} {driver : Driver σ} {entered taken : World σ} {placed : Path} {reference : Option Path}

/-- A driver begins with a number above all steps. -/
theorem Entrance.below (entrance : Entrance call work base placed taken driver entered)
    (fresh : call.settings.continuing = false → ∀ step, ¬ Found entered.files work base step) (step : FoundStep)
    (found : Found entered.files work base step) : step.number < driver.first := by
  obtain ⟨verdict, made⟩ := entrance.made
  cases continuing : call.settings.continuing with
  | false => exact absurd found (fresh continuing step)
  | true =>
    have first : driver.first = (Progress.latest? entered.files work base).getD 0 + 1 := by
      simp only [made.first, continuing, Progress.start, ↓reduceIte, entrance.isShader.stem]
      cases Progress.latestSuccess? entered.files work base <;> rfl
    have member := Progress.mem_steps.mpr ⟨entrance.directory, found⟩
    cases latest : Progress.latest? entered.files work base with
    | none =>
      rw [Progress.latest?_eq_none.mp latest] at member
      cases member
    | some number =>
      rw [first, latest, Option.getD_some]
      exact Nat.lt_succ_of_le ((Progress.latest?_eq_some.mp latest).2 step member)

/-- Without accepted steps, a driver begins with the placed shader. -/
theorem Entrance.legible_of_none (entrance : Entrance call work base placed taken driver entered)
    (none : Progress.latestSuccess? entered.files work base = none) :
    Shader.Legible entered.files placed driver.state.shader.text driver.state.shader.metadata := by
  obtain ⟨verdict, made⟩ := entrance.made
  have legible := made.legible
  cases continuing : call.settings.continuing <;>
    simpa only [continuing, Progress.start, Bool.false_eq_true, ↓reduceIte, entrance.isShader.stem, none] using legible

/-- What a driver begins with is secured, if it is one to begin with whenever no step is accepted. -/
theorem Entrance.secures {begun : Shader → Prop} (entrance : Entrance call work base placed taken driver entered)
    (fresh : call.settings.continuing = false → ∀ step, ¬ Found entered.files work base step)
    (begins : Progress.latestSuccess? entered.files work base = none → begun driver.state.shader) :
    Secures entered.files work base begun driver.state.shader := by
  refine ⟨begins, fun number latest => ?_⟩
  cases continuing : call.settings.continuing with
  | false =>
    obtain ⟨step, found, -⟩ := Progress.exists_of_latestSuccess? latest
    exact absurd found (fresh continuing step)
  | true =>
    obtain ⟨verdict, made⟩ := entrance.made
    have legible := made.legible
    have isName := Step.isName_fileName entrance.isShader.plain number .success
    simp only [continuing, Progress.start, ↓reduceIte, entrance.isShader.stem, latest] at legible
    rw [Path.child_of_isName work isName] at legible
    exact legible.restorable

end Call

end ShaderShrink
