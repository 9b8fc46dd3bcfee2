import ShaderShrink.Proofs.Faults
import ShaderShrink.Proofs.Reduction.Exhaustion
import ShaderShrink.Proofs.Reduction.Opening

/-!
# Whom a fault blames

If the tools never blame the usage for a fault, then neither do the judges, nor a driver from its first step to its
last.  A call that ends with a fault of the usage has therefore not come to its driver.
-/

namespace ShaderShrink

open Effect

variable {σ α : Type}

/-- Whether the tools never blame the usage. -/
structure Dispatcher.Blameless (dispatcher : Dispatcher σ) : Prop where
  render : ∀ shader image skip, Raises Fault.Blameless (dispatcher.render shader image skip)
  validate : ∀ shader, Raises Fault.Blameless (dispatcher.validate shader)

namespace Judge

private theorem blameless_fingerprint (outcome : RenderOutcome) :
    Raises Fault.Blameless (outcome.fingerprint : Action σ String) := by
  refine .bind (.bind Action.blameless_files fun tree => ?_) fun _ => .ofPure _
  split
  · exact .ofPure _
  · exact .bind (Action.blameless_readBytes _) fun _ => .ofPure _

private theorem blameless_judgeFuzzing {dispatcher : Dispatcher σ} (blameless : dispatcher.Blameless) (corpus : Path)
    (candidate : Candidate) : Raises Fault.Blameless (judgeFuzzing dispatcher corpus candidate) := by
  refine .bind (blameless.render _ _ _) fun outcome => .bind (blameless_fingerprint outcome) fun fingerprint => ?_
  have rest : Raises Fault.Blameless (do
      Action.writeJson (corpus.child (fingerprint ++ Shader.metadataSuffix)) (corpusRecord fingerprint outcome)
      Action.log .info ("new behaviour " ++ String.ofList (fingerprint.toList.take 12) ++ " added to corpus")
      return true : Action σ Bool) :=
    .bind (Action.blameless_writeJson _ _) fun _ => .bind (Action.blameless_log _ _) fun _ => .ofPure true
  refine .bind (Action.blameless_isPresent _) fun present => ?_
  split
  · exact .ofPure false
  · refine .bind (Action.blameless_copy _ _) fun _ => .bind Action.blameless_files fun tree => ?_
    split
    · exact .bind (Action.blameless_copy _ _) fun _ => rest
    · exact rest

/-- A judge never blames the usage if the tools do not. -/
theorem blameless_isInteresting {dispatcher : Dispatcher σ} (blameless : dispatcher.Blameless) (judge : Judge)
    (candidate : Candidate) : Raises Fault.Blameless (judge.isInteresting dispatcher candidate) := by
  cases judge with
  | always => exact .ofPure true
  | noImage pattern skipRender =>
    refine .bind (blameless.render _ _ _) fun outcome => .bind Action.blameless_files fun tree => ?_
    split
    · exact .ofPure false
    · refine Action.raises_ofExcept ?_
      unfold acceptsLog
      split
      · exact .ok false
      · exact Pattern.blameless_accepts pattern _
  | image reference comparison =>
    refine .bind (blameless.render _ _ _) fun outcome => .bind Action.blameless_files fun tree => ?_
    split
    · exact comparison.blameless_acceptsFiles _ _
    · exact .bind (Action.blameless_log _ _) fun _ => .ofPure false
  | validatorError pattern =>
    refine .bind (blameless.validate _) fun outcome => ?_
    split
    · exact Action.raises_ofExcept (Pattern.blameless_fullMatch pattern _)
    · exact .ofPure false
  | fuzzing corpus => exact blameless_judgeFuzzing blameless corpus candidate

end Judge

namespace Reducer

variable {reducer : Reducer σ} {base : String}

private theorem blameless_write (work : Path) (stem : String) (kind : ArtifactKind) (shader : Shader) :
    Raises Fault.Blameless (Artifact.write work stem kind shader : Action σ Artifact) :=
  .bind (shader.blameless_store _) fun _ => .bind (Action.blameless_readBytes _) fun _ => .ofPure _

variable (blameless : ∀ candidate, Raises Fault.Blameless (reducer.verdict candidate))
include blameless

private theorem blameless_judge (shader : Shader) : Raises Fault.Blameless (reducer.judge base shader) :=
  Action.blameless_withScratch fun _ => .bind (shader.blameless_store _) fun _ => blameless _

private theorem blameless_step {p : Position σ} {fault : Fault} {state : ReductionState} {left : World σ}
    (steps : Steps reducer base p (.error fault (state, left))) : fault.Blameless := by
  cases steps with
  | unproposed _ _ offered unproposed =>
    obtain ⟨opportunity, candidate, context, proposes⟩ := exists_proposes offered
    exact absurd proposes (unproposed _ _ _)
  | crashed _ failed _ => exact blameless_judge blameless _ _ _ _ failed
  | unwritten _ _ _ failed => exact blameless_write _ _ _ _ _ _ _ failed
  | stopped => rfl

/-- A reduction never blames the usage if its judge does not. -/
theorem blameless_reduce {first limit : Int} {now state : ReductionState} {world left : World σ} {fault : Fault}
    (running : now.status = .running)
    (failed : reducer.reduce base first limit (now, world) = .error fault (state, left)) : fault.Blameless := by
  have reduces := reduce_cases reducer base first limit world running
  rw [failed] at reduces
  cases reduces with
  | refused => rfl
  | unmarked _ failed => exact Action.blameless_touch _ _ _ _ failed
  | unchecked _ _ checks =>
    cases checks with
    | refused => rfl
    | failed _ judged => exact blameless_judge blameless _ _ _ _ judged
  | crashed _ steps => exact blameless_step blameless steps
  | unwritten _ failed => exact blameless_write _ _ _ _ _ _ _ failed
  | uncleared _ _ _ failed => exact Action.blameless_remove _ _ _ _ failed

end Reducer

namespace Reduction

theorem blameless_prepare (shader work : Path) (reference : Option Path) :
    Raises Fault.Blameless (Preparation.prepare shader work reference : Action σ (Path × Option Path)) := by
  have placeShader : Raises Fault.Blameless (Preparation.placeShader shader work : Action σ Path) := by
    unfold Preparation.placeShader
    split
    · exact .ofPure _
    · exact .bind (Action.blameless_copy _ _) fun _ =>
        .bind (Action.raises_ofExcept (Path.blameless_withName _ _)) fun _ =>
          .bind (Action.raises_ofExcept (Path.blameless_withName _ _)) fun _ =>
            .bind (Action.blameless_copy _ _) fun _ => .ofPure _
  have placeReference : ∀ image, Raises Fault.Blameless (Preparation.placeReference image work : Action σ Path) := by
    intro image
    unfold Preparation.placeReference
    split
    · exact .ofPure _
    · exact .bind (Action.blameless_copy _ _) fun _ => .ofPure _
  refine .bind (Action.blameless_makeDirectories _) fun _ => .bind placeShader fun _ => ?_
  split
  · exact .ofPure _
  · exact .bind (placeReference _) fun _ => .ofPure _

/-- Describing a fault does not blame the usage. -/
theorem blameless_describeFault (work : Path) (base : String) (fault : Fault) :
    Raises Fault.Blameless (describeFault work base fault : Action σ Unit) :=
  .bind (Action.blameless_makeDirectories _) fun _ =>
    .bind (.bind (Action.blameless_writeBytes _ _) fun _ => .bind (Action.blameless_readBytes _) fun _ => .ofPure _) fun _ =>
      Action.blameless_log _ _

/-- A fault of the usage is reported as it is, and not described. -/
theorem report_of_isUsage {work : Path} {base : String} {fault reason : Fault} {world left : World σ}
    (reported : (report work base reason : Action σ α) world = .error fault left) (isUsage : fault.isUsage = true) :
    fault = reason ∧ left = world := by
  unfold report at reported
  cases described : isDescribed reason with
  | false =>
    simp only [described, Bool.false_eq_true, ↓reduceIte] at reported
    cases reported
    exact ⟨rfl, rfl⟩
  | true =>
    simp only [described, ↓reduceIte] at reported
    rcases bind_error reported with failed | ⟨_, _, -, failed⟩
    · exact absurd (blameless_describeFault _ _ _ _ _ _ failed) (by rw [Fault.Blameless, isUsage]; exact nofun)
    · cases failed
      simp [isDescribed, isUsage] at described

end Reduction

end ShaderShrink
