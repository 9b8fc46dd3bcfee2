import ShaderShrink.Proofs.Reduction.Course

/-!
# The stages of a reduction

A reduction that ends with a result has gone through all its stages without a fault, and where each stage goes through, it
ends with a result.
-/

namespace ShaderShrink

open Effect Progress

variable {σ : Type}

namespace Reducer

/-- What a reduction that ends with a result goes through: the worlds in which the marker stands, the starting shader has
passed, the loop has ended, the final shader is written and the marker is cleared. -/
structure Stages (σ : Type) where
  marked : World σ
  opened : World σ
  next : Nat
  ended : ReductionState
  looped : World σ
  artifact : Artifact
  written : World σ
  cleared : World σ

/-- Whether a reduction goes through some stages. -/
structure Stages.Lead (stages : Stages σ) (reducer : Reducer σ) (base : String) (first limit : Int) (now : ReductionState)
    (world : World σ) : Prop where
  positive : 1 ≤ first
  marking : placeMarker reducer.work world = .ok () stages.marked
  checking : reducer.checkInitial base (now, announced base first limit now stages.marked) = .ok () (now, stages.opened)
  looping : reducer.loop base (limit + 1 - first).toNat first.toNat [] (now, stages.opened) =
    .ok stages.next (stages.ended, stages.looped)
  writing : Artifact.writeFinal reducer.work base stages.ended.shader stages.looped = .ok stages.artifact stages.written
  clearing : clearMarker reducer.work stages.written = .ok () stages.cleared

/-- The result that stages lead to. -/
def Stages.result (stages : Stages σ) (first : Int) : ReductionResult :=
  ⟨stages.ended.status, stages.ended.shader, stages.ended.isInitial, stages.artifact, first.toNat, stages.next,
    stages.ended.steps⟩

variable {reducer : Reducer σ} {base : String} {first limit : Int} {now : ReductionState} {world : World σ}

/-- The judgement of the starting shader leaves the state of the reduction alone. -/
theorem checkInitial_now {opened : World σ} {state : ReductionState}
    (success : reducer.checkInitial base (now, world) = .ok () (state, opened)) : state = now := by
  have checks := checkInitial_cases reducer base now world
  rw [success] at checks
  cases checks <;> rfl

/-- Stages lead to their result. -/
theorem Stages.Lead.reduce {stages : Stages σ} (lead : stages.Lead reducer base first limit now world) :
    ∃ message, reducer.reduce base first limit (now, world) =
      .ok (stages.result first) ({ stages.ended with status := .done }, stages.cleared.noting .info message) := by
  have low : ¬ first < 1 := Int.not_lt.mpr lead.positive
  have whole : (first.toNat : Int) = first := Int.toNat_of_nonneg (by omega)
  have run : reducer.runSteps base first.toNat limit (now, announced base first limit now stages.marked) =
      .ok (stages.next, stages.artifact) (stages.ended, stages.written) := by
    rw [runSteps, bind_of_ok lead.checking, whole, bind_of_ok lead.looping, bind_state, bind_act_of_ok lead.writing]
    rfl
  unfold Reducer.reduce
  simp only [low, ↓reduceIte]
  rw [bind_act_of_ok lead.marking, bind_state, bind_act_of_ok (Action.log_apply _ _ stages.marked)]
  change ∃ message, ((tryCatch (reducer.runSteps base first.toNat limit) _ >>= _)
    (now, announced base first limit now stages.marked)) = _
  rw [bind_of_ok (try_of_ok run _)]
  dsimp only
  rw [bind_state, bind_act_of_ok lead.clearing, bind_become, bind_act_of_ok (Action.log_apply _ _ stages.cleared)]
  exact ⟨_, rfl⟩

/-- A reduction that ends with a result has gone through stages that lead to it. -/
theorem exists_stages (running : now.status = .running) {result : ReductionResult} {left : ReductionState × World σ}
    (success : reducer.reduce base first limit (now, world) = .ok result left) :
    ∃ stages : Stages σ, stages.Lead reducer base first limit now world ∧ result = stages.result first ∧
      left.2.files = stages.cleared.files ∧ left.2.outside = stages.cleared.outside := by
  unfold reduce at success
  by_cases low : first < 1
  · simp only [low, ↓reduceIte] at success
    cases success
  simp only [low, ↓reduceIte] at success
  have positive : 1 ≤ first := Int.not_lt.mp low
  have whole : (first.toNat : Int) = first := Int.toNat_of_nonneg (by omega)
  cases marking : placeMarker reducer.work world with
  | error fault left =>
    rw [bind_act_of_error marking] at success
    cases success
  | ok _ marked =>
    rw [bind_act_of_ok marking, bind_state, bind_act_of_ok (Action.log_apply _ _ marked)] at success
    change ((tryCatch (reducer.runSteps base first.toNat limit) _ >>= _) (now, announced base first limit now marked)) = _
      at success
    cases run : reducer.runSteps base first.toNat limit (now, announced base first limit now marked) with
    | error fault left =>
      obtain ⟨_, _, tried, -⟩ := bind_ok success
      rw [try_of_error run] at tried
      cases tried
    | ok value after =>
      obtain ⟨next, artifact⟩ := value
      obtain ⟨ended, written⟩ := after
      rw [bind_of_ok (try_of_ok run _)] at success
      dsimp only at success
      rw [bind_state] at success
      cases clearing : clearMarker reducer.work written with
      | error fault left =>
        rw [bind_act_of_error clearing] at success
        cases success
      | ok _ cleared =>
        rw [bind_act_of_ok clearing, bind_become, bind_act_of_ok (Action.log_apply _ _ cleared)] at success
        cases success
        obtain ⟨_, ⟨opening, opened⟩, checking, rest⟩ := bind_ok run
        obtain rfl := checkInitial_now checking
        obtain ⟨_, ⟨ended', looped⟩, looping, rest⟩ := bind_ok rest
        rw [bind_state] at rest
        cases writing : Artifact.writeFinal reducer.work base ended'.shader looped with
        | error fault left =>
          rw [bind_act_of_error writing] at rest
          cases rest
        | ok artifact written =>
          rw [bind_act_of_ok writing] at rest
          cases rest
          exact ⟨⟨marked, opened, next, ended, looped, artifact, written, cleared⟩,
            ⟨positive, marking, checking, whole ▸ looping, writing, clearing⟩, rfl, rfl, rfl⟩

end Reducer

end ShaderShrink
