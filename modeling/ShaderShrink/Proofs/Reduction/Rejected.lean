import ShaderShrink.Proofs.Reduction.Exhaustion
import ShaderShrink.Proofs.Reduction.Lockstep

/-!
# What keeping rejected candidates changes

Whether rejected candidates are kept does not steer a reduction.  A reducer that keeps them and one that does not show
their judge the same candidates, come to the same positions, and end in the same way; they differ in nothing but the
failures that the one of them has recorded and written.
-/

namespace ShaderShrink

open Effect Progress

variable {σ : Type}

namespace Reducer

/-- Whether two results are the same, up to records that do not count. -/
structure SameResult (keep keep' : Bool) (a b : ReductionResult) : Prop where
  reason : b.reason = a.reason
  shader : b.shader = a.shader
  isInitial : b.isInitial = a.isInitial
  artifact : b.artifact = a.artifact
  firstStep : b.firstStep = a.firstStep
  nextStep : b.nextStep = a.nextStep
  steps : b.steps.filter (StepRecord.counts keep keep') = a.steps.filter (StepRecord.counts keep keep')

namespace Pairing.Fair

variable {pair : Pairing σ} (fair : pair.Fair) {first limit : Int} {world : World σ}
  (sameFirst : pair.first = first.toNat) (sameSteps : pair.left = (limit + 1 - first).toNat)
  (sameScratch : world.scratch = pair.scratch) (vacant : world.files.Vacant pair.scratch)
  (room : ∀ name ∈ pair.spareNames, world.files.Admits (pair.reducer.work.entry name))
include fair sameFirst sameSteps sameScratch vacant room

/-- Two reductions from one world end in the same way. -/
theorem reduce (positive : 1 ≤ first) (now : ReductionState) :
    Alongside (SameResult pair.keep pair.keep') (pair.Joined pair.Matching)
      ((pair.reducer.keeping pair.keep).reduce pair.base first limit (now, world))
      ((pair.reducer.keeping pair.keep').reduce pair.base first limit (now, world)) := by
  have still : ∀ world : World σ, pair.Joined pair.Matching (now, world) (now, world) :=
    fun world => ⟨.refl now, .refl _ _, rfl⟩
  unfold Reducer.reduce
  rw [keeping_work, keeping_work]
  simp only [Int.not_lt.mpr positive, ↓reduceIte]
  have whole : (first.toNat : Int) = first := Int.toNat_of_nonneg (by omega)
  cases marking : Progress.placeMarker pair.reducer.work world with
  | error fault left =>
    rw [bind_act_of_error marking, bind_act_of_error marking]
    exact .error fault (still left)
  | ok _ marked =>
    rw [bind_act_of_ok marking, bind_act_of_ok marking, bind_state, bind_state,
      bind_act_of_ok (Action.log_apply _ _ marked), bind_act_of_ok (Action.log_apply _ _ marked)]
    have begun : pair.Together (now, announced pair.base first limit now marked) (now, announced pair.base first limit now marked) :=
      fair.begins now sameScratch vacant room marking
    have steps := fair.runSteps (by rw [sameSteps, sameFirst, whole]) begun
    rw [sameFirst] at steps
    refine (steps.attempt (fun _ _ near => near) ?_).bind (fun _ _ near => Together.matching near) ?_
    · rintro fault ⟨s, a⟩ ⟨t, b⟩ together
      exact .error fault ⟨{ together.alike with status := rfl }, together.worlds⟩
    · rintro ⟨next, artifact⟩ _ ⟨s, a⟩ ⟨t, b⟩ rfl together
      dsimp only
      rw [bind_state, bind_state]
      refine (act_alongside together.alike (pair.clearMarker together.matching.worlds)).bind (fun _ _ near => near) ?_
      rintro _ _ ⟨s', a⟩ ⟨t', b⟩ - near
      rw [bind_become, bind_become, bind_act_of_ok (Action.log_apply _ _ a), bind_act_of_ok (Action.log_apply _ _ b)]
      refine .ok ?_ ⟨{ near.alike with status := rfl }, near.worlds.files, near.worlds.shown⟩
      exact ⟨together.alike.status, together.alike.shader, together.alike.isInitial, rfl, rfl, rfl, together.alike.steps⟩

/-- Two reductions from one world come to the same positions. -/
theorem course (now : ReductionState) :
    List.Forall₂ pair.InStep ((pair.reducer.keeping pair.keep).course pair.base first limit now world)
      ((pair.reducer.keeping pair.keep').course pair.base first limit now world) := by
  unfold Reducer.course
  rw [keeping_work, keeping_work]
  cases marking : Progress.placeMarker pair.reducer.work world with
  | error fault left => exact .nil
  | ok _ marked =>
    have begun : pair.Together (now, announced pair.base first limit now marked) (now, announced pair.base first limit now marked) :=
      fair.begins now sameScratch vacant room marking
    have checked := fair.checkInitial begun
    dsimp only
    generalize (pair.reducer.keeping pair.keep).checkInitial pair.base (now, announced pair.base first limit now marked) = result,
      (pair.reducer.keeping pair.keep').checkInitial pair.base (now, announced pair.base first limit now marked) = result'
      at checked
    cases checked with
    | error fault together => exact .nil
    | @ok _ _ after after' _ together =>
      obtain ⟨s, a⟩ := after
      obtain ⟨t, b⟩ := after'
      exact fair.positions (by rw [sameFirst]) (by rw [sameFirst, sameSteps]) ⟨rfl, rfl, together⟩

end Pairing.Fair

/-- Whether a reduction has come to the same place as another one: to the step with the same number, with the same shader,
the same random numbers ahead and the same opportunities rejected, after the judge was shown the same candidates. -/
structure SamePlace (shown : σ → List Shader) (p q : Position σ) : Prop where
  number : q.number = p.number
  rejected : q.rejected = p.rejected
  context : q.state.context = p.state.context
  shader : q.state.shader = p.state.shader
  shown : shown q.world.outside = shown p.world.outside

/-- Whether what two reductions have left behind differs in nothing but failures: in their records, and in their files in
the working directory. -/
structure SameButFailures (shown : σ → List Shader) (work : Path) (base : String) (s t : ReductionState × World σ) :
    Prop where
  shown : shown t.2.outside = shown s.2.outside
  shader : t.1.shader = s.1.shader
  steps : (t.1.steps.filter fun record => record.outcome != .failure) = s.1.steps.filter fun record => record.outcome != .failure
  files : ∀ name, IsOwn name → (∀ number, name ∉ Step.fileNames base number .failure) →
    t.2.files.lookup? (work.place ++ [name]) = s.2.files.lookup? (work.place ++ [name])

/-- Whether a reduction keeps rejected candidates does not steer it, if its judge depends on nothing but the candidates
that it has been shown, and if there is room for those that are kept: with and without them the judge is shown the same
candidates in the same order, the reduction goes through the same steps, ends with the same result or the same fault, and
leaves the same files, but for the failures that it has recorded. -/
theorem reduce_keeping (reducer : Reducer σ) (base : String) (first limit : Int) (now : ReductionState) (world : World σ)
    (shown : σ → List Shader) (answer : List Shader → Answer) (careful : Careful reducer base world.scratch)
    (sheltered : Sheltered reducer base world.scratch) (remembers : reducer.verdict.Remembers shown answer)
    (vacant : world.files.Vacant world.scratch)
    (room : ∀ number : Nat, first ≤ number → number ≤ limit → ∀ name ∈ Step.fileNames base number .failure,
      world.files.Admits (reducer.work.entry name)) :
    Alongside (SameResult true false) (SameButFailures shown reducer.work base)
      ((reducer.keeping true).reduce base first limit (now, world))
      ((reducer.keeping false).reduce base first limit (now, world)) ∧
    (1 ≤ first → List.Forall₂ (SamePlace shown) ((reducer.keeping true).course base first limit now world)
      ((reducer.keeping false).course base first limit now world)) := by
  by_cases low : first < 1
  · refine ⟨?_, fun positive => absurd low (Int.not_lt.mpr positive)⟩
    unfold reduce
    simp only [low, ↓reduceIte]
    exact .error _ ⟨rfl, rfl, rfl, fun _ _ _ => rfl⟩
  have positive : 1 ≤ first := Int.not_lt.mp low
  let pair : Pairing σ :=
    ⟨reducer, true, false, base, world.scratch, shown, answer, first.toNat, (limit + 1 - first).toNat⟩
  have fair : pair.Fair := ⟨careful, sheltered, remembers, fun _ => rfl⟩
  have room : ∀ name ∈ pair.spareNames, world.files.Admits (reducer.work.entry name) := by
    intro name member
    obtain ⟨-, number, least, below, file⟩ := Step.mem_spareNames.mp member
    change first.toNat ≤ number at least
    change number < first.toNat + (limit + 1 - first).toNat at below
    exact room number (by omega) (by omega) name file
  refine ⟨(fair.reduce rfl rfl rfl vacant room positive now).mono (fun _ _ same => same) fun s t near => ?_,
    fun _ => (fair.course rfl rfl rfl vacant room now).imp fun p q inStep => ?_⟩
  · refine ⟨near.worlds.shown.symm, near.alike.shader, near.alike.steps, fun name own apart => ?_⟩
    refine (near.worlds.files _ (.inr ⟨name, own, fun member => ?_, rfl⟩)).symm
    obtain ⟨-, number, -, -, file⟩ := Step.mem_spareNames.mp member
    exact apart number file
  · exact ⟨inStep.number, inStep.rejected, inStep.together.alike.context, inStep.together.alike.shader,
      inStep.together.worlds.shown.symm⟩

/-- A reducer whose judge wants a statement, and remembers what it has been shown. -/
def statementRemembered : Reducer (List Shader) where
  verdict candidate := do
    modify fun world => { world with outside := world.outside ++ [candidate.shader] }
    return candidate.shader.text.contains ';'
  work := ⟨"", ["work"]⟩
  keepRejected := true
  stopOnError := false

/-- The world with an empty working directory, in front of a judge that has been shown nothing. -/
def nothingShown : World (List Shader) := ⟨emptyDirectory.files, [], emptyDirectory.scratch, 0, []⟩

theorem statementRemembered_careful : Careful statementRemembered "s" nothingShown.scratch where
  plain := by decide
  apart := apart_of_ne (by decide) (by decide) (by decide) (by decide)
  spares _ _ world _ _ := ⟨rfl, .refl _ _⟩

theorem statementRemembered_sheltered : Sheltered statementRemembered "s" nothingShown.scratch where
  keepsWay _ _ world _ := ⟨rfl, .refl _ _⟩
  isName := by decide
  inside := by decide
  fits := by decide
  fitsFiles := by decide

theorem statementRemembered_remembers : statementRemembered.verdict.Remembers id fun shown =>
    .ok (shown.getLast?.any fun shader => shader.text.contains ';') where
  notes _ _ := rfl
  answers candidate world := by
    simp only [id, List.getLast?_concat, Option.any_some]
    rfl

/-- The statement is rejected with the second step, and only one of two reducers has kept it. -/
theorem reduce_keeping_statement :
    (∀ keep, (match (statementRemembered.keeping keep).reduce "s" 1 3 (blankLineAndStatement, nothingShown) with
      | .ok result _ => result.steps.map fun record => record.outcome
      | .error _ _ => []) = if keep then [.success, .failure] else [.success]) ∧
    Alongside (SameResult true false) (SameButFailures id statementRemembered.work "s")
      ((statementRemembered.keeping true).reduce "s" 1 3 (blankLineAndStatement, nothingShown))
      ((statementRemembered.keeping false).reduce "s" 1 3 (blankLineAndStatement, nothingShown)) := by
  refine ⟨by decide +kernel, (reduce_keeping statementRemembered "s" 1 3 blankLineAndStatement nothingShown id _
    statementRemembered_careful statementRemembered_sheltered statementRemembered_remembers vacant_emptyDirectory ?_).1⟩
  exact fun number least most name file => room_emptyDirectory name (.step (by omega) (by omega) file)

end Reducer

end ShaderShrink
