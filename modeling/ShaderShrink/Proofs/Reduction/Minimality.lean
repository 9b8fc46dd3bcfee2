import ShaderShrink.Proofs.Reduction.Exhaustion
import ShaderShrink.Proofs.Reduction.Trial

/-!
# Reductions that leave nothing to try

A reduction tries no opportunity twice on one shader, and one that has run out of opportunities has tried all of its
final shader in vain.  If its judge accepts everything, there are none to be found in the final shader, not even by
another reduction.
-/

namespace ShaderShrink

open Effect

variable {σ α β : Type}

/-! ## Judges that accept everything -/

/-- Whether an action never ends with the fault of an oracle. -/
def Action.AsksNone (action : Action σ α) : Prop :=
  ∀ world fault left, action world = .error fault left → fault.isOracle = false

namespace Action.AsksNone

theorem ofPure (value : α) : AsksNone (pure value : Action σ α) := fun _ _ _ failed => nomatch failed

theorem bind {action : Action σ α} {next : α → Action σ β} (first : AsksNone action) (rest : ∀ value, AsksNone (next value)) :
    AsksNone (action >>= next) := by
  intro world fault left failed
  rcases bind_error failed with failed | ⟨value, middle, -, failed⟩
  · exact first world fault left failed
  · exact rest value middle fault left failed

theorem changeFiles (path : Path) (edit : FileTree → Except SystemFailure FileTree) :
    AsksNone (Action.changeFiles path edit : Action σ Unit) := by
  intro world fault left failed
  rw [changeFiles_apply] at failed
  split at failed
  · cases failed
  · rename_i failure _
    cases failed
    cases failure <;> rfl

theorem withName (path : Path) (name : String) : AsksNone (Action.ofExcept (path.withName name) : Action σ Path) := by
  intro world fault left failed
  unfold Path.withName at failed
  split at failed
  · cases failed
    rfl
  · cases failed

theorem writeJson (path : Path) (value : Json) : AsksNone (Action.writeJson path value : Action σ Unit) := by
  refine (changeFiles path.parent _).bind fun _ => ?_
  cases value.indented? with
  | none => exact fun _ _ _ failed => by cases failed; rfl
  | some document => exact changeFiles path _

theorem store (shader : Shader) (stem : Path) : AsksNone (shader.store stem : Action σ Path) := by
  refine (withName _ _).bind fun path => (changeFiles _ _).bind fun _ => (changeFiles _ _).bind fun _ => ?_
  exact (withName _ _).bind fun sidecar => (writeJson _ _).bind fun _ => ofPure path

theorem withScratch {act : Path → Action σ α} (inside : ∀ path, AsksNone (act path)) : AsksNone (Action.withScratch act) := by
  refine bind (fun _ _ _ failed => nomatch failed) fun world => (changeFiles _ _).bind fun _ => ?_
  refine bind (fun before fault left failed => ?_) fun value => bind (fun _ _ _ failed => nomatch failed) fun _ => ofPure value
  cases run : act world.scratch before with
  | ok value middle =>
    rw [try_of_ok run] at failed
    cases failed
  | error fault' middle =>
    rw [try_of_error run] at failed
    cases failed
    exact inside _ _ _ _ run

end Action.AsksNone

namespace Reducer

variable {reducer : Reducer σ} {base : String} {first limit : Int} {now : ReductionState} {world : World σ}
  {dispatcher : Dispatcher σ} {p : Position σ} {trial : Trial}

/-- The trials of a course are those of its loop. -/
theorem filterMap_positions {left : Nat} (enough : (p.number : Int) + left = limit + 1 ∨ left = 0 ∧ limit < p.number) :
    ((reducer.positions base left p).filter fun p => p.number ≤ limit).filterMap (reducer.trial? base) =
      reducer.trialsFrom base left p := by
  induction left generalizing p with
  | zero =>
    have beyond : ¬ (p.number : Int) ≤ limit := by omega
    rw [positions, List.filter_cons_of_neg (by simpa using beyond)]
    rfl
  | succ left ih =>
    have within : (p.number : Int) ≤ limit := by omega
    rw [positions, trialsFrom, List.filter_cons_of_pos (by simpa using within)]
    cases stepped : reducer.next? base p with
    | none => cases tried : reducer.trial? base p <;> simp [tried]
    | some q =>
      obtain ⟨trial, context, records, world, here, -, -, rfl⟩ := exists_trial stepped
      rw [List.filterMap_cons_some here, here, Option.toList_some, List.singleton_append]
      exact congrArg (trial :: ·) (ih (by simp only [behind]; omega))

theorem trials_cases (reducer : Reducer σ) (base : String) (positive : 1 ≤ first) (limit : Int) (now : ReductionState)
    (world : World σ) :
    reducer.course base first limit now world = [] ∧ reducer.trials base first limit now world = [] ∨ ∃ opened,
      reducer.course base first limit now world =
          reducer.positions base (limit + 1 - first).toNat ⟨first.toNat, [], now, opened⟩ ∧
        reducer.trials base first limit now world =
          reducer.trialsFrom base (limit + 1 - first).toNat ⟨first.toNat, [], now, opened⟩ := by
  unfold trials
  rcases course_cases reducer base first limit now world with none | ⟨opened, course⟩
  · rw [none]
    exact .inl ⟨rfl, rfl⟩
  · rw [course]
    refine .inr ⟨opened, rfl, filterMap_positions ?_⟩
    dsimp only
    omega

/-- Why a reduction ended, if it did so without a fault. -/
def reasonOf : EStateM.Result Fault (ReductionState × World σ) ReductionResult → Option ReductionStatus
  | .ok result _ => some result.reason
  | .error _ _ => none

theorem exists_of_reasonOf {result : EStateM.Result Fault (ReductionState × World σ) ReductionResult}
    {status : ReductionStatus} (ends : reasonOf result = some status) :
    ∃ ended left, result = .ok ended left ∧ ended.reason = status := by
  cases result with
  | ok ended left => exact ⟨ended, left, rfl, Option.some.inj ends⟩
  | error fault left => cases ends

private theorem reduce_ok {result : ReductionResult} {left : ReductionState × World σ} (running : now.status = .running)
    (success : reducer.reduce base first limit (now, world) = .ok result left) :
    ∃ last, (reducer.course base first limit now world).getLast? = some last ∧
      Stops last (first.toNat + (limit + 1 - first).toNat) result.reason ∧ result.shader = last.state.shader ∧
      result.steps = last.state.steps ∧ result.firstStep = first.toNat ∧ result.nextStep = last.number := by
  have reduces := reduce_cases reducer base first limit world running
  rw [success] at reduces
  cases reduces with
  | finished _ _ isLast _ _ _ stops => exact ⟨_, isLast, stops, rfl, rfl, rfl, rfl⟩

/-- A reduction that keeps rejected candidates leaves a record of every trial. -/
theorem reduce_records_trials (positive : 1 ≤ first) (running : now.status = .running) (keeps : reducer.keepRejected = true)
    {result : ReductionResult} {left : ReductionState × World σ}
    (success : reducer.reduce base first limit (now, world) = .ok result left) :
    result.steps.map (fun record => (record.outcome, record.opportunity)) =
      now.steps.map (fun record => (record.outcome, record.opportunity)) ++
        (reducer.trials base first limit now world).map fun trial => (outcomeOf trial.answer, trial.opportunity.key) := by
  obtain ⟨last, isLast, stops, -, steps, -, -⟩ := reduce_ok running success
  rcases trials_cases reducer base positive limit now world with ⟨noCourse, -⟩ | ⟨opened, course, trials⟩
  · rw [noCourse] at isLast
    cases isLast
  · rw [course] at isLast
    rw [steps, trials]
    exact records_tell_trials keeps isLast stops

end Reducer

end ShaderShrink
