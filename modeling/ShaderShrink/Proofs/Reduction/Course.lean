import ShaderShrink.Proofs.Reduction.Position

/-!
# The course of a reduction

A reduction places the marker, has the starting shader judged, runs through the positions of its loop,
writes the final shader and clears the marker.  `Reduces` has one case for each of the ways in which this
can end; the course of a reduction is the list of all positions that it comes to.
-/

namespace ShaderShrink

open Effect

variable {σ : Type}

namespace Reducer

/-- How the judgement of the starting shader can end. -/
inductive Checks (reducer : Reducer σ) (base : String) (now : ReductionState) (world : World σ) :
    EStateM.Result Fault (ReductionState × World σ) Unit → Prop
  /-- The present shader is not a starting one. -/
  | skipped : now.isInitial = false → Checks reducer base now world (.ok () (now, world))
  /-- The starting shader is interesting. -/
  | passed {judged : World σ} (message : String) : now.isInitial = true →
      reducer.judge base now.shader world = .ok true judged →
      Checks reducer base now world (.ok () (now, judged.noting .info message))
  /-- The starting shader is not interesting. -/
  | refused {judged : World σ} (message : String) : now.isInitial = true →
      reducer.judge base now.shader world = .ok false judged →
      Checks reducer base now world (.error (.notInteresting message) (now, judged))
  /-- The judgement fails. -/
  | failed {fault : Fault} {judged : World σ} : now.isInitial = true →
      reducer.judge base now.shader world = .error fault judged →
      Checks reducer base now world (.error fault (now, judged))

theorem checkInitial_cases (reducer : Reducer σ) (base : String) (now : ReductionState) (world : World σ) :
    Checks reducer base now world (reducer.checkInitial base (now, world)) := by
  unfold checkInitial
  rw [bind_state]
  cases initial : now.isInitial with
  | false => exact .skipped initial
  | true =>
    simp only [↓reduceIte]
    cases run : reducer.judge base now.shader world with
    | error fault judged =>
      rw [bind_act_of_error run]
      exact .failed initial run
    | ok interesting judged =>
      rw [bind_act_of_ok run]
      cases interesting with
      | true => exact .passed _ initial run
      | false => exact .refused _ initial run

private theorem checks_state {reducer : Reducer σ} {base : String} {now : ReductionState}
    {world : World σ} {result : EStateM.Result Fault (ReductionState × World σ) Unit}
    (checks : Checks reducer base now world result) :
    (∃ opened, result = .ok () (now, opened)) ∨ ∃ fault left, result = .error fault (now, left) := by
  cases checks with
  | skipped _ | passed _ _ _ => exact .inl ⟨_, rfl⟩
  | refused _ _ _ | failed _ _ => exact .inr ⟨_, _, rfl⟩

/-- What a reduction says when it begins. -/
def announcement (base : String) (first limit seed : Int) : String :=
  "reducing " ++ base ++ " from step " ++ toString first ++ " (limit " ++ toString limit ++ ", seed " ++
    toString seed ++ ")"

/-- The world in which the starting shader is judged, once the marker stands. -/
def announced (base : String) (first limit : Int) (now : ReductionState) (marked : World σ) : World σ :=
  marked.noting .info (announcement base first limit now.context.random.seed)

/-- The positions that a reduction comes to. -/
def course (reducer : Reducer σ) (base : String) (first limit : Int) (now : ReductionState)
    (world : World σ) : List (Position σ) :=
  match Progress.placeMarker reducer.work world with
  | .error _ _ => []
  | .ok () marked =>
    match reducer.checkInitial base (now, announced base first limit now marked) with
    | .error _ _ => []
    | .ok () (now, world) => reducer.positions base (limit + 1 - first).toNat ⟨first.toNat, [], now, world⟩

/-- What holds when the loop begins and is kept by every step holds in the whole course. -/
theorem course_induction {reducer : Reducer σ} {base : String} {first limit : Int} {now : ReductionState}
    {world : World σ} {holds : Position σ → Prop}
    (begins : ∀ marked opened, Progress.placeMarker reducer.work world = .ok () marked →
      Checks reducer base now (announced base first limit now marked) (.ok () (now, opened)) →
      holds ⟨first.toNat, [], now, opened⟩)
    (step : ∀ p ∈ reducer.course base first limit now world, ∀ q, reducer.next? base p = some q →
      holds p → holds q)
    {p : Position σ} (member : p ∈ reducer.course base first limit now world) : holds p := by
  unfold course at step member
  cases marking : Progress.placeMarker reducer.work world with
  | error fault left => rw [marking] at member; cases member
  | ok _ marked =>
    rw [marking] at step member
    have checks := checkInitial_cases reducer base now (announced base first limit now marked)
    dsimp only at step member
    rcases checks_state checks with ⟨opened, check⟩ | ⟨fault, left, check⟩
    · rw [check] at step member checks
      exact positions_induction (begins marked opened marking checks) step member
    · rw [check] at member
      cases member

/-- The course begins where the starting shader has passed. -/
theorem course_head {reducer : Reducer σ} {base : String} {first limit : Int} {now : ReductionState}
    {world : World σ} {p : Position σ} (head : (reducer.course base first limit now world).head? = some p) :
    ∃ marked opened, Progress.placeMarker reducer.work world = .ok () marked ∧
      Checks reducer base now (announced base first limit now marked) (.ok () (now, opened)) ∧
      p = ⟨first.toNat, [], now, opened⟩ := by
  unfold course at head
  cases marking : Progress.placeMarker reducer.work world with
  | error fault left => rw [marking] at head; cases head
  | ok _ marked =>
    rw [marking] at head
    have checks := checkInitial_cases reducer base now (announced base first limit now marked)
    dsimp only at head
    rcases checks_state checks with ⟨opened, check⟩ | ⟨fault, left, check⟩
    · rw [check] at head checks
      refine ⟨marked, opened, rfl, checks, ?_⟩
      dsimp only at head
      rw [positions_head] at head
      exact (Option.some.inj head).symm
    · rw [check] at head
      cases head

/-- A course is empty, or it is that of the loop. -/
theorem course_cases (reducer : Reducer σ) (base : String) (first limit : Int) (now : ReductionState) (world : World σ) :
    reducer.course base first limit now world = [] ∨ ∃ opened,
      reducer.course base first limit now world =
        reducer.positions base (limit + 1 - first).toNat ⟨first.toNat, [], now, opened⟩ := by
  unfold course
  cases marking : Progress.placeMarker reducer.work world with
  | error fault left => exact .inl rfl
  | ok _ marked =>
    have checks := checkInitial_cases reducer base now (announced base first limit now marked)
    dsimp only
    rcases checks_state checks with ⟨opened, check⟩ | ⟨fault, left, check⟩
    · exact .inr ⟨opened, by rw [check]⟩
    · exact .inl (by rw [check])

/-- The positions of a course follow each other by single steps. -/
theorem course_chain {reducer : Reducer σ} {base : String} {first limit : Int} {now : ReductionState}
    {world : World σ} {leads : Position σ → Position σ → Prop}
    (step : ∀ p ∈ reducer.course base first limit now world, ∀ q, reducer.next? base p = some q → leads p q) :
    List.IsChain leads (reducer.course base first limit now world) := by
  unfold course at step ⊢
  cases marking : Progress.placeMarker reducer.work world with
  | error fault left => exact .nil
  | ok _ marked =>
    rw [marking] at step
    dsimp only at step ⊢
    cases check : reducer.checkInitial base (now, announced base first limit now marked) with
    | error fault left => exact .nil
    | ok _ opened =>
      rw [check] at step
      exact positions_chain step

/-- All ways in which a reduction can end. -/
inductive Reduces (reducer : Reducer σ) (base : String) (first limit : Int) (now : ReductionState)
    (world : World σ) : EStateM.Result Fault (ReductionState × World σ) ReductionResult → Prop
  /-- There is no step to begin with. -/
  | refused (message : String) : first < 1 →
      Reduces reducer base first limit now world (.error (.value message) (now, world))
  /-- The marker cannot be placed. -/
  | unmarked {fault : Fault} {left : World σ} : reducer.course base first limit now world = [] →
      Progress.placeMarker reducer.work world = .error fault left →
      Reduces reducer base first limit now world (.error fault (now, left))
  /-- The starting shader does not pass. -/
  | unchecked {fault : Fault} {marked left : World σ} : reducer.course base first limit now world = [] →
      Progress.placeMarker reducer.work world = .ok () marked →
      Checks reducer base now (announced base first limit now marked) (.error fault (now, left)) →
      Reduces reducer base first limit now world (.error fault ({ now with status := .fatal }, left))
  /-- A step fails. -/
  | crashed {last : Position σ} {fault : Fault} {state : ReductionState} {left : World σ} :
      (reducer.course base first limit now world).getLast? = some last →
      Steps reducer base last (.error fault (state, left)) →
      Reduces reducer base first limit now world (.error fault ({ state with status := .fatal }, left))
  /-- The final shader cannot be written. -/
  | unwritten {last : Position σ} {fault : Fault} {left : World σ} :
      (reducer.course base first limit now world).getLast? = some last →
      Artifact.writeFinal reducer.work base last.state.shader last.world = .error fault left →
      Reduces reducer base first limit now world (.error fault ({ last.state with status := .fatal }, left))
  /-- The marker cannot be cleared. -/
  | uncleared {last : Position σ} {artifact : Artifact} {fault : Fault} {written left : World σ}
      (status : ReductionStatus) : (reducer.course base first limit now world).getLast? = some last →
      Artifact.writeFinal reducer.work base last.state.shader last.world = .ok artifact written →
      Progress.clearMarker reducer.work written = .error fault left →
      Reduces reducer base first limit now world (.error fault ({ last.state with status := status }, left))
  /-- The reduction ends with a final shader. -/
  | finished {last : Position σ} {artifact : Artifact} {written cleared : World σ}
      (status : ReductionStatus) (message : String) : (reducer.course base first limit now world).getLast? = some last →
      Artifact.writeFinal reducer.work base last.state.shader last.world = .ok artifact written →
      Progress.clearMarker reducer.work written = .ok () cleared → 1 ≤ first →
      Stops last (first.toNat + (limit + 1 - first).toNat) status →
      Reduces reducer base first limit now world
        (.ok ⟨status, last.state.shader, last.state.isInitial, artifact, first.toNat, last.number,
            last.state.steps⟩
          ({ last.state with status := .done }, cleared.noting .info message))

private theorem try_runSteps_of_error {reducer : Reducer σ} {base : String} {first : Nat} {limit : Int}
    {now left : ReductionState} {world world' : World σ} {fault : Fault}
    (failed : reducer.runSteps base first limit (now, world) = .error fault (left, world')) :
    (tryCatch (reducer.runSteps base first limit) fun fault => do
        become .fatal
        throw fault) (now, world) = .error fault ({ left with status := .fatal }, world') := by
  rw [try_of_error failed]
  rfl

/-- A reduction ends in one of the ways in which it can end. -/
theorem reduce_cases (reducer : Reducer σ) (base : String) (first limit : Int) {now : ReductionState}
    (world : World σ) (running : now.status = .running) :
    Reduces reducer base first limit now world (reducer.reduce base first limit (now, world)) := by
  unfold reduce
  by_cases low : first < 1
  · simp only [low, ↓reduceIte]
    exact .refused _ low
  simp only [low, ↓reduceIte]
  have whole : (first.toNat : Int) = first := Int.toNat_of_nonneg (by omega)
  cases marking : Progress.placeMarker reducer.work world with
  | error fault left =>
    rw [bind_act_of_error marking]
    exact .unmarked (by simp only [course, marking]) marking
  | ok _ marked =>
    rw [bind_act_of_ok marking, bind_state, bind_act_of_ok (Action.log_apply _ _ marked)]
    change Reduces reducer base first limit now world
      ((tryCatch (reducer.runSteps base first.toNat limit) _ >>= _) (now, announced base first limit now marked))
    have checks := checkInitial_cases reducer base now (announced base first limit now marked)
    rcases checks_state checks with ⟨opened, check⟩ | ⟨fault, left, check⟩
    · have listed : reducer.course base first limit now world =
          reducer.positions base (limit + 1 - first).toNat ⟨first.toNat, [], now, opened⟩ := by
        simp only [course, marking, check]
      obtain ⟨last, isLast, ends⟩ := @loop_ends σ reducer base (limit + 1 - first).toNat
        ⟨first.toNat, [], now, opened⟩ running
      rw [← listed] at isLast
      dsimp only at ends
      generalize looped : reducer.loop base (limit + 1 - first).toNat first.toNat [] (now, opened) = result at ends
      rw [show (limit + 1 - first).toNat = (limit + 1 - (first.toNat : Int)).toNat by rw [whole]] at looped
      cases ends with
      | @failed fault after stepped =>
        obtain ⟨state, left⟩ := after
        have failed : reducer.runSteps base first.toNat limit (now, announced base first limit now marked) =
            .error fault (state, left) := by
          rw [runSteps, bind_of_ok check, bind_of_error looped]
        rw [bind_of_error (try_runSteps_of_error failed)]
        exact .crashed isLast (stepped ▸ step_cases reducer base last)
      | finished status stops =>
        cases writing : Artifact.writeFinal reducer.work base last.state.shader last.world with
        | error fault left =>
          have failed : reducer.runSteps base first.toNat limit (now, announced base first limit now marked) =
              .error fault ({ last.state with status := status }, left) := by
            rw [runSteps, bind_of_ok check, bind_of_ok looped, bind_state, bind_act_of_error writing]
          rw [bind_of_error (try_runSteps_of_error failed)]
          exact .unwritten isLast writing
        | ok artifact written =>
          have success : reducer.runSteps base first.toNat limit (now, announced base first limit now marked) =
              .ok (last.number, artifact) ({ last.state with status := status }, written) := by
            rw [runSteps, bind_of_ok check, bind_of_ok looped, bind_state, bind_act_of_ok writing]
            rfl
          rw [bind_of_ok (try_of_ok success _)]
          dsimp only
          rw [bind_state]
          cases clearing : Progress.clearMarker reducer.work written with
          | error fault left =>
            rw [bind_act_of_error clearing]
            exact .uncleared status isLast writing clearing
          | ok _ cleared =>
            rw [bind_act_of_ok clearing, bind_become, bind_act_of_ok (Action.log_apply _ _ cleared)]
            exact .finished status _ isLast writing clearing (by omega) stops
    · have listed : reducer.course base first limit now world = [] := by simp only [course, marking, check]
      rw [check] at checks
      have failed : reducer.runSteps base first.toNat limit (now, announced base first limit now marked) =
          .error fault (now, left) := bind_of_error check _
      rw [bind_of_error (try_runSteps_of_error failed)]
      exact .unchecked listed marking checks

end Reducer

end ShaderShrink
