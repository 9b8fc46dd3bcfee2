import ShaderShrink.Proofs.Reduction.Abreast
import ShaderShrink.Proofs.Reduction.Exhaustion
import ShaderShrink.Proofs.Reduction.Stages

/-!
# Reductions that survive their oracle

A judge may need some means of its own for each judgement, such as files and numbers.  If these last for all steps, and the
judge answers or fails as an oracle does as long as they last, a reduction that tolerates oracle faults ends with a result.
-/

namespace ShaderShrink

open Effect Progress

variable {σ : Type}

namespace Progress

/-- Whether a place is neither in the scratch directory nor that of one of a reduction's own files. -/
def Elsewhere (work scratch : Path) (place : Place) : Prop :=
  ¬ scratch.parts <+: place ∧ ∀ name, IsOwn name → place ≠ work.place ++ [name]

variable {work scratch : Path} {world : World σ}

/-- The path of an own file visits nothing else but directories. -/
theorem clear_elsewhere {tree : FileTree} (standing : tree.Standing work) {name : String} (own : IsOwn name)
    (down : name ≠ "..") : tree.Clear (Elsewhere work scratch) (work.entry name) := by
  intro place elsewhere visited
  rcases (Path.mem_entry_visited work down).mp visited with way | rfl
  · exact standing place way
  · exact absurd rfl (elsewhere.2 name own)

/-- The path of a file in the scratch directory visits nothing else but directories. -/
theorem clear_elsewhere_scratch {tree : FileTree} (fits : scratch.Fits) (standing : tree.Standing scratch) {name : String}
    (down : name ≠ "..") : tree.Clear (Elsewhere work scratch) (scratch.entry name) := by
  intro place elsewhere visited
  rcases (Path.mem_entry_visited scratch down).mp visited with way | rfl
  · exact standing place way
  · exact absurd (fits.place ▸ List.prefix_append _ _) elsewhere.1

/-- The marker is placed without changing anything elsewhere. -/
theorem placeMarker_elsewhere {marked : World σ} (marking : placeMarker work world = .ok () marked) :
    World.Agrees (Elsewhere work scratch) world marked ∧ marked.nextJob = world.nextJob := by
  have standing := FileTree.standing_of_isDirectory (placeMarker_ok marking).1
  unfold placeMarker at marking
  rw [marker_eq] at marking
  refine ⟨after_ok marking ▸ Action.touch_agrees (clear_elsewhere standing (.inr rfl) markerName_ne), ?_⟩
  unfold Action.touch at marking
  rw [bind_of_ok (Action.files_apply world)] at marking
  split at marking
  · rw [(Action.changeFiles_ok marking).2]
  · cases marking
    rfl

end Progress

namespace Reducer

theorem Proposes.sameMetadata {now : ReductionState} {rejected : List String} {opportunity : Opportunity} {candidate : Shader}
    {context : Context} (proposes : Proposes now rejected opportunity candidate context) :
    candidate.metadata = now.shader.metadata := by
  obtain ⟨chosen, -, applied⟩ := proposes.applied
  exact (Opportunity.apply_ok applied).1

/-- Whether the means of a judge last: with the means for one more judgement it answers about a shader with some metadata,
or fails as an oracle does, and has the means for the others left.  What changes nothing elsewhere takes no means. -/
structure Tolerates (reducer : Reducer σ) (base : String) (scratch : Path) (metadata : Metadata)
    (means : Nat → World σ → Prop) : Prop where
  judges : ∀ {count : Nat} {candidate : Shader} {world : World σ}, world.scratch = scratch → world.files.Vacant scratch →
    candidate.metadata = metadata → means (count + 1) world →
    ∃ answer left, Answers reducer base candidate world answer left ∧ means count left
  keeps : ∀ {count : Nat} {before after : World σ}, means count before →
    World.Agrees (Elsewhere reducer.work scratch) before after → after.nextJob = before.nextJob → means count after
  lasts : ∀ {count : Nat} {world : World σ}, means (count + 1) world → means count world
  writable : ∀ {candidate : Shader}, candidate.metadata = metadata → candidate.Writable

/-- What holds at every position of a reduction that survives its oracle: the world is ready for the next step, the judge
has the means for all steps that are left, and all steps so far are recorded. -/
structure Surviving (reducer : Reducer σ) (base : String) (scratch : Path) (metadata : Metadata)
    (means : Nat → World σ → Prop) (first beyond : Nat) (p : Position σ) : Prop where
  ready : Ready reducer.work scratch [] p.world
  room : Room reducer.work base p.number beyond p.world.files
  least : first ≤ p.number
  metadata : p.state.shader.metadata = metadata
  means : means (beyond - p.number) p.world
  recorded : reducer.keepRejected = true →
    (p.state.steps.map fun record => record.number) = List.range' first (p.number - first)

variable {reducer : Reducer σ} {base : String} {scratch : Path} {metadata : Metadata} {means : Nat → World σ → Prop}
  {first beyond : Nat} {p : Position σ}

section Surviving

variable (tolerates : Tolerates reducer base scratch metadata means) (careful : Careful reducer base scratch)
  (sheltered : Sheltered reducer base scratch)

include tolerates careful sheltered

/-- Behind a step the world is ready for the next one. -/
theorem Surviving.next {opportunity : Opportunity} {candidate : Shader} {context : Context} {answer : Answer}
    {judged left : World σ} {records : List StepRecord} (surviving : Surviving reducer base scratch metadata means first beyond p)
    (below : p.number < beyond) (level : Level) (message : String)
    (proposes : Proposes p.state p.rejected opportunity candidate context)
    (answers : Answers reducer base candidate p.world answer judged)
    (recorded : Recorded reducer base opportunity.key p.number candidate answer judged records left) :
    Surviving reducer base scratch metadata means first beyond
      (behind p opportunity.key candidate context answer records (left.noting level message)) := by
  have same := proposes.sameMetadata.trans surviving.metadata
  obtain ⟨ready, only⟩ := recorded_ready careful sheltered surviving.ready answers recorded
  have count : beyond - p.number = beyond - (p.number + 1) + 1 := by omega
  obtain ⟨answer', judged', answers', means⟩ :=
    tolerates.judges surviving.ready.sameScratch surviving.ready.vacant same (count ▸ surviving.means)
  obtain rfl : judged' = judged := (answers_after answers').symm.trans (answers_after answers)
  obtain ⟨stands, agree⟩ :=
    Careful.recorded_agrees (surviving.ready.sameScratch ▸ careful) surviving.ready.stands answers recorded
  refine ⟨ready.noting level message, ?_, Nat.le_succ_of_le surviving.least, ?_, ?_, fun keeps => ?_⟩
  · exact (surviving.room.advance (Nat.le_succ p.number)).beside (agree.trans (World.agrees_noting _ left level message))
      fun name uses => uses.notStep
  · cases accepted : accepts answer with
    | true => simpa only [behind, accepted, ↓reduceIte] using same
    | false => simpa only [behind, accepted, Bool.false_eq_true, ↓reduceIte] using surviving.metadata
  · have still : World.Agrees (Elsewhere reducer.work scratch) judged' left := by
      cases recorded with
      | dropped _ => exact .refl _ _
      | written _ writing =>
        rw [Artifact.writeStep_eq] at writing
        have stands := (judge_ready careful sheltered (fun _ member => (List.not_mem_nil member).elim) surviving.ready
          candidate).2.stands
        rw [answers_after answers] at stands
        exact after_ok writing ▸ Artifact.write_agrees_of_clear _ candidate (Step.isName_fileStem careful.plain _ _)
          fun name member => clear_elsewhere (FileTree.standing_of_isDirectory stands) (Shader.isOwn_of_mem_fileNames member)
            (Shader.ne_of_mem_fileNames member)
    exact tolerates.keeps means (still.trans (World.agrees_noting _ left level message)) (by rw [only]; rfl)
  · have least := surviving.least
    have numbers : records.map (fun record => record.number) = [p.number] := by
      cases recorded with
      | dropped dropped =>
        unfold Reducer.keeps at dropped
        split at dropped
        · cases dropped.symm.trans keeps
        · cases dropped
      | written _ _ => rfl
    change (p.state.steps ++ records).map (fun record => record.number) = List.range' first (p.number + 1 - first)
    rw [List.map_append, surviving.recorded keeps, numbers, show p.number + 1 - first = p.number - first + 1 by omega,
      List.range'_concat]
    simp
    omega

/-- As long as there are means, no step fails. -/
theorem Surviving.not_error (surviving : Surviving reducer base scratch metadata means first beyond p)
    (below : p.number < beyond) (tolerant : reducer.stopOnError = false) {fault : Fault} {left : ReductionState × World σ} :
    ¬ Steps reducer base p (.error fault left) := by
  have count : beyond - p.number = beyond - (p.number + 1) + 1 := by omega
  have judges : ∀ {opportunity : Opportunity} {candidate : Shader} {context : Context},
      Proposes p.state p.rejected opportunity candidate context →
      ∃ answer judged, Answers reducer base candidate p.world answer judged := fun proposes => by
    obtain ⟨answer, judged, answers, -⟩ := tolerates.judges surviving.ready.sameScratch surviving.ready.vacant
      (proposes.sameMetadata.trans surviving.metadata) (count ▸ surviving.means)
    exact ⟨answer, judged, answers⟩
  intro steps
  cases steps with
  | unproposed _ _ offered unproposed =>
    obtain ⟨opportunity, candidate, context, proposes⟩ := exists_proposes offered
    exact unproposed opportunity candidate context proposes
  | crashed proposes failed other =>
    obtain ⟨answer, judged, answers⟩ := judges proposes
    rcases answer with oracle | value
    · obtain ⟨run, isOracle⟩ := answers
      cases failed.symm.trans run
      rw [other] at isOracle
      cases isOracle
    · exact absurd (failed.symm.trans answers) nofun
  | @unwritten opportunity candidate context answer _ judged _ proposes answers _ failed =>
    have agree := (judge_ready careful sheltered (fun _ member => (List.not_mem_nil member).elim) surviving.ready candidate).1
    rw [answers_after answers] at agree
    have room := surviving.room.beside (Own.beside agree : World.Agrees (Beside reducer.work []) p.world judged)
      fun _ _ => List.not_mem_nil
    obtain ⟨artifact, left, written⟩ := room.writeStep careful.plain below (outcomeOf answer)
      (tolerates.writable (proposes.sameMetadata.trans surviving.metadata))
    cases failed.symm.trans written
  | stopped _ _ _ stops => cases tolerant.symm.trans stops

/-- A loop for whose steps there are means ends without a fault. -/
theorem loop_returns {left : Nat} (surviving : Surviving reducer base scratch metadata means first (p.number + left) p)
    (tolerant : reducer.stopOnError = false) (running : p.state.status = .running) :
    ∃ q reason, reducer.loop base left p.number p.rejected (p.state, p.world) =
        .ok q.number ({ q.state with status := reason }, q.world) ∧
      (reason = .exhausted ∨ reason = .budgetReached) ∧
      Surviving reducer base scratch metadata means first (p.number + left) q := by
  induction left generalizing p with
  | zero =>
    refine ⟨p, .budgetReached, ?_, .inr rfl, surviving⟩
    rw [loop, bind_state]
    simp only [running, ↓reduceIte]
    rfl
  | succ left ih =>
    have below : p.number < p.number + (left + 1) := by omega
    have steps := step_cases reducer base p
    rw [loop, bind_state]
    simp only [running, ↓reduceIte]
    generalize run : reducer.step base p.number p.rejected (p.state, p.world) = result at steps
    cases result with
    | error fault after => exact absurd steps (surviving.not_error tolerates careful sheltered below tolerant)
    | ok rejected after =>
      cases steps with
      | exhausted closed =>
        refine ⟨p, .exhausted, ?_, .inl rfl, surviving⟩
        rw [bind_of_ok run, bind_state]
        rfl
      | moved level message proposes answers recorded _ =>
        have next := surviving.next tolerates careful sheltered below level message proposes answers recorded
        rw [show p.number + (left + 1) = p.number + 1 + left by omega] at next ⊢
        obtain ⟨q, reason, looping, reasons, surviving⟩ := @ih (behind p _ _ _ _ _ _) next running
        refine ⟨q, reason, ?_, reasons, surviving⟩
        rw [bind_of_ok run, bind_state, if_pos (show (behind p _ _ _ _ _ _).state.status = .running from running)]
        exact looping

/-- Behind the judgement of the starting shader the world is ready for the first step. -/
theorem Tolerates.opened {start limit : Int} {now : ReductionState} {world marked opened : World σ} {left : Nat}
    (same : world.scratch = scratch) (vacant : world.files.Vacant scratch)
    (room : Room reducer.work base first (first + left) world.files) (fresh : now.steps = [])
    (sound : now.shader.metadata = metadata) (enough : means (left + 1) world)
    (marking : placeMarker reducer.work world = .ok () marked)
    (checking : reducer.checkInitial base (now, announced base start limit now marked) = .ok () (now, opened)) :
    Surviving reducer base scratch metadata means first (first + left) ⟨first, [], now, opened⟩ := by
  obtain ⟨agree, unnumbered⟩ := @placeMarker_elsewhere σ reducer.work scratch world marked marking
  have enough : means (left + 1) (announced base start limit now marked) :=
    tolerates.keeps enough ⟨agree.scratch, agree.files⟩ unnumbered
  have ready : Ready reducer.work scratch [] world :=
    ⟨same, (placeMarker_ok marking).1, vacant, fun _ member => (List.not_mem_nil member).elim⟩
  have ready : Ready reducer.work scratch [] (announced base start limit now marked) :=
    (ready.placeMarker careful.apart marking).noting _ _
  obtain ⟨_, marking', room⟩ := room.placeMarker
  cases marking.symm.trans marking'
  have surviving : ∀ {opened : World σ}, Ready reducer.work scratch [] opened →
      Room reducer.work base first (first + left) opened.files → means left opened →
      Surviving reducer base scratch metadata means first (first + left) ⟨first, [], now, opened⟩ := fun ready room means =>
    ⟨ready, room, Nat.le_refl first, sound, by rwa [Nat.add_sub_cancel_left], fun _ => by simp [fresh]⟩
  have checks := checkInitial_cases reducer base now (announced base start limit now marked)
  rw [checking] at checks
  cases checks with
  | skipped _ => exact surviving ready room (tolerates.lasts enough)
  | passed message _ run =>
    obtain ⟨answer, judged, answers, means⟩ := tolerates.judges ready.sameScratch ready.vacant sound enough
    obtain ⟨agree, judgedReady⟩ := judge_ready careful sheltered (fun _ member => (List.not_mem_nil member).elim) ready now.shader
    obtain rfl := (answers_after answers).symm.trans (after_ok run)
    rw [after_ok run] at agree judgedReady
    have roomy : Room reducer.work base first (first + left) judged.files :=
      Room.beside (show Room _ _ _ _ (announced base start limit now marked).files from room)
        (Own.beside agree : World.Agrees (Beside reducer.work []) _ judged) fun _ _ => List.not_mem_nil
    exact surviving (judgedReady.noting _ _) roomy (tolerates.keeps means (World.agrees_noting _ _ _ _) rfl)

/-- A reduction with means for the starting shader and for all steps ends with a result, if it tolerates oracle faults, its
starting shader passes, and there is room for its files. -/
theorem Tolerates.reduce {start limit : Int} {now : ReductionState} {world : World σ} (same : world.scratch = scratch)
    (vacant : world.files.Vacant scratch) (positive : 1 ≤ start)
    (room : Room reducer.work base start.toNat (start.toNat + (limit + 1 - start).toNat) world.files)
    (tolerant : reducer.stopOnError = false) (running : now.status = .running) (fresh : now.steps = [])
    (sound : now.shader.metadata = metadata) (enough : means ((limit + 1 - start).toNat + 1) world)
    (passes : ∀ marked, placeMarker reducer.work world = .ok () marked →
      ∃ passed, reducer.checkInitial base (now, announced base start limit now marked) = .ok () passed) :
    ∃ result left, reducer.reduce base start limit (now, world) = .ok result left ∧
      (result.reason = .exhausted ∨ result.reason = .budgetReached) ∧
      (reducer.keepRejected = true →
        (result.steps.map fun record => record.number) = List.range' start.toNat (result.nextStep - start.toNat)) := by
  obtain ⟨marked, marking, -⟩ := room.placeMarker
  obtain ⟨⟨state, opened⟩, checking⟩ := passes marked marking
  obtain rfl := checkInitial_now checking
  have surviving := tolerates.opened careful sheltered same vacant room fresh sound enough marking checking
  obtain ⟨last, reason, looping, reasons, surviving⟩ :=
    @loop_returns σ reducer base scratch metadata means _ ⟨start.toNat, [], state, opened⟩ tolerates careful sheltered _
      surviving tolerant running
  obtain ⟨artifact, written, writing⟩ := surviving.room.writeFinal careful.plain (tolerates.writable surviving.metadata)
  obtain ⟨cleared, clearing⟩ := surviving.room.clearMarker careful.plain writing
  obtain ⟨message, run⟩ := (⟨positive, marking, checking, looping, writing, clearing⟩ :
    Stages.Lead ⟨marked, opened, last.number, _, last.world, artifact, written, cleared⟩ reducer base start limit state
      world).reduce
  exact ⟨_, _, run, reasons, surviving.recorded⟩

end Surviving

end Reducer

end ShaderShrink
