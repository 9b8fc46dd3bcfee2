import ShaderShrink.Proofs.Reduction.Secured

/-!
# Reductions that a judgement aborts

A judgement can end a reduction with a fault: that of the starting shader, that of a candidate if the fault is no
oracle's, and that of a candidate with a fault of an oracle if the reduction was told to stop at that.  In all of
these cases the working directory secures the shader that the reduction has by then.
-/

namespace ShaderShrink

open Effect
open Progress (Found Secures)

variable {σ : Type}

/-- Whether a reduction may go on in a working directory from a shader: the marker stands, and the shader is
secured. -/
structure Resumable (work : Path) (base : String) (begun : Shader → Prop) (metadata : Metadata) (scratch : Path)
    (current : Shader) (world : World σ) : Prop where
  directory : world.files.isDirectory work = true
  sameScratch : world.scratch = scratch
  marked : Progress.hasMarker world.files work = true
  metadata : current.metadata = metadata
  secures : Secures world.files work base begun current

/-- Changing files that belong to no step, and are not the marker, leaves the reduction resumable. -/
theorem Resumable.beside {work scratch : Path} {base : String} {begun : Shader → Prop} {metadata : Metadata}
    {current : Shader} {a b : World σ} {names : List String}
    (resumable : Resumable work base begun metadata scratch current a) (plain : '/' ∉ base.toList)
    (agree : World.Agrees (Progress.Beside work names) a b) (unrelated : Step.Unrelated base names)
    (other : Progress.markerName ∉ names) : Resumable work base begun metadata scratch current b where
  directory := (agree.isDirectory fun _ => .inl).trans resumable.directory
  sameScratch := agree.scratch.trans resumable.sameScratch
  marked := (Progress.hasMarker_of_beside agree other).trans resumable.marked
  metadata := resumable.metadata
  secures := resumable.secures.beside plain resumable.directory agree unrelated

/-- The same if none of the reduction's own files changes. -/
theorem Resumable.own {work scratch : Path} {base : String} {begun : Shader → Prop} {metadata : Metadata}
    {current : Shader} {a b : World σ} (resumable : Resumable work base begun metadata scratch current a)
    (plain : '/' ∉ base.toList) (agree : World.Agrees (Progress.Own work) a b) :
    Resumable work base begun metadata scratch current b :=
  resumable.beside plain (Progress.Own.beside agree : World.Agrees (Progress.Beside work []) a b)
    (fun _ member => nomatch member) List.not_mem_nil

namespace Reducer

/-- How a judgement ends a reduction with a fault, and the shader that the reduction has by then. -/
inductive Aborts (reducer : Reducer σ) (base : String) (first limit : Int) (now : ReductionState) (world : World σ) :
    Shader → EStateM.Result Fault (ReductionState × World σ) ReductionResult → Prop
  /-- The judgement of the starting shader fails. -/
  | initial {fault : Fault} {marked left : World σ} : now.isInitial = true →
      Progress.placeMarker reducer.work world = .ok () marked →
      reducer.judge base now.shader (announced base first limit now marked) = .error fault left →
      Aborts reducer base first limit now world now.shader (.error fault ({ now with status := .fatal }, left))
  /-- The judgement of a candidate fails, and not for want of an oracle. -/
  | crashed {last : Position σ} {opportunity : Opportunity} {candidate : Shader} {context : Context} {fault : Fault}
      {left : World σ} : (reducer.course base first limit now world).getLast? = some last →
      Proposes last.state last.rejected opportunity candidate context →
      reducer.judge base candidate last.world = .error fault left → fault.isOracle = false →
      Aborts reducer base first limit now world last.state.shader
        (.error fault ({ last.state with context := context, status := .fatal }, left))
  /-- An oracle fails, and the reduction was told to stop at that. -/
  | stopped {last : Position σ} {opportunity : Opportunity} {candidate : Shader} {context : Context} {fault : Fault}
      {judged left : World σ} {records : List StepRecord} :
      (reducer.course base first limit now world).getLast? = some last →
      Proposes last.state last.rejected opportunity candidate context →
      Answers reducer base candidate last.world (.error fault) judged →
      Recorded reducer base opportunity.key last.number candidate (.error fault) judged records left →
      reducer.stopOnError = true →
      Aborts reducer base first limit now world last.state.shader
        (.error (.fatal (stepText last.number ++ ": " ++ fault.text))
          ({ (behind last opportunity.key candidate context (.error fault) records left).state with status := .fatal },
            left))

variable {reducer : Reducer σ} {base : String} {first limit : Int} {now : ReductionState} {world : World σ}
  {begun : Shader → Prop} {current : Shader}
  {result : EStateM.Result Fault (ReductionState × World σ) ReductionResult}

/-- The shader that an aborted reduction has is the one in the state that it leaves. -/
theorem Aborts.state (aborts : Aborts reducer base first limit now world current result) :
    ∃ fault state left, result = .error fault (state, left) ∧ state.shader = current := by
  cases aborts with
  | initial _ _ _ => exact ⟨_, _, _, rfl, rfl⟩
  | crashed _ _ _ _ => exact ⟨_, _, _, rfl, rfl⟩
  | stopped _ _ _ _ _ => exact ⟨_, _, _, rfl, rfl⟩

/-- A reduction that was aborted may go on from its present shader. -/
theorem Aborts.resumable (aborts : Aborts reducer base first limit now world current result)
    (careful : Careful reducer base world.scratch) (directory : world.files.isDirectory reducer.work = true)
    (below : ∀ step, Found world.files reducer.work base step → step.number < first.toNat)
    (secures : Secures world.files reducer.work base begun now.shader)
    (readsBack : Metadata.ReadsBack now.shader.metadata) :
    Resumable reducer.work base begun now.shader.metadata world.scratch current (leaves result).2 := by
  have secured := fun last (isLast : (reducer.course base first limit now world).getLast? = some last) =>
    secured_of_mem careful directory below secures readsBack (List.mem_of_getLast? isLast)
  cases aborts with
  | initial isInitial marking failed =>
    obtain ⟨agree, still⟩ := careful.opened_agrees marking (.failed isInitial failed)
    refine ⟨(agree.isDirectory fun _ => .inl).trans directory, agree.scratch, ?_, rfl, ?_⟩
    · exact (Progress.hasMarker_of_own still).trans
        (Progress.placeMarker_ok marking).2
    · exact secures.beside careful.plain directory agree (Step.unrelated_markerName base)
  | @crashed last _ candidate _ _ left isLast proposes failed other =>
    have secured := secured last isLast
    have careful : Careful reducer base last.world.scratch := secured.sameScratch.symm ▸ careful
    have agree : World.Agrees (Progress.Beside reducer.work []) last.world left :=
      Progress.Own.beside (after_error failed ▸ careful.judge_agrees secured.directory candidate)
    refine ⟨(agree.isDirectory fun _ => .inl).trans secured.directory, agree.scratch.trans secured.sameScratch, ?_,
      secured.metadata, ?_⟩
    · exact (Progress.hasMarker_of_beside agree List.not_mem_nil).trans secured.marked
    · exact secured.secures.beside careful.plain secured.directory agree fun _ member => nomatch member
  | @stopped last _ _ _ _ _ left _ isLast proposes answers recorded stop =>
    have secured := secured last isLast
    have agree := (Careful.recorded_agrees (secured.sameScratch.symm ▸ careful) secured.directory answers recorded).2
    refine ⟨(agree.isDirectory fun _ => .inl).trans secured.directory, agree.scratch.trans secured.sameScratch, ?_,
      secured.metadata, secured.declined careful answers recorded rfl⟩
    exact (Progress.hasMarker_of_beside agree fun member =>
      Shader.notMarker_of_mem_fileNames member (List.mem_singleton_self _)).trans secured.marked

end Reducer

end ShaderShrink
