import ShaderShrink.Proofs.Opportunity.Candidate
import ShaderShrink.Proofs.Reduction.Onward
import ShaderShrink.Proofs.Shader.Restored

/-!
# Progress that is secured

The steps in a working directory secure the present shader of a reduction: it can be read from the latest
accepted step, or there is none and it is one to begin with.  Every step of a reduction keeps this, and so does
a judgement that ends the reduction.
-/

namespace ShaderShrink

open Effect
open Text (Returnless)

variable {σ : Type} {work scratch : Path} {base : String} {begun : Shader → Prop}
  {metadata : Metadata} {shader candidate : Shader}

namespace Progress

/-- Whether the steps in a working directory secure a shader: it is that of the latest accepted step, or one to
begin with if no step was accepted. -/
structure Secures (tree : FileTree) (work : Path) (base : String) (begun : Shader → Prop) (shader : Shader) : Prop where
  unmoved : latestSuccess? tree work base = none → begun shader
  latest : ∀ number, latestSuccess? tree work base = some number →
    shader.Restorable tree (work.entry (Step.fileName base number .success))

variable {a b : World σ} {number : Nat}

private theorem restorable_of_beside {names : List String} (plain : '/' ∉ base.toList)
    (restorable : shader.Restorable a.files (work.entry (Step.fileName base number .success)))
    (agree : World.Agrees (Beside work names) a b) (other : ∀ name ∈ Step.fileNames base number .success, name ∉ names) :
    shader.Restorable b.files (work.entry (Step.fileName base number .success)) :=
  restorable.of_agreeOn (Shader.agreeOn_sight (Step.isName_fileStem plain number _).ne_empty agree other)

/-- The latest accepted step is found by its number. -/
theorem exists_of_latestSuccess? {tree : FileTree} (latest : latestSuccess? tree work base = some number) :
    ∃ step, Found tree work base step ∧ step.outcome = .success ∧ step.number = number := by
  obtain ⟨⟨step, member, success, same⟩, -⟩ := latestSuccess?_eq_some.mp latest
  exact ⟨step, (mem_steps.mp member).2, success, same⟩

/-- Changing files that belong to no step keeps the latest accepted step. -/
theorem latestSuccess?_beside {names : List String} (directory : a.files.isDirectory work = true)
    (agree : World.Agrees (Beside work names) a b) (unrelated : Step.Unrelated base names) :
    latestSuccess? b.files work base = latestSuccess? a.files work base := by
  have directory' := (agree.isDirectory fun _ => .inl).trans directory
  refine latestSuccess?_congr fun step _ => ?_
  rw [mem_steps, mem_steps, directory, directory',
    found_of_unrelated (agree.files.mono fun _ => Files.beside) unrelated step]

/-- Writing the files of a step that is not accepted keeps the latest accepted step. -/
theorem latestSuccess?_declined {outcome : StepOutcome} (directory : a.files.isDirectory work = true)
    (below : ∀ step, Found a.files work base step → step.number < number)
    (agree : World.Agrees (Beside work (Step.fileNames base number outcome)) a b) (other : outcome ≠ .success) :
    latestSuccess? b.files work base = latestSuccess? a.files work base := by
  have directory' := (agree.isDirectory fun _ => .inl).trans directory
  have steps := found_step below (agree.files.mono fun _ => Files.beside)
  refine latestSuccess?_congr fun step success => ?_
  rw [mem_steps, mem_steps, directory, directory', steps step]
  refine and_congr_right fun _ => ⟨fun found => found.resolve_right ?_, .inl⟩
  rintro ⟨rfl, -⟩
  exact other success

/-- Changing files that belong to no step keeps what is secured. -/
theorem Secures.beside {names : List String} (secures : Secures a.files work base begun shader)
    (plain : '/' ∉ base.toList) (directory : a.files.isDirectory work = true)
    (agree : World.Agrees (Beside work names) a b) (unrelated : Step.Unrelated base names) :
    Secures b.files work base begun shader := by
  have same := latestSuccess?_beside directory agree unrelated
  refine ⟨same ▸ secures.unmoved, fun number latest => ?_⟩
  refine restorable_of_beside plain (secures.latest number (same ▸ latest)) agree fun name member inside => ?_
  exact (unrelated name inside).2 _ _ member

/-- Writing the files of a step that is not accepted keeps what is secured. -/
theorem Secures.declined {outcome : StepOutcome} (secures : Secures a.files work base begun shader)
    (plain : '/' ∉ base.toList) (directory : a.files.isDirectory work = true)
    (below : ∀ step, Found a.files work base step → step.number < number)
    (agree : World.Agrees (Beside work (Step.fileNames base number outcome)) a b) (other : outcome ≠ .success) :
    Secures b.files work base begun shader := by
  have same := latestSuccess?_declined directory below agree other
  refine ⟨same ▸ secures.unmoved, fun latest isLatest => ?_⟩
  rw [same] at isLatest
  obtain ⟨step, found, -, rfl⟩ := exists_of_latestSuccess? isLatest
  refine restorable_of_beside plain (secures.latest step.number isLatest) agree fun name member inside => ?_
  exact absurd (Step.mem_fileNames_number member inside).1 (Nat.ne_of_lt (below step found))

/-- Writing the files of an accepted step secures its shader. -/
theorem secures_accepted (directory : a.files.isDirectory work = true)
    (below : ∀ step, Found a.files work base step → step.number < number)
    (agree : World.Agrees (Beside work (Step.fileNames base number .success)) a b)
    (stored : candidate.StoredAt b.files (work.entry (Step.fileName base number .success)))
    (stands : (b.files.lookup? (work.place ++ [Step.fileName base number .success])).isSome = true)
    (returnless : Returnless candidate.text) (readsBack : Metadata.ReadsBack candidate.metadata) :
    Secures b.files work base begun candidate := by
  have directory' := (agree.isDirectory fun _ => .inl).trans directory
  have steps := found_step below (agree.files.mono fun _ => Files.beside)
  have latest : latestSuccess? b.files work base = some number := by
    refine latestSuccess?_eq_some.mpr ⟨⟨_, mem_steps.mpr ⟨directory', (steps _).mpr (.inr ⟨rfl, stands⟩)⟩, rfl, rfl⟩, ?_⟩
    intro step member _
    rcases (steps step).mp (mem_steps.mp member).2 with before | ⟨rfl, -⟩
    · exact Nat.le_of_lt (below step before)
    · exact Nat.le_refl number
  refine ⟨fun none => ?_, fun other isLatest => ?_⟩
  · rw [latest] at none
    cases none
  · rw [latest] at isLatest
    cases isLatest
    exact stored.restorable returnless readsBack

/-- The marker stays if none but other files change. -/
theorem hasMarker_of_beside {names : List String} (agree : World.Agrees (Beside work names) a b)
    (other : markerName ∉ names) : hasMarker b.files work = hasMarker a.files work := by
  unfold hasMarker
  rw [marker_eq]
  exact (agree.files.mono fun _ => beside_entry (.inr rfl) markerName_ne other).has.symm

theorem hasMarker_of_own (agree : World.Agrees (Own work) a b) : hasMarker b.files work = hasMarker a.files work :=
  hasMarker_of_beside (Own.beside agree : World.Agrees (Beside work []) a b) List.not_mem_nil

end Progress

open Progress (Found Secures)

namespace Reducer

variable {reducer : Reducer σ}

/-- What holds at every position of a reduction: the marker stands, the steps have smaller numbers than the next
one, and they secure the present shader. -/
structure Secured (reducer : Reducer σ) (base : String) (begun : Shader → Prop) (metadata : Metadata) (scratch : Path)
    (p : Position σ) : Prop where
  directory : p.world.files.isDirectory reducer.work = true
  sameScratch : p.world.scratch = scratch
  marked : Progress.hasMarker p.world.files reducer.work = true
  below : ∀ step, Found p.world.files reducer.work base step → step.number < p.number
  metadata : p.state.shader.metadata = metadata
  secures : Secures p.world.files reducer.work base begun p.state.shader

theorem proposes_returnless {now : ReductionState} {rejected : List String} {opportunity : Opportunity}
    {context : Context} (proposes : Proposes now rejected opportunity candidate context) :
    Returnless candidate.text ∧ candidate.metadata = now.shader.metadata := by
  obtain ⟨chosen, -, applied⟩ := proposes.applied
  exact ⟨opportunity.returnless (List.mem_filter.mp proposes.isOpen).1 applied, (Opportunity.apply_ok applied).1⟩

/-- A judgement keeps everything, and so does the record of a candidate that is not accepted. -/
theorem Secured.declined {p : Position σ} {answer : Answer} {key : String} {judged left : World σ}
    {records : List StepRecord} (secured : Secured reducer base begun metadata scratch p) (careful : Careful reducer base scratch)
    (answers : Answers reducer base candidate p.world answer judged)
    (recorded : Recorded reducer base key p.number candidate answer judged records left) (other : accepts answer = false) :
    Secures left.files reducer.work base begun p.state.shader := by
  have before := secured.sameScratch
  subst before
  obtain ⟨directory, agree⟩ := careful.recorded_agrees secured.directory answers recorded
  refine secured.secures.declined careful.plain secured.directory secured.below agree ?_
  rcases answer with fault | _ | _
  · exact fun same => nomatch same
  · exact fun same => nomatch same
  · cases other

/-- The record of an accepted candidate secures it. -/
theorem Secured.accepted {p : Position σ} {opportunity : Opportunity} {context : Context} {judged left : World σ}
    {records : List StepRecord} (secured : Secured reducer base begun metadata scratch p) (careful : Careful reducer base scratch)
    (readsBack : Metadata.ReadsBack metadata)
    (proposes : Proposes p.state p.rejected opportunity candidate context)
    (answers : Answers reducer base candidate p.world (.ok true) judged)
    (recorded : Recorded reducer base opportunity.key p.number candidate (.ok true) judged records left) :
    Secures left.files reducer.work base begun candidate := by
  have before := secured.sameScratch
  subst before
  obtain ⟨directory, agree⟩ := careful.recorded_agrees secured.directory answers recorded
  have stands := recorded_stands careful.plain directory rfl recorded
  obtain ⟨returnless, same⟩ := proposes_returnless proposes
  have readsBack : Metadata.ReadsBack candidate.metadata := by rwa [same, secured.metadata]
  rcases recorded_holds careful.plain directory recorded with ⟨-, -, refused⟩ | ⟨artifact, -, placed, holds⟩
  · cases refused
  · exact Progress.secures_accepted secured.directory secured.below agree (placed ▸ holds.stored) stands
      returnless readsBack

/-- A step keeps everything. -/
theorem Secured.next {p q : Position σ} (secured : Secured reducer base begun metadata scratch p)
    (careful : Careful reducer base scratch) (readsBack : Metadata.ReadsBack metadata)
    (further : reducer.next? base p = some q) : Secured reducer base begun metadata scratch q := by
  obtain ⟨opportunity, candidate, context, answer, judged, records, left, level, message, proposes, answers,
    recorded, rfl⟩ := next?_cases further
  have before := secured.sameScratch
  subst before
  obtain ⟨directory, agree⟩ := careful.recorded_agrees secured.directory answers recorded
  refine ⟨(agree.isDirectory fun _ => .inl).trans secured.directory, agree.scratch, ?_, ?_, ?_, ?_⟩
  · exact (Progress.hasMarker_of_beside agree fun member =>
      Shader.notMarker_of_mem_fileNames member (List.mem_singleton_self _)).trans secured.marked
  · intro step found
    rcases (Progress.found_step secured.below (agree.files.mono fun _ => Progress.Files.beside) step).mp found with
      before | ⟨rfl, -⟩
    · exact Nat.lt_succ_of_lt (secured.below step before)
    · exact Nat.lt_succ_self _
  · rcases answer with fault | _ | _
    · exact secured.metadata
    · exact secured.metadata
    · exact (proposes_returnless proposes).2.trans secured.metadata
  · rcases answer with fault | _ | _
    · have kept := secured.declined careful answers recorded rfl
      exact kept
    · have kept := secured.declined careful answers recorded rfl
      exact kept
    · have kept := secured.accepted careful readsBack proposes answers recorded
      exact kept

section Course

variable {first limit : Int} {now : ReductionState} {world : World σ}

/-- In front of the loop the starting shader is secured as it was before. -/
theorem secured_start {marked opened : World σ} (careful : Careful reducer base world.scratch)
    (directory : world.files.isDirectory reducer.work = true)
    (below : ∀ step, Found world.files reducer.work base step → step.number < first.toNat)
    (secures : Secures world.files reducer.work base begun now.shader)
    (marking : Progress.placeMarker reducer.work world = .ok () marked)
    (checks : Checks reducer base now (announced base first limit now marked) (.ok () (now, opened))) :
    Secured reducer base begun now.shader.metadata world.scratch ⟨first.toNat, [], now, opened⟩ := by
  obtain ⟨agree, still⟩ := careful.opened_agrees marking checks
  refine ⟨(agree.isDirectory fun _ => .inl).trans directory, agree.scratch, ?_, ?_, rfl, ?_⟩
  · exact (Progress.hasMarker_of_own still).trans
      (Progress.placeMarker_ok marking).2
  · intro step found
    exact below step ((Progress.found_of_unrelated (agree.files.mono fun _ => Progress.Files.beside)
      (Step.unrelated_markerName base) step).mpr found)
  · exact secures.beside careful.plain directory agree (Step.unrelated_markerName base)

/-- At every position of a reduction the present shader is secured. -/
theorem secured_of_mem (careful : Careful reducer base world.scratch)
    (directory : world.files.isDirectory reducer.work = true)
    (below : ∀ step, Found world.files reducer.work base step → step.number < first.toNat)
    (secures : Secures world.files reducer.work base begun now.shader)
    (readsBack : Metadata.ReadsBack now.shader.metadata) {p : Position σ}
    (member : p ∈ reducer.course base first limit now world) :
    Secured reducer base begun now.shader.metadata world.scratch p :=
  course_induction (fun _ _ marking checks => secured_start careful directory below secures marking checks)
    (fun _ _ _ further secured => secured.next careful readsBack further) member

end Course

end Reducer

end ShaderShrink
