import Mathlib.Data.List.Forall2
import Mathlib.Data.Option.Defs
import ShaderShrink.Proofs.Reduction.Abreast

/-!
# Reductions in lockstep

Two reductions that differ at most in whether they keep rejected candidates go on in lockstep, as long as their worlds
are abreast of each other: every part of the one ends as the same part of the other does, and leaves them abreast.
The records of what only one of them keeps do not count.
-/

namespace ShaderShrink

open Effect Progress

variable {σ α β : Type}

/-- The reducer that keeps rejected candidates or does not. -/
def Reducer.keeping (reducer : Reducer σ) (keep : Bool) : Reducer σ := { reducer with keepRejected := keep }

theorem Reducer.keeping_work (reducer : Reducer σ) (keep : Bool) : (reducer.keeping keep).work = reducer.work := rfl

/-- The names that two reductions need not agree about: those of the failures from a step on, if one keeps rejected
candidates and the other does not. -/
def Step.spareNames (base : String) (keep keep' : Bool) (first left : Nat) : List String :=
  if keep = keep' then [] else (List.range' first left).flatMap fun number => Step.fileNames base number .failure

/-- Whether a record counts in a comparison of two reductions. -/
def StepRecord.counts (keep keep' : Bool) (record : StepRecord) : Bool := keep == keep' || record.outcome != .failure

namespace Step

variable {base name : String} {keep keep' : Bool} {first left : Nat}

theorem mem_spareNames : name ∈ spareNames base keep keep' first left ↔
    keep ≠ keep' ∧ ∃ number, first ≤ number ∧ number < first + left ∧ name ∈ fileNames base number .failure := by
  unfold spareNames
  split_ifs with same
  · simp [same]
  · simp only [List.mem_flatMap, List.mem_range'_1, ne_eq, same, not_false_eq_true, true_and, and_assoc]

theorem shaders_spareNames : ∀ name ∈ spareNames base keep keep' first left, ∃ stem, name ∈ Shader.fileNames stem := by
  intro name member
  obtain ⟨-, number, -, -, file⟩ := mem_spareNames.mp member
  exact ⟨_, file⟩

/-- The files of a step that counts are not spare. -/
theorem notMem_spareNames_of_counts {number : Nat} {outcome : StepOutcome} (counts : keep = keep' ∨ outcome ≠ .failure)
    (file : name ∈ fileNames base number outcome) : name ∉ spareNames base keep keep' first left := by
  intro member
  obtain ⟨differ, other, -, -, file'⟩ := mem_spareNames.mp member
  rcases counts with same | counts
  · exact differ same
  · exact counts (mem_fileNames_number file file').2

theorem notMem_spareNames_final (file : name ∈ Shader.fileNames (finalStem base)) :
    name ∉ spareNames base keep keep' first left := by
  intro member
  obtain ⟨-, number, -, -, file'⟩ := mem_spareNames.mp member
  exact finalStem_ne base number .failure (Shader.stem_eq_of_mem_fileNames file file')

theorem markerName_notMem_spareNames : markerName ∉ spareNames base keep keep' first left := by
  intro member
  obtain ⟨-, number, -, -, file⟩ := mem_spareNames.mp member
  exact Shader.notMarker_of_mem_fileNames file (List.mem_singleton_self _)

end Step

namespace Reducer

/-- Whether two states are alike, up to records that do not count. -/
structure Alike (keep keep' : Bool) (a b : ReductionState) : Prop where
  context : b.context = a.context
  shader : b.shader = a.shader
  isInitial : b.isInitial = a.isInitial
  status : b.status = a.status
  steps : b.steps.filter (StepRecord.counts keep keep') = a.steps.filter (StepRecord.counts keep keep')

theorem Alike.refl {keep keep' : Bool} (state : ReductionState) : Alike keep keep' state state := ⟨rfl, rfl, rfl, rfl, rfl⟩

/-- If both keep rejected candidates, or neither does, all records count. -/
theorem Alike.steps_eq {keep : Bool} {a b : ReductionState} (alike : Alike keep keep a b) : b.steps = a.steps := by
  have all : StepRecord.counts keep keep = fun _ => true := funext fun record => by simp [StepRecord.counts]
  simpa only [all, List.filter_true] using alike.steps

/-- Two reductions of one shader that are compared with each other: their reducer but for what it keeps, what the judge
has been shown and what it answers, and the steps that they may take. -/
structure Pairing (σ : Type) where
  reducer : Reducer σ
  keep : Bool
  keep' : Bool
  base : String
  scratch : Path
  shown : σ → List Shader
  answer : List Shader → Answer
  first : Nat
  left : Nat

namespace Pairing

/-- What lets the two reductions go on in lockstep.  The first one keeps what the second one keeps. -/
structure Fair (pair : Pairing σ) : Prop where
  careful : Careful pair.reducer pair.base pair.scratch
  sheltered : Sheltered pair.reducer pair.base pair.scratch
  remembers : pair.reducer.verdict.Remembers pair.shown pair.answer
  keepsMore : pair.keep' = true → pair.keep = true

/-- The names that the two reductions need not agree about. -/
def spareNames (pair : Pairing σ) : List String := Step.spareNames pair.base pair.keep pair.keep' pair.first pair.left

/-- Whether the worlds of the two reductions are abreast of each other. -/
abbrev Abreast (pair : Pairing σ) : World σ → World σ → Prop :=
  Progress.Abreast pair.reducer.work pair.scratch pair.spareNames pair.shown

/-- What is left when the two reductions have ended: the own files are the same but for those names, and the judge has been
shown the same candidates. -/
structure Matching (pair : Pairing σ) (a b : World σ) : Prop where
  files : FileTree.AgreeOn (Beside pair.reducer.work pair.spareNames) a.files b.files
  shown : pair.shown a.outside = pair.shown b.outside

/-- Whether two reductions are in states that are alike, and in worlds that belong together. -/
structure Joined (pair : Pairing σ) (beside : World σ → World σ → Prop) (s t : ReductionState × World σ) : Prop where
  alike : Alike pair.keep pair.keep' s.1 t.1
  worlds : beside s.2 t.2

/-- Whether the two reductions are in lockstep. -/
abbrev Together (pair : Pairing σ) : ReductionState × World σ → ReductionState × World σ → Prop := pair.Joined pair.Abreast

/-- Whether two positions are in lockstep. -/
structure InStep (pair : Pairing σ) (p q : Position σ) : Prop where
  number : q.number = p.number
  rejected : q.rejected = p.rejected
  together : pair.Together (p.state, p.world) (q.state, q.world)

variable {pair : Pairing σ} {s t : ReductionState} {a b : World σ}

theorem Together.matching {s t : ReductionState × World σ} (together : pair.Together s t) : pair.Joined pair.Matching s t :=
  ⟨together.alike, together.worlds.files, together.worlds.shown⟩

/-- Actions that run alongside each other do so as parts of reductions. -/
theorem act_alongside {same : α → β → Prop} {beside : World σ → World σ → Prop} {action : Action σ α} {action' : Action σ β}
    (alike : Alike pair.keep pair.keep' s t) (run : Alongside same beside (action a) (action' b)) :
    Alongside same (pair.Joined beside) (act action (s, a)) (act action' (t, b)) := by
  unfold act
  dsimp only
  generalize action a = result, action' b = result' at run
  cases run with
  | ok related near => exact .ok related ⟨alike, near⟩
  | error fault near => exact .error fault ⟨alike, near⟩

/-- Writing into the log and going on with some value leaves the reductions in lockstep. -/
theorem note_alongside (together : pair.Together (s, a) (t, b)) (level level' : Level) (message message' : String)
    (value : α) :
    Alongside Eq pair.Together ((act (Action.log level message) >>= fun _ => pure value) (s, a))
      ((act (Action.log level' message') >>= fun _ => pure value) (t, b)) := by
  rw [bind_act_of_ok (Action.log_apply level message a), bind_act_of_ok (Action.log_apply level' message' b)]
  exact .ok rfl ⟨together.alike, together.worlds.noting level level' message message'⟩

namespace Fair

variable (fair : pair.Fair)
include fair

/-- A judgement of a candidate ends in both reductions in the same way.  After an answer the metadata of the candidate are
known to be such as can be written. -/
theorem judge (abreast : pair.Abreast a b) (candidate : Shader) :
    Alongside (fun interesting interesting' => interesting' = interesting ∧ candidate.Writable) pair.Abreast
      (pair.reducer.judge pair.base candidate a) (pair.reducer.judge pair.base candidate b) :=
  judge_abreast fair.careful fair.sheltered Step.shaders_spareNames fair.remembers abreast candidate

theorem tryJudge (together : pair.Together (s, a) (t, b)) (candidate : Shader) :
    Alongside (fun answer answer' => answer' = answer ∧ (answer.isOk = true → candidate.Writable)) pair.Together
      (pair.reducer.tryJudge pair.base candidate (s, a)) (pair.reducer.tryJudge pair.base candidate (t, b)) := by
  have judged := fair.judge together.worlds candidate
  generalize run : pair.reducer.judge pair.base candidate a = result,
    run' : pair.reducer.judge pair.base candidate b = result' at judged
  cases judged with
  | ok related near =>
    obtain ⟨rfl, writable⟩ := related
    rw [tryJudge_of_ok run, tryJudge_of_ok run']
    exact .ok ⟨rfl, fun _ => writable⟩ ⟨together.alike, near⟩
  | error fault near =>
    rw [tryJudge_of_error s run, tryJudge_of_error t run']
    cases fault.isOracle with
    | true => exact .ok ⟨rfl, fun gave => nomatch gave⟩ ⟨together.alike, near⟩
    | false => exact .error fault ⟨together.alike, near⟩

/-- A step that counts is recorded in both reductions. -/
theorem record {number : Nat} {outcome : StepOutcome} (counts : pair.keep = pair.keep' ∨ outcome ≠ .failure)
    (together : pair.Together (s, a) (t, b)) (candidate : Shader) (key : String) :
    Alongside Eq pair.Together ((pair.reducer.keeping pair.keep).record pair.base number outcome candidate key (s, a))
      ((pair.reducer.keeping pair.keep').record pair.base number outcome candidate key (t, b)) := by
  unfold Reducer.record
  have writes := together.worlds.writeArtifact fair.careful.apart (Step.isName_fileStem fair.careful.plain number outcome)
    (.step outcome) candidate fun name file => Step.notMem_spareNames_of_counts counts file
  refine (act_alongside together.alike writes).bind (fun _ _ near => near) ?_
  rintro artifact _ ⟨s, a⟩ ⟨t, b⟩ rfl ⟨alike, abreast⟩
  refine .ok rfl ⟨{ alike with steps := ?_ }, abreast⟩
  dsimp only
  rw [List.filter_append, List.filter_append, alike.steps]

/-- A rejected candidate that is recorded in the first reduction alone leaves both in lockstep. -/
theorem record_left {number : Nat} (differ : pair.keep ≠ pair.keep') (least : pair.first ≤ number)
    (below : number < pair.first + pair.left) (together : pair.Together (s, a) (t, b)) {candidate : Shader}
    (writable : candidate.Writable) (key : String) :
    ∃ state left, (pair.reducer.keeping pair.keep).record pair.base number .failure candidate key (s, a) = .ok () (state, left) ∧
      pair.Together (state, left) (t, b) := by
  obtain ⟨artifact, left, writing, abreast⟩ := together.worlds.writeArtifact_left fair.careful.apart
    (Step.isName_fileStem fair.careful.plain number .failure) (.step .failure)
    (fun name file => Step.mem_spareNames.mpr ⟨differ, number, least, below, file⟩) writable
  refine ⟨_, left, record_of_ok writing, { together.alike with steps := ?_ }, abreast⟩
  rw [List.filter_append, List.filter_cons_of_neg (by simp [StepRecord.counts, differ]), List.filter_nil, List.append_nil]
  exact together.alike.steps

/-- Following an opportunity ends in both reductions in the same way. -/
theorem follow {number : Nat} (least : pair.first ≤ number) (below : number < pair.first + pair.left)
    (together : pair.Together (s, a) (t, b)) (opportunity : Opportunity) (rejected : List String) :
    Alongside Eq pair.Together
      ((pair.reducer.keeping pair.keep).follow pair.base number opportunity rejected (s, a))
      ((pair.reducer.keeping pair.keep').follow pair.base number opportunity rejected (t, b)) := by
  unfold Reducer.follow
  rw [bind_state, bind_state, together.alike.shader, together.alike.context]
  cases applied : opportunity.apply s.shader s.context with
  | error fault =>
    rw [bind_act_of_error (Action.ofExcept_error fault a), bind_act_of_error (Action.ofExcept_error fault b)]
    exact .error fault together
  | ok result =>
    obtain ⟨candidate, context⟩ := result
    rw [bind_act_of_ok (Action.ofExcept_ok (candidate, context) a), bind_act_of_ok (Action.ofExcept_ok (candidate, context) b)]
    dsimp only
    rw [bind_change, bind_change]
    have moved : pair.Together ({ s with context := context }, a) ({ t with context := context }, b) :=
      ⟨{ together.alike with context := rfl }, together.worlds⟩
    refine (fair.tryJudge moved candidate).bind (fun _ _ near => near) ?_
    rintro _ answer ⟨s, a⟩ ⟨t, b⟩ ⟨rfl, writable⟩ together
    rcases answer with fault | _ | _
    · have counts : pair.keep = pair.keep' ∨ StepOutcome.error ≠ .failure := .inr nofun
      refine (fair.record counts together candidate opportunity.key).bind (fun _ _ near => near) ?_
      rintro _ _ ⟨s, a⟩ ⟨t, b⟩ - together
      by_cases stops : (pair.reducer.keeping pair.keep).stopOnError = true
      · have stops' : (pair.reducer.keeping pair.keep').stopOnError = true := stops
        rw [if_pos stops, if_pos stops']
        exact .error _ together
      · have goes' : ¬ (pair.reducer.keeping pair.keep').stopOnError = true := stops
        rw [if_neg stops, if_neg goes']
        exact note_alongside together _ _ _ _ _
    · -- Both record the candidate, or neither does, or the first one alone.
      dsimp only
      by_cases keeps : (pair.reducer.keeping pair.keep).keepRejected = true
      · rw [if_pos keeps]
        by_cases keeps' : (pair.reducer.keeping pair.keep').keepRejected = true
        · rw [if_pos keeps']
          refine (fair.record (.inl (keeps.trans keeps'.symm)) together candidate opportunity.key).bind
            (fun _ _ near => near) ?_
          rintro _ _ ⟨s, a⟩ ⟨t, b⟩ - together
          exact note_alongside together _ _ _ _ _
        · have differ : pair.keep ≠ pair.keep' := fun same => keeps' (same ▸ keeps)
          obtain ⟨state, left, recorded, together⟩ := fair.record_left differ least below together (writable rfl) opportunity.key
          rw [if_neg keeps', bind_of_ok recorded]
          exact note_alongside together _ _ _ _ _
      · have keeps' : ¬ (pair.reducer.keeping pair.keep').keepRejected = true := fun keeps' => keeps (fair.keepsMore keeps')
        rw [if_neg keeps, if_neg keeps']
        exact note_alongside together _ _ _ _ _
    · have counts : pair.keep = pair.keep' ∨ StepOutcome.success ≠ .failure := .inr nofun
      refine (fair.record counts together candidate opportunity.key).bind (fun _ _ near => near) ?_
      rintro _ _ ⟨s, a⟩ ⟨t, b⟩ - ⟨alike, abreast⟩
      have moved : pair.Together ({ s with shader := candidate, isInitial := false }, a)
          ({ t with shader := candidate, isInitial := false }, b) := ⟨{ alike with shader := rfl, isInitial := rfl }, abreast⟩
      exact note_alongside moved _ _ _ _ _

/-- A step ends in both reductions in the same way. -/
theorem step {number : Nat} (least : pair.first ≤ number) (below : number < pair.first + pair.left)
    (together : pair.Together (s, a) (t, b)) (rejected : List String) :
    Alongside Eq pair.Together ((pair.reducer.keeping pair.keep).step pair.base number rejected (s, a))
      ((pair.reducer.keeping pair.keep').step pair.base number rejected (t, b)) := by
  have offered : openOpportunities t rejected = openOpportunities s rejected := by
    rw [openOpportunities, openOpportunities, together.alike.shader, together.alike.context]
  unfold Reducer.step
  rw [bind_state, bind_state, offered]
  cases openOpportunities s rejected with
  | nil => exact .ok rfl ⟨{ together.alike with status := rfl }, together.worlds⟩
  | cons first rest =>
    dsimp only
    rw [together.alike.context]
    cases Opportunity.select (first :: rest) s.context with
    | error fault =>
      rw [bind_act_of_error (Action.ofExcept_error fault a), bind_act_of_error (Action.ofExcept_error fault b)]
      exact .error fault together
    | ok result =>
      obtain ⟨opportunity, chosen⟩ := result
      rw [bind_act_of_ok (Action.ofExcept_ok (opportunity, chosen) a), bind_act_of_ok (Action.ofExcept_ok (opportunity, chosen) b)]
      dsimp only
      rw [bind_change, bind_change]
      have moved : pair.Together ({ s with context := chosen }, a) ({ t with context := chosen }, b) :=
        ⟨{ together.alike with context := rfl }, together.worlds⟩
      exact fair.follow least below moved opportunity rejected

/-- A loop ends in both reductions in the same way. -/
theorem loop {left number : Nat} (least : pair.first ≤ number) (within : number + left ≤ pair.first + pair.left)
    (together : pair.Together (s, a) (t, b)) (rejected : List String) :
    Alongside Eq pair.Together ((pair.reducer.keeping pair.keep).loop pair.base left number rejected (s, a))
      ((pair.reducer.keeping pair.keep').loop pair.base left number rejected (t, b)) := by
  induction left generalizing number s t a b rejected with
  | zero =>
    unfold Reducer.loop
    rw [bind_state, bind_state, together.alike.status]
    split_ifs
    · exact .ok rfl ⟨{ together.alike with status := rfl }, together.worlds⟩
    · exact .ok rfl together
  | succ left ih =>
    unfold Reducer.loop
    rw [bind_state, bind_state, together.alike.status]
    split_ifs
    · refine (fair.step least (by omega) together rejected).bind (fun _ _ near => near) ?_
      rintro rejected _ ⟨s, a⟩ ⟨t, b⟩ rfl together
      rw [bind_state, bind_state, together.alike.status]
      split_ifs
      · exact ih (Nat.le_succ_of_le least) (by omega) together rejected
      · exact .ok rfl together
    · exact .ok rfl together

/-- The judgement of the starting shader ends in both reductions in the same way. -/
theorem checkInitial (together : pair.Together (s, a) (t, b)) :
    Alongside Eq pair.Together ((pair.reducer.keeping pair.keep).checkInitial pair.base (s, a))
      ((pair.reducer.keeping pair.keep').checkInitial pair.base (t, b)) := by
  unfold Reducer.checkInitial
  rw [bind_state, bind_state, together.alike.isInitial, together.alike.shader]
  split_ifs
  · refine (act_alongside together.alike (fair.judge together.worlds s.shader)).bind (fun _ _ near => near) ?_
    rintro _ interesting ⟨s, a⟩ ⟨t, b⟩ ⟨rfl, -⟩ together
    cases interesting with
    | true => exact .ok rfl ⟨together.alike, together.worlds.noting _ _ _ _⟩
    | false => exact .error _ together
  · exact .ok rfl together

/-- From the judgement of the starting shader to the final shader both reductions go the same way. -/
theorem runSteps {limit : Int} (steps : pair.left = (limit + 1 - pair.first).toNat) (together : pair.Together (s, a) (t, b)) :
    Alongside Eq pair.Together ((pair.reducer.keeping pair.keep).runSteps pair.base pair.first limit (s, a))
      ((pair.reducer.keeping pair.keep').runSteps pair.base pair.first limit (t, b)) := by
  unfold Reducer.runSteps
  refine (fair.checkInitial together).bind (fun _ _ near => near) ?_
  rintro _ _ ⟨s, a⟩ ⟨t, b⟩ - together
  rw [← steps]
  refine (fair.loop (Nat.le_refl _) (Nat.le_refl _) together []).bind (fun _ _ near => near) ?_
  rintro next _ ⟨s, a⟩ ⟨t, b⟩ rfl together
  rw [bind_state, bind_state, together.alike.shader]
  have writing := together.worlds.writeArtifact fair.careful.apart (Step.isName_finalStem fair.careful.plain) .final s.shader
    fun name file => Step.notMem_spareNames_final file
  refine (act_alongside together.alike writing).bind (fun _ _ near => near) ?_
  rintro artifact _ ⟨s, a⟩ ⟨t, b⟩ rfl together
  exact .ok rfl together

end Fair

/-- Clearing the marker ends in both reductions in the same way. -/
theorem clearMarker (pair : Pairing σ) (matching : pair.Matching a b) :
    Alongside Eq pair.Matching (Progress.clearMarker pair.reducer.work a) (Progress.clearMarker pair.reducer.work b) := by
  unfold Progress.clearMarker
  rw [marker_eq]
  have agree : FileTree.AgreeOn (· ∈ (pair.reducer.work.entry markerName).visited) a.files b.files :=
    matching.files.mono fun _ => beside_entry (.inr rfl) markerName_ne Step.markerName_notMem_spareNames
  refine Action.remove_alongside agree matching fun tree tree' removed removed' => ⟨fun place beside => ?_, matching.shown⟩
  by_cases same : place = (pair.reducer.work.entry markerName).place
  · rw [same]
    exact agree.lookup?_remove_self removed removed'
  · rw [FileTree.lookup?_remove removed (.inr same), FileTree.lookup?_remove removed' (.inr same)]
    exact matching.files place beside

namespace Fair

variable (fair : pair.Fair)
include fair

/-- Both reductions go on behind a step, or neither does. -/
theorem next? {p q : Position σ} (least : pair.first ≤ p.number) (below : p.number < pair.first + pair.left)
    (inStep : pair.InStep p q) :
    Option.Rel pair.InStep ((pair.reducer.keeping pair.keep).next? pair.base p)
      ((pair.reducer.keeping pair.keep').next? pair.base q) := by
  have stepped := fair.step least below inStep.together p.rejected
  unfold Reducer.next?
  rw [inStep.number, inStep.rejected]
  generalize (pair.reducer.keeping pair.keep).step pair.base p.number p.rejected (p.state, p.world) = result,
    (pair.reducer.keeping pair.keep').step pair.base p.number p.rejected (q.state, q.world) = result' at stepped
  cases stepped with
  | @ok rejected _ after after' same together =>
    obtain ⟨s, a⟩ := after
    obtain ⟨t, b⟩ := after'
    subst same
    dsimp only
    rw [together.alike.status]
    split_ifs
    · exact .some ⟨rfl, rfl, together⟩
    · exact .none
  | error fault together => exact .none

/-- The loops of both reductions come to the same positions. -/
theorem positions {left : Nat} {p q : Position σ} (least : pair.first ≤ p.number)
    (within : p.number + left ≤ pair.first + pair.left) (inStep : pair.InStep p q) :
    List.Forall₂ pair.InStep ((pair.reducer.keeping pair.keep).positions pair.base left p)
      ((pair.reducer.keeping pair.keep').positions pair.base left q) := by
  induction left generalizing p q with
  | zero => exact .cons inStep .nil
  | succ left ih =>
    have further := fair.next? least (by omega) inStep
    unfold Reducer.positions
    refine .cons inStep ?_
    generalize next : (pair.reducer.keeping pair.keep).next? pair.base p = after,
      (pair.reducer.keeping pair.keep').next? pair.base q = after' at further
    cases further with
    | none => exact .nil
    | some inStep =>
      obtain ⟨_, _, _, _, _, _, _, _, _, -, -, -, rfl⟩ := next?_cases next
      exact ih (Nat.le_succ_of_le least) (by change p.number + 1 + left ≤ _; omega) inStep

/-- Once the marker stands, both reductions begin in lockstep, whatever their limits are. -/
theorem begins {first limit limit' : Int} {world marked : World σ} (now : ReductionState)
    (sameScratch : world.scratch = pair.scratch) (vacant : world.files.Vacant pair.scratch)
    (room : ∀ name ∈ pair.spareNames, world.files.Admits (pair.reducer.work.entry name))
    (marking : Progress.placeMarker pair.reducer.work world = .ok () marked) :
    pair.Together (now, announced pair.base first limit now marked) (now, announced pair.base first limit' now marked) := by
  have ready : Ready pair.reducer.work pair.scratch pair.spareNames world :=
    ⟨sameScratch, (placeMarker_ok marking).1, vacant, room⟩
  have ready := ready.placeMarker fair.careful.apart marking
  exact ⟨.refl now, ready.noting _ _, ready.noting _ _, .refl _ _, rfl⟩

end Fair

end Pairing

end Reducer

end ShaderShrink
