import ShaderShrink.Proofs.Opportunity.Effort
import ShaderShrink.Proofs.Reduction.Account
import ShaderShrink.Proofs.Reduction.Unhindered

/-!
# Reductions that run out of opportunities

An accepted candidate is worth less effort than the shader that it was made from, and a rejected one takes an
opportunity away.  So a reduction that nothing hinders comes to an end by itself: whatever its judge says, it runs
out of opportunities before it has taken more steps than its starting shader allows.
-/

namespace ShaderShrink

open Effect

variable {σ : Type}

/-- A bound for the number of steps from a shader on: as often as it can be changed, and once more, each of the
opportunities of a shader may be tried. -/
def Shader.patience (version : Version) (shader : Shader) : Nat :=
  shader.effort version * (5 * shader.effort version + 1) + 5 * shader.effort version

theorem Shader.length_opportunities_le_effort (rules : Rules) (version : Version) (shader : Shader) :
    (shader.opportunities rules).length ≤ 5 * shader.effort version := by
  have bound := shader.length_opportunities_le rules
  unfold effort
  omega

namespace Reducer

variable {reducer : Reducer σ} {base : String} {version : Version} {most : Nat} {p q : Position σ}

/-- As long as there are open opportunities, one of them is selected and leads to a candidate. -/
theorem exists_proposes {now : ReductionState} {rejected : List String} (offered : openOpportunities now rejected ≠ []) :
    ∃ opportunity candidate context, Proposes now rejected opportunity candidate context := by
  obtain ⟨opportunity, chosen, selected⟩ := Opportunity.exists_select offered now.context
  have isOpen := Opportunity.mem_of_mem_competing (Opportunity.select_ok selected).1
  obtain ⟨lines, context, applied, -⟩ := Opportunity.exists_change (List.mem_filter.mp isOpen).1 chosen
  exact ⟨opportunity, _, context, chosen, selected, applied⟩

theorem Proposes.follows {now : ReductionState} {rejected : List String} {opportunity : Opportunity}
    {candidate : Shader} {context : Context} (proposes : Proposes now rejected opportunity candidate context) :
    Shader.Follows now.context.rules.version now.shader candidate := by
  obtain ⟨chosen, -, applied⟩ := proposes.applied
  exact ⟨_, opportunity, chosen, context, rfl, (List.mem_filter.mp proposes.isOpen).1, applied⟩

/-- A bound for the number of steps from a position on, if no shader has more than `most` opportunities. -/
def stepsLeft (version : Version) (most : Nat) (p : Position σ) : Nat :=
  p.state.shader.effort version * (most + 1) + (openOpportunities p.state p.rejected).length

/-- Every step leaves fewer steps. -/
theorem stepsLeft_behind_lt {opportunity : Opportunity} {candidate : Shader} {context : Context} (answer : Answer)
    (records : List StepRecord) (world : World σ) (sameVersion : p.state.context.rules.version = version)
    (few : 5 * p.state.shader.effort version ≤ most)
    (proposes : Proposes p.state p.rejected opportunity candidate context) :
    let q := behind p opportunity.key candidate context answer records world
    stepsLeft version most q < stepsLeft version most p ∧
      q.state.shader.effort version ≤ p.state.shader.effort version := by
  have less := sameVersion ▸ proposes.follows.effort_lt
  intro q
  unfold stepsLeft
  cases accepted : accepts answer with
  | true =>
    have opportunities := candidate.length_opportunities_le_effort context.rules version
    have product : (candidate.effort version + 1) * (most + 1) ≤ p.state.shader.effort version * (most + 1) :=
      Nat.mul_le_mul_right _ less
    obtain ⟨shader, opened⟩ := open_of_accepted p opportunity.key candidate context records world accepted
    rw [Nat.add_mul] at product
    rw [opened, shader]
    omega
  | false =>
    obtain ⟨shader, opened⟩ := open_of_refused p opportunity.key candidate context records world accepted proposes.rules
    have fewer : ((openOpportunities p.state p.rejected).filter fun other => other.key != opportunity.key).length <
        (openOpportunities p.state p.rejected).length :=
      List.length_filter_lt_length_iff_exists.mpr ⟨opportunity, proposes.isOpen, by simp⟩
    rw [opened, shader]
    omega

/-- What holds at every position of a reduction that nothing hinders: the world is ready for the next step, and the
steps that are left end in front of some number. -/
structure Unhindered (reducer : Reducer σ) (base : String) (version : Version) (most beyond : Nat) (scratch : Path)
    (p : Position σ) : Prop where
  sameScratch : p.world.scratch = scratch
  sameVersion : p.state.context.rules.version = version
  writable : p.state.shader.Writable
  vacant : p.world.files.Vacant scratch
  room : Progress.Room reducer.work base p.number beyond p.world.files
  few : 5 * p.state.shader.effort version ≤ most
  within : p.number + stepsLeft version most p ≤ beyond

namespace Unhindered

variable {beyond : Nat} {scratch : Path} {opportunity : Opportunity} {candidate : Shader} {context : Context}
  {answer : Answer} {judged : World σ} (unhindered : Unhindered reducer base version most beyond scratch p)
  (careful : Careful reducer base scratch) (responsive : Responsive reducer base scratch)
include unhindered

/-- A step is taken only in front of the last number. -/
theorem number_lt (offered : openOpportunities p.state p.rejected ≠ []) : p.number < beyond := by
  have positive := List.length_pos_iff.mpr offered
  have within := unhindered.within
  unfold stepsLeft at within
  omega

theorem candidate_writable (proposes : Proposes p.state p.rejected opportunity candidate context) : candidate.Writable := by
  obtain ⟨chosen, -, applied⟩ := proposes.applied
  unfold Shader.Writable
  rw [(Opportunity.apply_ok applied).1]
  exact unhindered.writable

include responsive

/-- The judge answers, and leaves nothing in the way of the next judgement. -/
theorem exists_answers (writable : candidate.Writable) :
    ∃ answer judged, Answers reducer base candidate p.world answer judged ∧ judged.files.Vacant scratch := by
  have same := unhindered.sameScratch
  subst same
  exact judge_answers responsive unhindered.vacant writable

theorem vacant_of_answers (writable : candidate.Writable) (answers : Answers reducer base candidate p.world answer judged) :
    judged.files.Vacant scratch := by
  obtain ⟨answer', judged', answers', vacant⟩ := unhindered.exists_answers responsive writable
  rwa [← answers_after answers, answers_after answers']

include careful

/-- A judgement takes no room. -/
theorem room_of_answers (answers : Answers reducer base candidate p.world answer judged) :
    Progress.Room reducer.work base p.number beyond judged.files := by
  have same := unhindered.sameScratch
  subst same
  have agree : World.Agrees (Progress.Beside reducer.work []) p.world judged :=
    Progress.Own.beside (careful.answers_agrees unhindered.room.isDirectory answers)
  exact unhindered.room.beside agree fun _ _ => List.not_mem_nil

/-- After a step that goes on, the world is ready for the next one. -/
theorem next (further : reducer.next? base p = some q) : Unhindered reducer base version most beyond scratch q := by
  obtain ⟨opportunity, candidate, context, answer, judged, records, left, level, message, proposes, answers,
    recorded, rfl⟩ := next?_cases further
  have writable := unhindered.candidate_writable proposes
  have vacant := unhindered.vacant_of_answers responsive writable answers
  have before := unhindered.sameScratch
  subst before
  obtain ⟨directory, agree⟩ := careful.recorded_agrees unhindered.room.isDirectory answers recorded
  obtain ⟨fewer, less⟩ := stepsLeft_behind_lt answer records (left.noting level message)
    unhindered.sameVersion unhindered.few proposes
  refine ⟨agree.scratch, (congrArg Rules.version proposes.rules).trans unhindered.sameVersion, ?_, ?_, ?_, ?_, ?_⟩
  · cases accepted : accepts answer with
    | true => simpa only [behind, accepted, ↓reduceIte] using writable
    | false => simpa only [behind, accepted, Bool.false_eq_true, ↓reduceIte] using unhindered.writable
  · cases recorded with
    | dropped _ => exact vacant
    | written _ writing =>
      rw [Artifact.writeStep_eq] at writing
      have standing := FileTree.standing_of_isDirectory directory
      have kept := after_ok writing ▸ Artifact.write_agrees_of_clear (.step (outcomeOf answer)) candidate
        (Step.isName_fileStem careful.plain p.number _) fun name member => careful.apart.clear_needed standing
          (Shader.isOwn_of_mem_fileNames member) (Shader.ne_of_mem_fileNames member)
      exact vacant.of_agreeOn kept.files
  · exact (unhindered.room.advance (Nat.le_succ p.number)).beside (agree.trans (World.agrees_noting _ left level message))
      fun name uses => uses.notStep
  · exact Nat.le_trans (Nat.mul_le_mul_left 5 less) unhindered.few
  · have within := unhindered.within
    change p.number + 1 + _ ≤ beyond
    omega

/-- No step fails. -/
theorem not_error (tolerant : reducer.stopOnError = false) {fault : Fault} {left : ReductionState × World σ} :
    ¬ Steps reducer base p (.error fault left) := by
  intro steps
  cases steps with
  | unproposed _ _ offered unproposed =>
    obtain ⟨opportunity, candidate, context, proposes⟩ := exists_proposes offered
    exact unproposed opportunity candidate context proposes
  | crashed proposes failed other =>
    obtain ⟨answer, judged, answers, -⟩ := unhindered.exists_answers responsive (unhindered.candidate_writable proposes)
    rcases answer with oracle | value
    · obtain ⟨run, isOracle⟩ := answers
      cases failed.symm.trans run
      rw [other] at isOracle
      cases isOracle
    · exact absurd (failed.symm.trans answers) nofun
  | @unwritten opportunity candidate context answer _ _ _ proposes answers _ failed =>
    have within := unhindered.number_lt (List.ne_nil_of_mem proposes.isOpen)
    obtain ⟨artifact, left, written⟩ := (unhindered.room_of_answers careful responsive answers).writeStep careful.plain
      within (outcomeOf answer) (unhindered.candidate_writable proposes)
    rw [failed] at written
    cases written
  | stopped _ _ _ stops =>
    rw [tolerant] at stops
    cases stops

end Unhindered

section Whole

variable {first limit : Int} {now : ReductionState} {world marked opened : World σ}

/-- Placing the marker puts nothing in the way of a judgement, and neither does the judgement of the starting shader. -/
private theorem vacant_opened (careful : Careful reducer base world.scratch)
    (responsive : Responsive reducer base world.scratch) (vacant : world.files.Vacant world.scratch)
    (writable : now.shader.Writable) (marking : Progress.placeMarker reducer.work world = .ok () marked)
    (checks : Checks reducer base now (announced base first limit now marked) (.ok () (now, opened))) :
    opened.files.Vacant world.scratch := by
  have standing := FileTree.standing_of_isDirectory (Progress.placeMarker_ok marking).1
  have touched : World.Agrees world.scratch.Needed world marked := by
    rw [← after_ok marking, Progress.placeMarker, Progress.marker_eq]
    exact Action.touch_agrees (careful.apart.clear_needed standing (.inr rfl) Progress.markerName_ne)
  have vacant := vacant.of_agreeOn touched.files
  have same : (announced base first limit now marked).scratch = world.scratch := touched.scratch
  cases checks with
  | skipped _ => exact vacant
  | @passed judged _ _ run =>
    rw [← same] at responsive vacant ⊢
    obtain ⟨answer, left, answers, vacant⟩ := judge_answers responsive vacant writable
    have left_eq : left = judged := (answers_after answers).symm.trans (after_ok run)
    exact left_eq ▸ vacant

/-- In front of the first step the world is ready. -/
theorem unhindered_start (careful : Careful reducer base world.scratch)
    (responsive : Responsive reducer base world.scratch) (vacant : world.files.Vacant world.scratch)
    (writable : now.shader.Writable)
    (room : Progress.Room reducer.work base first.toNat (first.toNat + now.shader.patience now.context.rules.version) world.files)
    (marking : Progress.placeMarker reducer.work world = .ok () marked)
    (checks : Checks reducer base now (announced base first limit now marked) (.ok () (now, opened))) :
    Unhindered reducer base now.context.rules.version (5 * now.shader.effort now.context.rules.version)
      (first.toNat + now.shader.patience now.context.rules.version) world.scratch ⟨first.toNat, [], now, opened⟩ := by
  obtain ⟨agree, still⟩ := careful.opened_agrees marking checks
  obtain ⟨marked', marking', room⟩ := room.placeMarker
  cases marking.symm.trans marking'
  have still : World.Agrees (Progress.Beside reducer.work []) marked opened := Progress.Own.beside still
  refine ⟨agree.scratch, rfl, writable, vacant_opened careful responsive vacant writable marking checks,
    room.beside still fun _ _ => List.not_mem_nil, Nat.le_refl _, ?_⟩
  have opportunities := now.shader.length_opportunities_le_effort now.context.rules now.context.rules.version
  have fewer := List.length_filter_le (fun opportunity => !([] : List String).contains opportunity.key)
    (now.shader.opportunities now.context.rules)
  unfold stepsLeft openOpportunities Shader.patience
  dsimp only
  omega

/-- At every position of the reduction the world is ready for the next step. -/
theorem unhindered_of_mem (careful : Careful reducer base world.scratch)
    (responsive : Responsive reducer base world.scratch) (vacant : world.files.Vacant world.scratch)
    (writable : now.shader.Writable)
    (room : Progress.Room reducer.work base first.toNat (first.toNat + now.shader.patience now.context.rules.version) world.files)
    {p : Position σ} (member : p ∈ reducer.course base first limit now world) :
    Unhindered reducer base now.context.rules.version (5 * now.shader.effort now.context.rules.version)
      (first.toNat + now.shader.patience now.context.rules.version) world.scratch p :=
  course_induction (fun _ _ marking checks => unhindered_start careful responsive vacant writable room marking checks)
    (fun _ _ _ further unhindered => unhindered.next careful responsive further) member

end Whole

/-- Opportunities can be followed one after another only as often as a shader has lines, names and initial values to be
changed.  So a reduction whose starting shader passes runs out of opportunities, whatever its judge says, if oracle
faults do not stop it, its limit is large enough, and the system gives it room for its files.  Where no
starting shader is checked, the metadata of the present one have to be such as can be written. -/
theorem reduce_exhausts :
    (∀ (version : Version) (shader : Shader) (later : List Shader),
      (shader :: later).IsChain (Shader.Follows version) → later.length ≤ shader.effort version) ∧
    ∀ {σ : Type} (reducer : Reducer σ) (base : String) (first limit : Int) (now : ReductionState) (world : World σ),
      Careful reducer base world.scratch → Responsive reducer base world.scratch →
      world.files.Vacant world.scratch → (now.isInitial = false → now.shader.Writable) →
      Progress.Room reducer.work base first.toNat (first.toNat + now.shader.patience now.context.rules.version) world.files →
      reducer.stopOnError = false → now.status = .running → 1 ≤ first →
      first + now.shader.patience now.context.rules.version ≤ limit →
      (∀ marked, Progress.placeMarker reducer.work world = .ok () marked →
        ∃ passed, reducer.checkInitial base (now, announced base first limit now marked) = .ok () passed) →
      ∃ result left, reducer.reduce base first limit (now, world) = .ok result left ∧ result.reason = .exhausted := by
  refine ⟨fun version shader later chain => Shader.length_le_effort chain, ?_⟩
  intro σ reducer base first limit now world careful responsive vacant writable room tolerant running positive enough passes
  obtain ⟨marked, marking, -⟩ := room.placeMarker
  obtain ⟨passed, check⟩ := passes marked marking
  have writable : now.shader.Writable := by
    have checks := checkInitial_cases reducer base now (announced base first limit now marked)
    rw [check] at checks
    cases checks with
    | skipped isStored => exact writable isStored
    | passed _ _ run => exact writable_of_judge run
  have begun : reducer.course base first limit now world ≠ [] := by
    simp only [course, marking, check]
    exact positions_ne_nil _ _ _ _
  have reduces := reduce_cases reducer base first limit world running
  generalize reducer.reduce base first limit (now, world) = result at reduces
  have unhindered : ∀ {last}, (reducer.course base first limit now world).getLast? = some last → Unhindered reducer base _ _ _ _ last :=
    fun isLast => unhindered_of_mem careful responsive vacant writable room (List.mem_of_getLast? isLast)
  cases reduces with
  | refused _ low => omega
  | unmarked none _ | unchecked none _ _ => exact absurd none begun
  | crashed isLast steps => exact absurd steps ((unhindered isLast).not_error careful responsive tolerant)
  | unwritten isLast failed =>
    obtain ⟨artifact, left, written⟩ := (unhindered isLast).room.writeFinal careful.plain (unhindered isLast).writable
    cases failed.symm.trans written
  | uncleared _ isLast writing failed =>
    obtain ⟨cleared, clearing⟩ := (unhindered isLast).room.clearMarker careful.plain writing
    cases failed.symm.trans clearing
  | finished _ _ isLast _ _ _ stops =>
    refine ⟨_, _, rfl, ?_⟩
    cases stops with
    | exhausted _ => rfl
    | limited reached =>
      have within := (unhindered isLast).within
      omega

/-- A reducer whose judge wants nothing. -/
def acceptAll : Reducer Unit where
  verdict _ := pure true
  work := ⟨"", ["work"]⟩
  keepRejected := true
  stopOnError := false

/-- A shader of one blank line, about to be reduced. -/
def blankLine : ReductionState :=
  ⟨⟨⟨false, .default⟩, ⟨0, ⟨#[], 0⟩⟩, 0⟩, ⟨"\n".toList, [], .default⟩, true, .running, []⟩

theorem acceptAll_careful : Careful acceptAll "s" emptyDirectory.scratch where
  plain := by decide
  apart := apart_of_ne (by decide) (by decide) (by decide) (by decide)
  spares _ _ world _ _ := .refl _ world

theorem acceptAll_responsive : Responsive acceptAll "s" emptyDirectory.scratch where
  answers _ world := .inl ⟨_, world, rfl⟩
  keepsWay _ _ world _ := .refl _ world
  isName := by decide
  inside := by decide
  fits := by decide
  fitsFiles := by decide

theorem vacant_emptyDirectory : emptyDirectory.files.Vacant emptyDirectory.scratch where
  parent := by decide
  empty := by
    rintro place ⟨rest, rfl⟩
    simp [emptyDirectory, FileTree.lookup?]

/-- An empty working directory has room for every file whose path the system takes. -/
theorem admits_emptyDirectory {name : String} (down : name ≠ "..") (fits : (acceptAll.work.entry name).Fits) :
    emptyDirectory.files.Admits (acceptAll.work.entry name) := by
  refine FileTree.admits_entry fits (FileTree.standing_of_isDirectory (by decide)) ?_
  rw [Path.entry_place _ down]
  simp [emptyDirectory, FileTree.lookup?, acceptAll, Path.place, Place.walk, Place.next]

theorem room_emptyDirectory : Progress.Room acceptAll.work "s" 1 12 emptyDirectory.files := by
  have steps : ∀ number < 12, ∀ outcome ∈ StepOutcome.all, ∀ name ∈ Step.fileNames "s" number outcome,
      (acceptAll.work.entry name).Fits := by decide +kernel
  have others : ∀ name ∈ Progress.markerName :: Shader.fileNames (Step.finalStem "s"), (acceptAll.work.entry name).Fits := by
    decide +kernel
  intro name uses
  refine admits_emptyDirectory uses.down ?_
  cases uses with
  | @step number outcome _ _ below member => exact steps number below outcome (by cases outcome <;> decide) name member
  | final member => exact others name (List.mem_cons_of_mem _ member)
  | marker => exact others _ List.mem_cons_self

/-- The blank line goes, and then there is nothing left to try. -/
theorem reduce_exhausts_blankLine :
    1 ≤ blankLine.shader.effort .default ∧
      ∃ result left, acceptAll.reduce "s" 1 12 (blankLine, emptyDirectory) = .ok result left ∧ result.reason = .exhausted := by
  have patience : blankLine.shader.patience .default = 11 := by decide +kernel
  have follows : Shader.Follows .default blankLine.shader ⟨[], [], .default⟩ :=
    ⟨⟨false, .default⟩, ⟨.removeBlankOrComment, 0, 0, []⟩, blankLine.context, _, rfl, by decide +kernel, rfl⟩
  refine ⟨reduce_exhausts.1 .default _ [_] (.cons_cons follows (.singleton _)), ?_⟩
  refine reduce_exhausts.2 acceptAll "s" 1 12 blankLine emptyDirectory acceptAll_careful acceptAll_responsive
    vacant_emptyDirectory (fun isStored => nomatch isStored) ?_ rfl rfl (by decide) ?_ ?_
  · change Progress.Room _ _ 1 (1 + blankLine.shader.patience .default) _
    rw [patience]
    exact room_emptyDirectory
  · change 1 + ((blankLine.shader.patience .default : Nat) : Int) ≤ 12
    rw [patience]
    decide
  · intro marked marking
    have passes : succeeds (acceptAll.checkInitial "s"
        (blankLine, announced "s" 1 12 blankLine (after (Progress.placeMarker acceptAll.work) emptyDirectory))) = true := by
      decide +kernel
    rw [after_ok marking] at passes
    obtain ⟨_, passed, check⟩ := exists_of_succeeds passes
    exact ⟨passed, check⟩

end Reducer

end ShaderShrink
