import ShaderShrink.Proofs.Reduction.Minimality
import ShaderShrink.Proofs.Reduction.Rejected
import ShaderShrink.Proofs.Reduction.Stages

/-!
# What a larger limit changes

A larger limit only extends a reduction.  If a reduction ends with a result, one with a smaller limit does so too: it goes
through the same steps up to its limit, stops there, and leaves the shader that is the present one of the longer reduction
behind that step.  Where it runs out of opportunities before that, both are the same.
-/

namespace ShaderShrink

open Effect Progress

variable {σ : Type}

namespace Reducer

variable {reducer : Reducer σ} {base : String} {scratch : Path} {shown : σ → List Shader} {answer : List Shader → Answer}
  {p q r : Position σ}

/-! ## What later positions have in common -/

/-- The names of the files that are written or cleared when the steps are over. -/
def lastNames (base : String) : List String := markerName :: Shader.fileNames (Step.finalStem base)

theorem notStep_of_mem_lastNames {name : String} (member : name ∈ lastNames base) :
    IsOwn name ∧ name ≠ ".." ∧ ∀ number outcome, name ∉ Step.fileNames base number outcome := by
  rcases List.mem_cons.mp member with rfl | final
  · exact ⟨.inr rfl, markerName_ne, fun _ _ file => Shader.notMarker_of_mem_fileNames file (List.mem_singleton_self _)⟩
  · exact ⟨Shader.isOwn_of_mem_fileNames final, Shader.ne_of_mem_fileNames final,
      fun _ _ file => Step.finalStem_ne base _ _ (Shader.stem_eq_of_mem_fileNames final file)⟩

/-- What holds at a position that a loop comes to from another one: the records that it has more belong to the steps
between them, the shader has the same metadata, the marker and the final files are untouched, and the judge was shown no
more candidates than there were steps. -/
structure Later (reducer : Reducer σ) (base : String) (scratch : Path) (shown : σ → List Shader) (p q : Position σ) :
    Prop where
  ready : Ready reducer.work scratch [] q.world
  number : p.number ≤ q.number
  metadata : q.state.shader.metadata = p.state.shader.metadata
  records : ∃ records, q.state.steps = p.state.steps ++ records ∧
    ∀ record ∈ records, p.number ≤ record.number ∧ record.number < q.number
  files : ∀ name ∈ lastNames base,
    FileTree.AgreeOn (· ∈ (reducer.work.entry name).visited) p.world.files q.world.files
  shown : (shown q.world.outside).length + p.number ≤ (shown p.world.outside).length + q.number

theorem Later.refl (ready : Ready reducer.work scratch [] p.world) : Later reducer base scratch shown p p :=
  ⟨ready, Nat.le_refl _, rfl, ⟨[], (List.append_nil _).symm, fun _ member => (List.not_mem_nil member).elim⟩,
    fun _ _ => .refl _ _, Nat.le_refl _⟩

section Later

variable (careful : Careful reducer base scratch) (sheltered : Sheltered reducer base scratch)
  (remembers : reducer.verdict.Remembers shown answer)
include careful sheltered

include remembers

omit careful in
/-- A judgement shows the judge at most one candidate more. -/
theorem shown_judge_le {world : World σ} (ready : Ready reducer.work scratch [] world) (candidate : Shader) :
    (shown (after (reducer.judge base candidate) world).outside).length ≤ (shown world.outside).length + 1 := by
  rw [(judge_remembers (ready.sameScratch ▸ sheltered) (ready.sameScratch ▸ ready.vacant) remembers candidate).1]
  split_ifs
  · rw [List.length_append, List.length_singleton]
  · exact Nat.le_succ _

theorem Later.next (later : Later reducer base scratch shown p q) (further : reducer.next? base q = some r) :
    Later reducer base scratch shown p r := by
  obtain ⟨opportunity, candidate, context, said, judged, records, left, level, message, proposes, answers, recorded, rfl⟩ :=
    next?_cases further
  obtain ⟨ready, same⟩ := recorded_ready careful sheltered later.ready answers recorded
  obtain ⟨more, steps, bounds⟩ := later.records
  have least := later.number
  refine ⟨ready.noting level message, Nat.le_succ_of_le least, ?_, ⟨more ++ records, ?_, ?_⟩, fun name member => ?_, ?_⟩
  · obtain ⟨chosen, -, applied⟩ := proposes.applied
    have kept := (Opportunity.apply_ok applied).1
    cases accepted : accepts said with
    | true => simpa only [behind, accepted, ↓reduceIte] using kept.trans later.metadata
    | false => simpa only [behind, accepted, Bool.false_eq_true, ↓reduceIte] using later.metadata
  · change q.state.steps ++ records = _
    rw [steps, List.append_assoc]
  · intro record member
    change _ ∧ record.number < q.number + 1
    rcases List.mem_append.mp member with before | new
    · exact ⟨(bounds record before).1, Nat.lt_succ_of_lt (bounds record before).2⟩
    · cases recorded with
      | dropped _ => cases new
      | written _ _ =>
        obtain rfl := List.mem_singleton.mp new
        exact ⟨least, Nat.lt_succ_self _⟩
  · obtain ⟨own, down, other⟩ := notStep_of_mem_lastNames member
    have agree := (Careful.recorded_agrees (later.ready.sameScratch ▸ careful) later.ready.stands answers recorded).2
    exact (later.files name member).trans (agree.files.mono fun _ => beside_entry own down (other _ _))
  · have grown := shown_judge_le sheltered remembers later.ready candidate
    have before := later.shown
    rw [answers_after answers] at grown
    change (shown left.outside).length + p.number ≤ (shown p.world.outside).length + (q.number + 1)
    rw [show left.outside = judged.outside by rw [same]]
    omega

theorem later_of_mem {left : Nat} (ready : Ready reducer.work scratch [] p.world)
    (member : q ∈ reducer.positions base left p) : Later reducer base scratch shown p q :=
  positions_induction (.refl ready) (fun _ _ _ further later => later.next careful sheltered remembers further) member

end Later

/-! ## A loop with a smaller limit -/

theorem number_of_mem_positions {left : Nat} (member : q ∈ reducer.positions base left p) : p.number ≤ q.number := by
  refine @positions_induction σ reducer base left p (fun q => p.number ≤ q.number) (Nat.le_refl _)
    (fun q _ r further least => ?_) q member
  obtain ⟨_, _, _, _, _, _, _, _, _, -, -, -, rfl⟩ := next?_cases further
  exact Nat.le_succ_of_le least

/-- The first positions of a loop are those with small numbers. -/
theorem positions_take (total left : Nat) (p : Position σ) :
    ((reducer.positions base total p).filter fun q => q.number ≤ p.number + left) =
      (reducer.positions base total p).take (left + 1) := by
  induction total generalizing left p with
  | zero => simp [positions]
  | succ total ih =>
    rw [positions, List.filter_cons_of_pos (by simp), List.take_succ_cons]
    cases further : reducer.next? base p with
    | none => simp
    | some q =>
      have behind : q.number = p.number + 1 := by
        obtain ⟨_, _, _, _, _, _, _, _, _, -, -, -, rfl⟩ := next?_cases further
        rfl
      dsimp only
      congr 1
      cases left with
      | zero =>
        rw [List.take_zero, List.filter_eq_nil_iff]
        intro r member small
        have least := number_of_mem_positions member
        simp only [decide_eq_true_eq] at small
        omega
      | succ left =>
        rw [← ih left q, behind]
        refine List.filter_congr fun r _ => ?_
        rw [Nat.add_right_comm, Nat.add_assoc]

/-- A loop that ends without a fault ends at one of its positions. -/
theorem loop_ok {left next : Nat} {after : ReductionState × World σ} (running : p.state.status = .running)
    (success : reducer.loop base left p.number p.rejected (p.state, p.world) = .ok next after) :
    ∃ last ∈ reducer.positions base left p, ∃ status,
      next = last.number ∧ after = ({ last.state with status := status }, last.world) := by
  obtain ⟨last, isLast, ends⟩ := @loop_ends σ reducer base left p running
  rw [success] at ends
  cases ends with
  | finished status _ => exact ⟨last, List.mem_of_getLast? isLast, status, rfl, rfl⟩

/-- How a loop of up to `left + more` steps, which has ended at the position `last` with some status, ends if it is stopped
after `left` steps: at one of its first positions, and it has run out of opportunities there or is stopped. -/
structure Stopped (reducer : Reducer σ) (base : String) (left more : Nat) (p stop last : Position σ)
    (reason status : ReductionStatus) : Prop where
  isStop : ((reducer.positions base (left + more) p).take (left + 1)).getLast? = some stop
  looping : reducer.loop base left p.number p.rejected (p.state, p.world) =
    .ok stop.number ({ stop.state with status := reason }, stop.world)
  goesOn : last ∈ reducer.positions base more stop
  reasons : reason = .exhausted ∧ stop.number < p.number + left ∧ last = stop ∧ status = .exhausted ∨
    reason = .budgetReached ∧ stop.number = p.number + left

/-- A loop that ends without a fault does so with a smaller limit too. -/
theorem loop_of_more {left more next : Nat} {after : ReductionState × World σ} (running : p.state.status = .running)
    (success : reducer.loop base (left + more) p.number p.rejected (p.state, p.world) = .ok next after) :
    ∃ stop last reason status, Stopped reducer base left more p stop last reason status ∧
      next = last.number ∧ after = ({ last.state with status := status }, last.world) := by
  induction left generalizing p with
  | zero =>
    rw [Nat.zero_add] at success
    obtain ⟨last, member, status, ends⟩ := loop_ok running success
    refine ⟨p, last, .budgetReached, status, ⟨?_, ?_, member, .inr ⟨rfl, rfl⟩⟩, ends⟩
    · cases more <;> simp [positions]
    · rw [loop, bind_state]
      simp only [running, ↓reduceIte]
      rfl
  | succ left ih =>
    have total : left + 1 + more = left + more + 1 := by omega
    rw [total, loop, bind_state] at success
    simp only [running, ↓reduceIte] at success
    cases run : reducer.step base p.number p.rejected (p.state, p.world) with
    | error fault after =>
      rw [bind_of_error run] at success
      cases success
    | ok rejected stepped =>
      obtain ⟨now, world⟩ := stepped
      rw [bind_of_ok run, bind_state] at success
      have looping : reducer.loop base (left + 1) p.number p.rejected (p.state, p.world) =
          if now.status = .running then reducer.loop base left (p.number + 1) rejected (now, world)
          else .ok p.number (now, world) := by
        rw [loop, bind_state]
        simp only [running, ↓reduceIte]
        rw [bind_of_ok run, bind_state]
        split_ifs <;> rfl
      by_cases goes : now.status = .running
      · have further : reducer.next? base p = some ⟨p.number + 1, rejected, now, world⟩ := by
          simp only [next?, run, goes, ↓reduceIte]
        simp only [goes, ↓reduceIte] at success looping
        obtain ⟨stop, last, reason, status, stopped, ends⟩ := @ih ⟨p.number + 1, rejected, now, world⟩ goes success
        refine ⟨stop, last, reason, status, ⟨?_, looping.trans stopped.looping, stopped.goesOn, ?_⟩, ends⟩
        · have filled := positions_ne_nil reducer base (left + more) ⟨p.number + 1, rejected, now, world⟩
          rw [total, positions, List.take_succ_cons, further, List.getLast?_cons_of_ne_nil (by simpa using filled),
            stopped.isStop]
        · rw [show p.number + (left + 1) = p.number + 1 + left by omega]
          exact stopped.reasons
      · have further : reducer.next? base p = none := by simp only [next?, run, goes, ↓reduceIte]
        simp only [goes, ↓reduceIte] at success looping
        cases success
        have possible := step_cases reducer base p
        rw [run] at possible
        cases possible with
        | exhausted closed =>
          refine ⟨p, p, .exhausted, .exhausted, ⟨?_, looping, mem_positions_self _ _ _ _, .inl ⟨rfl, by omega, rfl, rfl⟩⟩, rfl, rfl⟩
          rw [total, positions, List.take_succ_cons, further]
          rfl
        | moved level message _ _ _ _ => exact absurd running goes

/-! ## The shorter reduction -/

section Shorter

variable {first limit m n : Int} {now : ReductionState} {world : World σ}

/-- Placing the marker does not touch the tools outside. -/
theorem placeMarker_outside {marked : World σ} (marking : placeMarker reducer.work world = .ok () marked) :
    marked.outside = world.outside := by
  unfold placeMarker Action.touch at marking
  rw [bind_of_ok (Action.files_apply world)] at marking
  split at marking
  · rw [(Action.changeFiles_ok marking).2]
  · cases marking
    rfl

/-- At the beginning of the loop the judge has been shown no more than the starting shader. -/
theorem shown_opened_le {opened : World σ} (sheltered : Sheltered reducer base scratch)
    (remembers : reducer.verdict.Remembers shown answer) (ready : Ready reducer.work scratch [] world)
    (success : reducer.checkInitial base (now, world) = .ok () (now, opened)) :
    (shown opened.outside).length ≤ (shown world.outside).length + if now.isInitial then 1 else 0 := by
  have checks := checkInitial_cases reducer base now world
  rw [success] at checks
  cases checks with
  | skipped stored => simp [stored]
  | passed message initial run =>
    simp only [initial, ↓reduceIte]
    exact after_ok run ▸ shown_judge_le sheltered remembers ready now.shader

/-- Where the marker can be cleared depends only on what its path visits. -/
theorem clearMarker_of_agreeOn {work : Path} {a b left : World σ}
    (agree : FileTree.AgreeOn (· ∈ (work.entry markerName).visited) a.files b.files)
    (success : clearMarker work a = .ok () left) : ∃ cleared, clearMarker work b = .ok () cleared ∧ cleared.outside = b.outside := by
  unfold clearMarker at success ⊢
  rw [marker_eq] at success ⊢
  obtain ⟨removed, -⟩ := Action.changeFiles_ok success
  cases removing : b.files.remove (work.entry markerName) with
  | error failure => cases removed.symm.trans ((agree.remove_error_iff failure).mpr removing)
  | ok tree => exact ⟨{ b with files := tree }, by rw [Action.remove, Action.changeFiles_apply, removing], rfl⟩

/-- Where the final shader can be written and the marker cleared depends only on what their paths visit. -/
theorem end_of_agreeOn {work : Path} {a b written cleared : World σ} {shader shader' : Shader} {artifact : Artifact}
    (plain : '/' ∉ base.toList) (stands : a.files.isDirectory work = true) (stands' : b.files.isDirectory work = true)
    (agree : ∀ name ∈ lastNames base, FileTree.AgreeOn (· ∈ (work.entry name).visited) a.files b.files)
    (metadata : shader'.metadata = shader.metadata) (writing : Artifact.writeFinal work base shader a = .ok artifact written)
    (clearing : clearMarker work written = .ok () cleared) :
    ∃ artifact' written' cleared', Artifact.writeFinal work base shader' b = .ok artifact' written' ∧
      clearMarker work written' = .ok () cleared' ∧ cleared'.outside = b.outside := by
  have isName := Step.isName_finalStem plain
  rw [Artifact.writeFinal_eq] at writing
  obtain ⟨admits, writable⟩ := Artifact.admits_of_write isName stands writing
  have writable' : shader'.Writable := by
    unfold Shader.Writable at writable ⊢
    rwa [metadata]
  obtain ⟨artifact', written', writing'⟩ :
      ∃ artifact' written', Artifact.write work (Step.finalStem base) .final shader' b = .ok artifact' written' :=
    Artifact.write_of_admits isName stands'
      (fun name file => (admits name file).of_agreeOn (agree name (List.mem_cons_of_mem _ file))) writable'
  have still : ∀ {a b : World σ} {shader : Shader} {artifact : Artifact}, a.files.isDirectory work = true →
      Artifact.write work (Step.finalStem base) .final shader a = .ok artifact b →
      FileTree.AgreeOn (· ∈ (work.entry markerName).visited) a.files b.files := by
    intro a b shader artifact stands writing
    have kept := after_ok writing ▸ Artifact.write_agrees .final shader isName (FileTree.standing_of_isDirectory stands)
    exact kept.files.mono fun _ => beside_entry (.inr rfl) markerName_ne fun file =>
      Shader.notMarker_of_mem_fileNames file (List.mem_singleton_self _)
  obtain ⟨cleared', clearing', outside⟩ := clearMarker_of_agreeOn
    (((still stands writing).symm.trans (agree _ List.mem_cons_self)).trans (still stands' writing')) clearing
  obtain ⟨-, -, same, -⟩ := Artifact.write_ok isName stands' writing'
  exact ⟨artifact', written', cleared', writing', clearing', outside.trans (by rw [same])⟩

/-- The records of a loop up to some step are those that it has at the position where it stops with that limit. -/
theorem Stopped.records {left more : Nat} {p stop last : Position σ} {reason status : ReductionStatus}
    (stopped : Stopped reducer base left more p stop last reason status) (toStop : Later reducer base scratch shown p stop)
    (toLast : Later reducer base scratch shown stop last) (fresh : p.state.steps = []) :
    (stop.state.steps = last.state.steps.filter fun record => record.number < p.number + left) ∧
      ∀ record ∈ last.state.steps, p.number ≤ record.number := by
  obtain ⟨before, steps, bounds⟩ := toStop.records
  obtain ⟨behind, steps', bounds'⟩ := toLast.records
  have all : before.filter (fun record => record.number < p.number + left) = before := by
    refine List.filter_eq_self.mpr fun record member => decide_eq_true ?_
    have bound := (bounds record member).2
    rcases stopped.reasons with ⟨-, below, -⟩ | ⟨-, same⟩ <;> omega
  have none : behind.filter (fun record => record.number < p.number + left) = [] := by
    refine List.filter_eq_nil_iff.mpr fun record member small => ?_
    have bound := bounds' record member
    have small := of_decide_eq_true small
    rcases stopped.reasons with ⟨-, -, rfl, -⟩ | ⟨-, same⟩ <;> omega
  rw [fresh, List.nil_append] at steps
  rw [steps', steps]
  refine ⟨by rw [List.filter_append, all, none, List.append_nil], fun record member => ?_⟩
  rcases List.mem_append.mp member with early | late
  · exact (bounds record early).1
  · exact Nat.le_trans toStop.number (bounds' record late).1

/-- How a reduction with the limit `m` compares with one with the larger limit `n`, where `long` and `short` are the results
and `longLeft` and `left` the worlds behind them: its records are the first ones, it has judged no more candidates than it
may take steps, and its final shader is the present one of the longer reduction behind the step `m`.  If it has run out of
opportunities, the two are the same. -/
structure Shortens (reducer : Reducer σ) (base : String) (first m n : Int) (shown : σ → List Shader) (now : ReductionState)
    (world : World σ) (long : ReductionResult) (longLeft : World σ) (short : ReductionResult) (left : World σ) : Prop where
  records : short.steps = long.steps.filter fun record => (record.number : Int) ≤ m
  judged : (shown left.outside).length ≤
    (shown world.outside).length + (if now.isInitial then 1 else 0) + (m + 1 - first).toNat
  shader : ∃ p, ((reducer.course base first n now world).filter fun p => (p.number : Int) ≤ max first (m + 1)).getLast? =
    some p ∧ short.shader = p.state.shader
  ends : short.reason = .exhausted ∨ short.reason = .budgetReached
  exhausted : short.reason = .exhausted → short = long ∧ shown left.outside = shown longLeft.outside ∧
    ∀ name, IsOwn name → left.files.lookup? (reducer.work.place ++ [name]) = longLeft.files.lookup? (reducer.work.place ++ [name])

/-- A reduction beside one with a smaller limit `m`. -/
def Pairing.shortened (reducer : Reducer σ) (base : String) (scratch : Path) (shown : σ → List Shader)
    (answer : List Shader → Answer) (first m : Int) : Pairing σ :=
  ⟨reducer, reducer.keepRejected, reducer.keepRejected, base, scratch, shown, answer, first.toNat, (m + 1 - first).toNat⟩

/-- The stages of a reduction with the limit `n` that has come to `last`, beside those of one with the limit `m` that has
stopped where the first one is at `stop`. -/
structure Cut (pair : Pairing σ) (first m n : Int) (now : ReductionState) (world : World σ) (long short : Stages σ)
    (stop last : Position σ) (reason status : ReductionStatus) : Prop where
  longer : long.Lead pair.reducer pair.base first n now world
  shorter : short.Lead pair.reducer pair.base first m now world
  ready : Ready pair.reducer.work pair.scratch [] (announced pair.base first n now long.marked)
  stopped : Stopped pair.reducer pair.base (m + 1 - first).toNat ((n + 1 - first).toNat - (m + 1 - first).toNat)
    ⟨first.toNat, [], now, long.opened⟩ stop last reason status
  longEnd : long.next = last.number ∧ (long.ended, long.looped) = ({ last.state with status := status }, last.world)
  shortEnd : short.next = stop.number ∧ short.cleared.outside = short.looped.outside
  together : pair.Together ({ stop.state with status := reason }, stop.world) (short.ended, short.looped)
  toStop : Later pair.reducer pair.base pair.scratch pair.shown ⟨first.toNat, [], now, long.opened⟩ stop
  toLast : Later pair.reducer pair.base pair.scratch pair.shown stop last

variable {long short : Stages σ} {stop last : Position σ} {reason status : ReductionStatus}

/-- Stages from which a loop has left the same shader in worlds abreast of each other end in the same way. -/
theorem Stages.Lead.same {pair : Pairing σ} (fair : pair.Fair) (lead : long.Lead pair.reducer pair.base first n now world)
    (lead' : short.Lead pair.reducer pair.base first m now world) (shader : short.ended.shader = long.ended.shader)
    (abreast : pair.Abreast long.looped short.looped) :
    short.artifact = long.artifact ∧ pair.Matching long.cleared short.cleared := by
  have writes := abreast.writeArtifact fair.careful.apart (Step.isName_finalStem fair.careful.plain) .final long.ended.shader
    fun name file => Step.notMem_spareNames_final file
  have writing := lead.writing
  have writing' := lead'.writing
  rw [Artifact.writeFinal_eq] at writing writing'
  rw [shader] at writing'
  rw [writing, writing'] at writes
  obtain ⟨same, written⟩ := writes.ok_ok
  have clears := pair.clearMarker ⟨written.files, written.shown⟩
  rw [lead.clearing, lead'.clearing] at clears
  exact ⟨same.symm, clears.ok_ok.2⟩

section Cut

variable {reducer : Reducer σ} {world : World σ} (careful : Careful reducer base world.scratch)
  (sheltered : Sheltered reducer base world.scratch) (remembers : reducer.verdict.Remembers shown answer)

theorem Pairing.shortened_spareNames : (Pairing.shortened reducer base scratch shown answer first m).spareNames = [] := by
  simp [Pairing.shortened, Pairing.spareNames, Step.spareNames]

include careful sheltered remembers

theorem Pairing.shortened_fair : (Pairing.shortened reducer base world.scratch shown answer first m).Fair :=
  ⟨careful, sheltered, remembers, id⟩

/-- A reduction that ends with a result has stages beside those of any larger limit's. -/
theorem Stages.Lead.exists_cut (vacant : world.files.Vacant world.scratch) (running : now.status = .running) (less : m ≤ n)
    (lead : long.Lead reducer base first n now world) :
    ∃ short stop last reason status, Cut (.shortened reducer base world.scratch shown answer first m) first m n now world long
      short stop last reason status := by
  let pair : Pairing σ := .shortened reducer base world.scratch shown answer first m
  have fair : pair.Fair := Pairing.shortened_fair careful sheltered remembers
  have none : pair.spareNames = [] := Pairing.shortened_spareNames
  have begun : pair.Together (now, announced base first n now long.marked) (now, announced base first m now long.marked) :=
    fair.begins now rfl vacant (fun name member => by rw [none] at member; cases member) lead.marking
  -- The judgement of the starting shader and the loop up to the smaller limit go the same way in both reductions.
  have checked := fair.checkInitial begun
  rw [show (pair.reducer.keeping pair.keep).checkInitial pair.base
    (now, announced base first n now long.marked) = _ from lead.checking] at checked
  obtain ⟨_, ⟨now', opened⟩, checking, -, opens⟩ := checked.exists_ok
  obtain rfl : now' = now := checkInitial_now checking
  let start : Position σ := ⟨first.toNat, [], now', long.opened⟩
  have looping := lead.looping
  rw [← Nat.add_sub_of_le (show (m + 1 - first).toNat ≤ (n + 1 - first).toNat by omega)] at looping
  obtain ⟨stop, last, reason, status, stopped, longEnd⟩ := loop_of_more (p := start) running looping
  obtain ⟨ended, looped⟩ := Prod.mk.inj longEnd.2
  have ran := @Pairing.Fair.loop σ pair _ _ _ _ fair (m + 1 - first).toNat first.toNat (Nat.le_refl first.toNat)
    (Nat.le_refl _) opens []
  rw [show (pair.reducer.keeping pair.keep).loop pair.base _ first.toNat [] (now', long.opened) = _ from stopped.looping]
    at ran
  obtain ⟨_, ⟨state, left⟩, looping', rfl, together⟩ := ran.exists_ok
  have ready : Ready reducer.work world.scratch [] long.opened := none ▸ opens.worlds.ready
  have toStop : Later reducer base world.scratch shown start stop :=
    later_of_mem careful sheltered remembers ready (List.mem_of_mem_take (List.mem_of_getLast? stopped.isStop))
  have toLast : Later reducer base world.scratch shown stop last :=
    later_of_mem careful sheltered remembers toStop.ready stopped.goesOn
  -- So the shorter reduction can write its final shader and clear the marker, as the longer one does.
  obtain ⟨artifact, written, cleared, writing, clearing, kept⟩ : ∃ artifact written cleared,
      Artifact.writeFinal reducer.work base state.shader left = .ok artifact written ∧
      clearMarker reducer.work written = .ok () cleared ∧ cleared.outside = left.outside := by
    refine end_of_agreeOn careful.plain toLast.ready.stands together.worlds.ready'.stands (fun name member => ?_) ?_
      (looped ▸ lead.writing) lead.clearing
    · obtain ⟨own, down, -⟩ := notStep_of_mem_lastNames member
      exact (toLast.files name member).symm.trans
        (together.worlds.agreeOn_entry own down (by rw [none]; exact List.not_mem_nil))
    · have shader : state.shader = stop.state.shader := together.alike.shader
      rw [ended, shader]
      exact toLast.metadata.symm
  exact ⟨⟨long.marked, opened, stop.number, state, left, artifact, written, cleared⟩, stop, last, reason, status, lead,
    ⟨lead.positive, lead.marking, checking, looping', writing, clearing⟩, none ▸ begun.worlds.ready, stopped,
    longEnd, ⟨rfl, kept⟩, together, toStop, toLast⟩

end Cut

namespace Cut

variable {reducer : Reducer σ} {world : World σ} {pair : Pairing σ}
  (cut : Cut pair first m n now world long short stop last reason status)
include cut

theorem records (alone : pair.keep' = pair.keep) (fresh : now.steps = []) :
    short.ended.steps = long.ended.steps.filter fun record => (record.number : Int) ≤ m := by
  obtain ⟨records, least⟩ := cut.stopped.records cut.toStop cut.toLast fresh
  have same : short.ended.steps = stop.state.steps := (alone ▸ cut.together.alike).steps_eq
  have positive := cut.longer.positive
  rw [same, records, (Prod.mk.inj cut.longEnd.2).1]
  refine List.filter_congr fun record member => decide_eq_decide.mpr ?_
  have bound := least record member
  change first.toNat ≤ record.number at bound
  change record.number < first.toNat + (m + 1 - first).toNat ↔ _
  omega

/-- The judge has been shown the starting shader, if it had to be judged, and one candidate with each step at most. -/
theorem judged (sheltered : Sheltered pair.reducer pair.base pair.scratch)
    (remembers : pair.reducer.verdict.Remembers pair.shown pair.answer) :
    (pair.shown short.cleared.outside).length ≤
      (pair.shown world.outside).length + (if now.isInitial then 1 else 0) + (m + 1 - first).toNat := by
  have opening := shown_opened_le sheltered remembers cut.ready cut.longer.checking
  change _ ≤ (pair.shown long.marked.outside).length + _ at opening
  have grown : _ + first.toNat ≤ (pair.shown long.opened.outside).length + _ := cut.toStop.shown
  have judged : pair.shown stop.world.outside = pair.shown short.looped.outside := cut.together.worlds.shown
  rw [placeMarker_outside cut.longer.marking] at opening
  rw [judged] at grown
  rw [cut.shortEnd.2]
  have most : stop.number ≤ first.toNat + (m + 1 - first).toNat := by
    rcases cut.stopped.reasons with ⟨-, below, -⟩ | ⟨-, same⟩
    · exact Nat.le_of_lt below
    · exact Nat.le_of_eq same
  omega

/-- The longer reduction is at the position where the shorter one stops behind the last step of the latter. -/
theorem isStop (less : m ≤ n) :
    ((pair.reducer.course pair.base first n now world).filter fun p => (p.number : Int) ≤ max first (m + 1)).getLast? =
      some stop := by
  have positive := cut.longer.positive
  have listed : pair.reducer.course pair.base first n now world = pair.reducer.positions pair.base
      ((m + 1 - first).toNat + ((n + 1 - first).toNat - (m + 1 - first).toNat)) ⟨first.toNat, [], now, long.opened⟩ := by
    rw [Nat.add_sub_of_le (show (m + 1 - first).toNat ≤ (n + 1 - first).toNat by omega)]
    simp only [course, cut.longer.marking, cut.longer.checking]
  rw [listed, ← cut.stopped.isStop, ← positions_take]
  congr 1
  refine List.filter_congr fun p _ => decide_eq_decide.mpr ?_
  change _ ↔ p.number ≤ first.toNat + (m + 1 - first).toNat
  omega

/-- Where the shorter reduction runs out of opportunities the longer one does. -/
theorem same (fair : pair.Fair) (alone : pair.keep' = pair.keep) (exhausted : reason = .exhausted) :
    short.result first = long.result first ∧ pair.Matching long.cleared short.cleared := by
  obtain ⟨rfl, isExhausted⟩ : last = stop ∧ status = .exhausted := by
    rcases cut.stopped.reasons with ⟨-, -, same⟩ | ⟨early, -⟩
    · exact same
    · cases exhausted.symm.trans early
  obtain ⟨ended, looped⟩ := Prod.mk.inj cut.longEnd.2
  have alike : Alike pair.keep pair.keep long.ended short.ended := by
    rw [ended, isExhausted, ← exhausted]
    exact alone ▸ cut.together.alike
  obtain ⟨artifact, matching⟩ := cut.longer.same fair cut.shorter alike.shader (looped ▸ cut.together.worlds)
  refine ⟨?_, matching⟩
  unfold Stages.result
  rw [alike.status, alike.shader, alike.isInitial, alike.steps_eq, artifact, cut.longEnd.1, cut.shortEnd.1]

end Cut

/-- A reduction that has come to its limit would go on with the step behind it. -/
theorem nextStep_of_budgetReached (running : now.status = .running) {result : ReductionResult}
    {left : ReductionState × World σ} (success : reducer.reduce base first limit (now, world) = .ok result left)
    (reached : result.reason = .budgetReached) : (result.nextStep : Int) = max first (limit + 1) := by
  obtain ⟨stages, lead, rfl, -⟩ := exists_stages running success
  have positive := lead.positive
  obtain ⟨stop, last, reason, status, stopped, next, ended⟩ :=
    @loop_of_more σ reducer base ⟨first.toNat, [], now, stages.opened⟩ (limit + 1 - first).toNat 0 _ _ running lead.looping
  obtain rfl : last = stop := List.mem_singleton.mp stopped.goesOn
  have isReason : reason = .budgetReached := by
    have same := stopped.looping.symm.trans lead.looping
    injection same with _ same
    exact (congrArg (·.1.status) same).trans reached
  change (stages.next : Int) = _
  rcases stopped.reasons with ⟨exhausted, -⟩ | ⟨-, number⟩
  · cases isReason.symm.trans exhausted
  · change last.number = first.toNat + _ at number
    rw [next, number]
    omega

/-- A larger limit only extends a reduction.  A reduction that comes to its limit would go on with the step behind it.  And
if the judge depends on nothing but the candidates that it has been shown, and a reduction ends with a result, then one with
a smaller limit does so too, and shortens it. -/
theorem reduce_extends (reducer : Reducer σ) (base : String) (first m n : Int) (now : ReductionState) (world : World σ)
    (running : now.status = .running) :
    (∀ result left, reducer.reduce base first m (now, world) = .ok result left → result.reason = .budgetReached →
      (result.nextStep : Int) = max first (m + 1)) ∧
    ∀ (shown : σ → List Shader) (answer : List Shader → Answer), Careful reducer base world.scratch →
      Sheltered reducer base world.scratch → reducer.verdict.Remembers shown answer →
      world.files.Vacant world.scratch → now.steps = [] → m ≤ n →
      ∀ long longLeft, reducer.reduce base first n (now, world) = .ok long longLeft →
        ∃ short left, reducer.reduce base first m (now, world) = .ok short left ∧
          Shortens reducer base first m n shown now world long longLeft.2 short left.2 := by
  refine ⟨fun _ _ success => nextStep_of_budgetReached running success, ?_⟩
  intro shown answer careful sheltered remembers vacant fresh less long longLeft returns
  obtain ⟨stages, lead, rfl, files, outside⟩ := exists_stages running returns
  obtain ⟨short, stop, last, reason, status, cut⟩ :=
    lead.exists_cut careful sheltered remembers vacant running less
  obtain ⟨message, run⟩ := cut.shorter.reduce
  have ends : short.ended.status = reason := cut.together.alike.status
  refine ⟨_, _, run, cut.records rfl fresh, cut.judged sheltered remembers, ⟨stop, cut.isStop less, cut.together.alike.shader⟩,
    ?_, fun exhausted => ?_⟩
  · change short.ended.status = _ ∨ short.ended.status = _
    rw [ends]
    exact cut.stopped.reasons.imp (·.1) (·.1)
  · obtain ⟨same, matching⟩ := cut.same (Pairing.shortened_fair careful sheltered remembers) rfl (ends.symm.trans exhausted)
    rw [outside, files]
    exact ⟨same, matching.shown.symm, fun name own => (matching.files _
      (.inr ⟨name, own, by rw [Pairing.shortened_spareNames]; exact List.not_mem_nil, rfl⟩)).symm⟩

/-- With two more steps the reduction goes on behind the blank line, and keeps the statement. -/
theorem reduce_extends_statement :
    (∀ limit ∈ [1, 3], reasonOf (statementRemembered.reduce "s" 1 limit (blankLineAndStatement, nothingShown)) =
      some (if limit = 1 then .budgetReached else .exhausted)) ∧
    ∃ long longLeft short left,
      statementRemembered.reduce "s" 1 3 (blankLineAndStatement, nothingShown) = .ok long longLeft ∧
      statementRemembered.reduce "s" 1 1 (blankLineAndStatement, nothingShown) = .ok short left ∧
      Shortens statementRemembered "s" 1 1 3 id blankLineAndStatement nothingShown long longLeft.2 short left.2 := by
  have reasons : ∀ limit ∈ [1, 3], reasonOf (statementRemembered.reduce "s" 1 limit (blankLineAndStatement, nothingShown)) =
      some (if limit = 1 then .budgetReached else .exhausted) := by decide +kernel
  obtain ⟨long, longLeft, returns, -⟩ := exists_of_reasonOf (reasons 3 (by decide))
  obtain ⟨short, left, returns', shortens⟩ := (reduce_extends statementRemembered "s" 1 1 3 blankLineAndStatement nothingShown
    rfl).2 id _ statementRemembered_careful statementRemembered_sheltered statementRemembered_remembers vacant_emptyDirectory rfl
    (by decide) long longLeft returns
  exact ⟨reasons, long, longLeft, short, left, returns, returns', shortens⟩

end Shorter

end Reducer

end ShaderShrink
