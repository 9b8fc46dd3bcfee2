import ShaderShrink.Proofs.Effect
import ShaderShrink.Proofs.Files.Frame
import ShaderShrink.Proofs.Opportunity.Choice
import ShaderShrink.Reduction.Loop

/-!
# Positions of a reduction

The loop of a reduction goes from position to position; one position and the verdict about the candidate
decide about the next one.  Everything that a step can do is one of the cases of `Steps`, and a whole loop
ends at the last of its positions: there it has come to its limit, or the step that starts there is its last.
-/

namespace ShaderShrink

open Effect

variable {σ α β : Type}

/-- Where the loop of a reduction is: in front of the step with the given number. -/
structure Position (σ : Type) where
  number : Nat
  rejected : List String
  state : ReductionState
  world : World σ

/-- The world with one more record in its log. -/
def World.noting (world : World σ) (level : Level) (message : String) : World σ :=
  { world with log := world.log ++ [⟨level, message⟩] }

theorem World.agrees_noting (places : Place → Prop) (world : World σ) (level : Level) (message : String) :
    World.Agrees places world (world.noting level message) := ⟨rfl, .refl places world.files⟩

namespace Reducer

/-! ## Parts of a reduction -/

theorem act_of_ok {action : Action σ α} {world left : World σ} {value : α}
    (success : action world = .ok value left) (state : ReductionState) :
    act action (state, world) = .ok value (state, left) := by
  simp only [act, success]

theorem act_of_error {action : Action σ α} {world left : World σ} {fault : Fault}
    (failed : action world = .error fault left) (state : ReductionState) :
    act action (state, world) = .error fault (state, left) := by
  simp only [act, failed]

theorem bind_act_of_ok {action : Action σ α} {world left : World σ} {value : α}
    (success : action world = .ok value left) (state : ReductionState) (next : α → Reducing σ β) :
    (act action >>= next) (state, world) = next value (state, left) :=
  bind_of_ok (act_of_ok success state) next

theorem bind_act_of_error {action : Action σ α} {world left : World σ} {fault : Fault}
    (failed : action world = .error fault left) (state : ReductionState) (next : α → Reducing σ β) :
    (act action >>= next) (state, world) = .error fault (state, left) :=
  bind_of_error (act_of_error failed state) next

theorem bind_state (now : ReductionState) (world : World σ) (next : ReductionState → Reducing σ β) :
    (state >>= next) (now, world) = next now (now, world) := rfl

theorem bind_change (update : ReductionState → ReductionState) (now : ReductionState) (world : World σ)
    (next : Unit → Reducing σ β) :
    (change update >>= next) (now, world) = next () (update now, world) := rfl

theorem bind_become (status : ReductionStatus) (now : ReductionState) (world : World σ)
    (next : Unit → Reducing σ β) :
    (become status >>= next) (now, world) = next () ({ now with status := status }, world) := rfl

/-! ## One step -/

/-- Whether an opportunity is selected among the open ones and leads to a candidate. -/
def Proposes (now : ReductionState) (rejected : List String) (opportunity : Opportunity) (candidate : Shader)
    (context : Context) : Prop :=
  ∃ chosen, Opportunity.select (openOpportunities now rejected) now.context = .ok (opportunity, chosen) ∧
    opportunity.apply now.shader chosen = .ok (candidate, context)

theorem Proposes.isOpen {now : ReductionState} {rejected : List String} {opportunity : Opportunity}
    {candidate : Shader} {context : Context} (proposes : Proposes now rejected opportunity candidate context) :
    opportunity ∈ openOpportunities now rejected := by
  obtain ⟨chosen, selected, -⟩ := proposes
  exact Opportunity.mem_of_mem_competing (Opportunity.select_ok selected).1

theorem Proposes.applied {now : ReductionState} {rejected : List String} {opportunity : Opportunity}
    {candidate : Shader} {context : Context} (proposes : Proposes now rejected opportunity candidate context) :
    ∃ chosen, chosen.rules = now.context.rules ∧ opportunity.apply now.shader chosen = .ok (candidate, context) := by
  obtain ⟨chosen, selected, applied⟩ := proposes
  exact ⟨chosen, (Opportunity.select_ok selected).2, applied⟩

/-- What a judgement says about a candidate: an answer, or the fault of an oracle. -/
abbrev Answer := Except Fault Bool

/-- The outcome that belongs to an answer. -/
def outcomeOf : Answer → StepOutcome
  | .ok true => .success
  | .ok false => .failure
  | .error _ => .error

/-- Whether an answer makes the candidate the present shader. -/
def accepts : Answer → Bool
  | .ok true => true
  | _ => false

/-- Whether a candidate is written after an answer. -/
def keeps (reducer : Reducer σ) : Answer → Bool
  | .ok false => reducer.keepRejected
  | _ => true

/-- Whether a judgement of a candidate gives an answer and leaves a world behind. -/
def Answers (reducer : Reducer σ) (base : String) (candidate : Shader) (world : World σ) :
    Answer → World σ → Prop
  | .ok answer, left => reducer.judge base candidate world = .ok answer left
  | .error fault, left => reducer.judge base candidate world = .error fault left ∧ fault.isOracle = true

/-- What is written and recorded after an answer. -/
inductive Recorded (reducer : Reducer σ) (base key : String) (number : Nat) (candidate : Shader)
    (answer : Answer) (judged : World σ) : List StepRecord → World σ → Prop
  | dropped : reducer.keeps answer = false → Recorded reducer base key number candidate answer judged [] judged
  | written {artifact : Artifact} {left : World σ} : reducer.keeps answer = true →
      Artifact.writeStep reducer.work base number (outcomeOf answer) candidate judged = .ok artifact left →
      Recorded reducer base key number candidate answer judged
        [⟨number, outcomeOf answer, key, artifact⟩] left

/-- The position behind a step. -/
def behind (p : Position σ) (key : String) (candidate : Shader) (context : Context) (answer : Answer)
    (records : List StepRecord) (world : World σ) : Position σ where
  number := p.number + 1
  rejected := if accepts answer then [] else key :: p.rejected
  state :=
    { p.state with
      context := context
      shader := if accepts answer then candidate else p.state.shader
      isInitial := if accepts answer then false else p.state.isInitial
      steps := p.state.steps ++ records }
  world := world

theorem Proposes.rules {now : ReductionState} {rejected : List String} {opportunity : Opportunity} {candidate : Shader}
    {context : Context} (proposes : Proposes now rejected opportunity candidate context) :
    context.rules = now.context.rules := by
  obtain ⟨chosen, sameRules, applied⟩ := proposes.applied
  exact (Opportunity.apply_ok applied).2.2.trans sameRules

section Behind

variable (p : Position σ) (key : String) (candidate : Shader) (context : Context) {answer : Answer}
  (records : List StepRecord) (world : World σ)

/-- Once a candidate is accepted, all of its opportunities are open. -/
theorem open_of_accepted (accepted : accepts answer = true) :
    let q := behind p key candidate context answer records world
    q.state.shader = candidate ∧ openOpportunities q.state q.rejected = candidate.opportunities context.rules := by
  simp [behind, accepted, openOpportunities]

/-- Once a candidate is turned down, its key is closed. -/
theorem open_of_refused (refused : accepts answer = false) (sameRules : context.rules = p.state.context.rules) :
    let q := behind p key candidate context answer records world
    q.state.shader = p.state.shader ∧
      openOpportunities q.state q.rejected = (openOpportunities p.state p.rejected).filter fun other => other.key != key := by
  simp only [behind, refused, Bool.false_eq_true, ↓reduceIte, openOpportunities, sameRules, true_and]
  rw [List.filter_filter]
  refine List.filter_congr fun other _ => ?_
  rw [List.contains_cons, Bool.not_or]
  rfl

end Behind

/-- Everything that a step from a position can do. -/
inductive Steps (reducer : Reducer σ) (base : String) (p : Position σ) :
    EStateM.Result Fault (ReductionState × World σ) (List String) → Prop
  /-- No opportunity is left. -/
  | exhausted : openOpportunities p.state p.rejected = [] →
      Steps reducer base p (.ok p.rejected ({ p.state with status := .exhausted }, p.world))
  /-- There is no candidate. -/
  | unproposed (fault : Fault) (context : Context) : openOpportunities p.state p.rejected ≠ [] →
      (∀ opportunity candidate context, ¬ Proposes p.state p.rejected opportunity candidate context) →
      Steps reducer base p (.error fault ({ p.state with context := context }, p.world))
  /-- The judgement fails, and not for want of an oracle. -/
  | crashed {opportunity : Opportunity} {candidate : Shader} {context : Context} {fault : Fault}
      {left : World σ} : Proposes p.state p.rejected opportunity candidate context →
      reducer.judge base candidate p.world = .error fault left → fault.isOracle = false →
      Steps reducer base p (.error fault ({ p.state with context := context }, left))
  /-- The candidate cannot be written. -/
  | unwritten {opportunity : Opportunity} {candidate : Shader} {context : Context} {answer : Answer}
      {fault : Fault} {judged left : World σ} :
      Proposes p.state p.rejected opportunity candidate context →
      Answers reducer base candidate p.world answer judged → reducer.keeps answer = true →
      Artifact.writeStep reducer.work base p.number (outcomeOf answer) candidate judged = .error fault left →
      Steps reducer base p (.error fault ({ p.state with context := context }, left))
  /-- The oracle fails, and the reduction was told to stop at that. -/
  | stopped {opportunity : Opportunity} {candidate : Shader} {context : Context} {fault : Fault}
      {judged left : World σ} {records : List StepRecord} :
      Proposes p.state p.rejected opportunity candidate context →
      Answers reducer base candidate p.world (.error fault) judged →
      Recorded reducer base opportunity.key p.number candidate (.error fault) judged records left →
      reducer.stopOnError = true →
      Steps reducer base p (.error (.fatal (stepText p.number ++ ": " ++ fault.text))
        ((behind p opportunity.key candidate context (.error fault) records left).state, left))
  /-- The reduction goes on. -/
  | moved {opportunity : Opportunity} {candidate : Shader} {context : Context} {answer : Answer}
      {judged left : World σ} {records : List StepRecord} (level : Level) (message : String) :
      Proposes p.state p.rejected opportunity candidate context →
      Answers reducer base candidate p.world answer judged →
      Recorded reducer base opportunity.key p.number candidate answer judged records left →
      (answer.isOk = false → reducer.stopOnError = false) →
      Steps reducer base p
        (let next := behind p opportunity.key candidate context answer records (left.noting level message)
         .ok next.rejected (next.state, next.world))

theorem tryJudge_of_ok {reducer : Reducer σ} {base : String} {candidate : Shader}
    {now : ReductionState} {world left : World σ} {value : Bool}
    (success : reducer.judge base candidate world = .ok value left) :
    reducer.tryJudge base candidate (now, world) = .ok (.ok value) (now, left) := by
  simp only [tryJudge, bind, EStateM.bind, tryCatch, tryCatchThe, MonadExceptOf.tryCatch]
  delta EStateM.tryCatch
  simp only [EStateM.bind, act_of_ok success now]
  rfl

theorem tryJudge_of_error {reducer : Reducer σ} {base : String} {candidate : Shader}
    (now : ReductionState) {world left : World σ} {fault : Fault}
    (failed : reducer.judge base candidate world = .error fault left) :
    reducer.tryJudge base candidate (now, world) =
      if fault.isOracle then .ok (.error fault) (now, left) else .error fault (now, left) := by
  simp only [tryJudge, bind, EStateM.bind, tryCatch, tryCatchThe, MonadExceptOf.tryCatch]
  delta EStateM.tryCatch
  simp only [EStateM.bind, act_of_error failed now]
  cases fault.isOracle <;> rfl

private theorem tryJudge_of_answer {reducer : Reducer σ} {base : String} {candidate : Shader}
    {now : ReductionState} {world left : World σ} {answer : Answer}
    (answers : Answers reducer base candidate world answer left) :
    reducer.tryJudge base candidate (now, world) = .ok answer (now, left) := by
  cases answer with
  | ok value => exact tryJudge_of_ok answers
  | error fault =>
    rw [tryJudge_of_error now answers.1, answers.2]
    rfl

/-- A judgement gives an answer, or ends with a fault that is not the oracle's. -/
theorem judge_cases (reducer : Reducer σ) (base : String) (candidate : Shader) (world : World σ) :
    (∃ answer left, Answers reducer base candidate world answer left) ∨
      ∃ fault left, reducer.judge base candidate world = .error fault left ∧ fault.isOracle = false := by
  cases run : reducer.judge base candidate world with
  | ok value left => exact .inl ⟨.ok value, left, run⟩
  | error fault left =>
    cases oracle : fault.isOracle with
    | true => exact .inl ⟨.error fault, left, run, oracle⟩
    | false => exact .inr ⟨fault, left, rfl, oracle⟩

theorem record_of_ok {reducer : Reducer σ} {base key : String} {number : Nat}
    {outcome : StepOutcome} {candidate : Shader} {now : ReductionState} {world left : World σ}
    {artifact : Artifact}
    (written : Artifact.writeStep reducer.work base number outcome candidate world = .ok artifact left) :
    reducer.record base number outcome candidate key (now, world) =
      .ok () ({ now with steps := now.steps ++ [⟨number, outcome, key, artifact⟩] }, left) := by
  unfold record
  rw [bind_act_of_ok written]
  rfl

private theorem record_of_error {reducer : Reducer σ} {base key : String} {number : Nat}
    {outcome : StepOutcome} {candidate : Shader} {now : ReductionState} {world left : World σ}
    {fault : Fault}
    (failed : Artifact.writeStep reducer.work base number outcome candidate world = .error fault left) :
    reducer.record base number outcome candidate key (now, world) = .error fault (now, left) := by
  unfold record
  rw [bind_act_of_error failed]

private theorem follow_cases {reducer : Reducer σ} {base : String} {p : Position σ} {opportunity : Opportunity}
    {chosen : Context} (offered : openOpportunities p.state p.rejected ≠ [])
    (selected : Opportunity.select (openOpportunities p.state p.rejected) p.state.context = .ok (opportunity, chosen)) :
    Steps reducer base p
      (reducer.follow base p.number opportunity p.rejected ({ p.state with context := chosen }, p.world)) := by
  unfold follow
  rw [bind_state]
  cases applied : opportunity.apply p.state.shader chosen with
  | error fault =>
    dsimp only
    rw [bind_act_of_error (Action.ofExcept_error fault p.world)]
    refine .unproposed fault chosen offered ?_
    rintro other candidate context ⟨chosen', selected', applied'⟩
    cases selected.symm.trans selected'
    rw [applied] at applied'
    cases applied'
  | ok result =>
    obtain ⟨candidate, context⟩ := result
    have proposes : Proposes p.state p.rejected opportunity candidate context := ⟨chosen, selected, applied⟩
    dsimp only
    rw [bind_act_of_ok (Action.ofExcept_ok (candidate, context) p.world)]
    dsimp only
    rw [bind_change]
    rcases judge_cases reducer base candidate p.world with ⟨answer, judged, answers⟩ | ⟨fault, judged, failed, other⟩
    · rw [bind_of_ok (tryJudge_of_answer answers)]
      have going : ∀ {records left} level message,
          Recorded reducer base opportunity.key p.number candidate answer judged records left →
          (answer.isOk = false → reducer.stopOnError = false) → _ :=
        fun {_ _} level message => Steps.moved level message proposes answers
      rcases answer with fault | _ | _ <;> dsimp only
      · cases written : Artifact.writeStep reducer.work base p.number .error candidate judged with
        | error fault left =>
          rw [bind_of_error (record_of_error written)]
          exact .unwritten proposes answers rfl written
        | ok artifact left =>
          rw [bind_of_ok (record_of_ok written)]
          cases stop : reducer.stopOnError with
          | true => exact .stopped proposes answers (.written rfl written) stop
          | false =>
            simp only [Bool.false_eq_true, ↓reduceIte]
            rw [bind_act_of_ok (Action.log_apply _ _ left)]
            exact going _ _ (.written rfl written) fun _ => stop
      · cases keep : reducer.keepRejected with
        | false =>
          simp only [Bool.false_eq_true, ↓reduceIte]
          rw [bind_act_of_ok (Action.log_apply _ _ judged)]
          have moved := going .debug (stepText p.number ++ ": rejected " ++ opportunity.key) (.dropped keep)
            (fun refused => nomatch refused)
          simp only [behind, accepts, List.append_nil, Bool.false_eq_true, ↓reduceIte] at moved
          exact moved
        | true =>
          simp only [↓reduceIte]
          cases written : Artifact.writeStep reducer.work base p.number .failure candidate judged with
          | error fault left =>
            rw [bind_of_error (record_of_error written)]
            exact .unwritten proposes answers keep written
          | ok artifact left =>
            rw [bind_of_ok (record_of_ok written), bind_act_of_ok (Action.log_apply _ _ left)]
            exact going _ _ (.written keep written) (fun refused => nomatch refused)
      · cases written : Artifact.writeStep reducer.work base p.number .success candidate judged with
        | error fault left =>
          rw [bind_of_error (record_of_error written)]
          exact .unwritten proposes answers rfl written
        | ok artifact left =>
          rw [bind_of_ok (record_of_ok written), bind_change, bind_act_of_ok (Action.log_apply _ _ left)]
          exact going _ _ (.written rfl written) (fun refused => nomatch refused)
    · have run := tryJudge_of_error { p.state with context := context } failed
      rw [other] at run
      rw [bind_of_error run]
      exact .crashed proposes failed other

/-- A step does one of the things that a step can do. -/
theorem step_cases (reducer : Reducer σ) (base : String) (p : Position σ) :
    Steps reducer base p (reducer.step base p.number p.rejected (p.state, p.world)) := by
  unfold step
  rw [bind_state]
  cases listed : openOpportunities p.state p.rejected with
  | nil =>
    dsimp only
    rw [bind_become]
    exact .exhausted listed
  | cons first rest =>
    dsimp only
    cases selected : Opportunity.select (first :: rest) p.state.context with
    | error fault =>
      rw [bind_act_of_error (Action.ofExcept_error fault p.world)]
      refine .unproposed fault p.state.context (by rw [listed]; exact List.cons_ne_nil _ _) ?_
      rintro opportunity candidate context ⟨chosen, selected', -⟩
      rw [listed, selected] at selected'
      cases selected'
    | ok result =>
      obtain ⟨opportunity, chosen⟩ := result
      rw [bind_act_of_ok (Action.ofExcept_ok (opportunity, chosen) p.world)]
      dsimp only
      rw [bind_change]
      exact follow_cases (by rw [listed]; exact List.cons_ne_nil _ _) (listed ▸ selected)

/-! ## A whole loop -/

/-- The position behind the step from a position, if the step ends and the reduction still runs. -/
def next? (reducer : Reducer σ) (base : String) (p : Position σ) : Option (Position σ) :=
  match reducer.step base p.number p.rejected (p.state, p.world) with
  | .ok rejected (state, world) =>
    if state.status = .running then some ⟨p.number + 1, rejected, state, world⟩ else none
  | .error _ _ => none

/-- The positions that a loop comes to, with up to `left` steps from the given one. -/
def positions (reducer : Reducer σ) (base : String) : (left : Nat) → Position σ → List (Position σ)
  | 0, p => [p]
  | left + 1, p =>
    p :: match reducer.next? base p with
      | some q => positions reducer base left q
      | none => []

theorem mem_positions_self (reducer : Reducer σ) (base : String) (left : Nat) (p : Position σ) :
    p ∈ reducer.positions base left p := by
  cases left <;> exact List.mem_cons_self

/-- What holds at the start and is kept by every step holds at all positions. -/
theorem positions_induction {reducer : Reducer σ} {base : String} {left : Nat} {start : Position σ}
    {holds : Position σ → Prop} (begins : holds start)
    (step : ∀ p ∈ reducer.positions base left start, ∀ q, reducer.next? base p = some q → holds p → holds q)
    {p : Position σ} (member : p ∈ reducer.positions base left start) : holds p := by
  induction left generalizing start with
  | zero =>
    obtain rfl := List.mem_singleton.mp member
    exact begins
  | succ left ih =>
    rcases List.mem_cons.mp member with rfl | later
    · exact begins
    · cases further : reducer.next? base start with
      | none => rw [further] at later; cases later
      | some q =>
        rw [further] at later
        refine ih (step start List.mem_cons_self q further begins) (fun p member => step p ?_) later
        rw [positions, further]
        exact List.mem_cons_of_mem _ member

/-- Positions follow each other by single steps. -/
theorem positions_chain {reducer : Reducer σ} {base : String} {left : Nat} {start : Position σ}
    {leads : Position σ → Position σ → Prop}
    (step : ∀ p ∈ reducer.positions base left start, ∀ q, reducer.next? base p = some q → leads p q) :
    List.IsChain leads (reducer.positions base left start) := by
  induction left generalizing start with
  | zero => exact .singleton start
  | succ left ih =>
    rw [positions] at step ⊢
    cases further : reducer.next? base start with
    | none => exact .singleton start
    | some q =>
      rw [further] at step
      have rest := ih fun p member => step p (List.mem_cons_of_mem _ member)
      have first := step start List.mem_cons_self q further
      cases left <;> exact .cons_cons first rest

/-- The next position lies behind a step that goes on. -/
theorem next?_cases {reducer : Reducer σ} {base : String} {p q : Position σ}
    (further : reducer.next? base p = some q) :
    ∃ opportunity candidate context answer judged records left level message,
      Proposes p.state p.rejected opportunity candidate context ∧
      Answers reducer base candidate p.world answer judged ∧
      Recorded reducer base opportunity.key p.number candidate answer judged records left ∧
      q = behind p opportunity.key candidate context answer records (left.noting level message) := by
  have possible := step_cases reducer base p
  unfold next? at further
  revert further
  generalize reducer.step base p.number p.rejected (p.state, p.world) = result at possible
  intro further
  cases possible with
  | moved level message proposes answers recorded _ =>
    dsimp only at further
    split_ifs at further with running
    cases further
    exact ⟨_, _, _, _, _, _, _, level, message, proposes, answers, recorded, rfl⟩
  | exhausted => simp at further
  | _ => cases further

/-- Why a loop that comes to no step from a given number on stops at a position. -/
inductive Stops (last : Position σ) (beyond : Nat) : ReductionStatus → Prop
  /-- No opportunity is left. -/
  | exhausted : openOpportunities last.state last.rejected = [] → Stops last beyond .exhausted
  /-- The limit is reached. -/
  | limited : last.number = beyond → Stops last beyond .budgetReached

/-- How a loop ends at its last position. -/
inductive Ends (reducer : Reducer σ) (base : String) (beyond : Nat) (last : Position σ) :
    EStateM.Result Fault (ReductionState × World σ) Nat → Prop
  /-- No opportunity is left, or the limit is reached. -/
  | finished (status : ReductionStatus) : Stops last beyond status →
      Ends reducer base beyond last (.ok last.number ({ last.state with status := status }, last.world))
  /-- The next step fails. -/
  | failed {fault : Fault} {left : ReductionState × World σ} :
      reducer.step base last.number last.rejected (last.state, last.world) = .error fault left →
      Ends reducer base beyond last (.error fault left)

theorem positions_head (reducer : Reducer σ) (base : String) (left : Nat) (p : Position σ) :
    (reducer.positions base left p).head? = some p := by
  cases left <;> rfl

theorem positions_ne_nil (reducer : Reducer σ) (base : String) (left : Nat) (p : Position σ) :
    reducer.positions base left p ≠ [] := List.ne_nil_of_mem (mem_positions_self reducer base left p)

/-- A loop ends at the last of its positions. -/
theorem loop_ends {reducer : Reducer σ} {base : String} {left : Nat} {start : Position σ}
    (running : start.state.status = .running) :
    ∃ last, (reducer.positions base left start).getLast? = some last ∧
      Ends reducer base (start.number + left) last
        (reducer.loop base left start.number start.rejected (start.state, start.world)) := by
  induction left generalizing start with
  | zero =>
    refine ⟨start, rfl, ?_⟩
    rw [loop, bind_state]
    simp only [running, ↓reduceIte]
    rw [bind_become]
    exact .finished .budgetReached (.limited rfl)
  | succ left ih =>
    rw [loop, bind_state]
    simp only [running, ↓reduceIte]
    cases run : reducer.step base start.number start.rejected (start.state, start.world) with
    | error fault after =>
      have further : reducer.next? base start = none := by simp only [next?, run]
      refine ⟨start, by rw [positions, further]; rfl, ?_⟩
      rw [bind_of_error run]
      exact .failed run
    | ok rejected after =>
      obtain ⟨now, world⟩ := after
      rw [bind_of_ok run, bind_state]
      by_cases goes : now.status = .running
      · have further : reducer.next? base start = some ⟨start.number + 1, rejected, now, world⟩ := by
          simp only [next?, run, goes, ↓reduceIte]
        obtain ⟨last, isLast, ends⟩ := @ih ⟨start.number + 1, rejected, now, world⟩ goes
        refine ⟨last, ?_, ?_⟩
        · rw [positions, further, List.getLast?_cons_of_ne_nil (positions_ne_nil _ _ _ _), isLast]
        · rw [show start.number + (left + 1) = start.number + 1 + left by omega]
          simpa only [goes, ↓reduceIte] using ends
      · have further : reducer.next? base start = none := by simp only [next?, run, goes, ↓reduceIte]
        refine ⟨start, by rw [positions, further]; rfl, ?_⟩
        simp only [goes, ↓reduceIte]
        have possible := step_cases reducer base start
        rw [run] at possible
        cases possible with
        | exhausted closed => exact .finished .exhausted (.exhausted closed)
        | moved level message _ _ _ _ => exact absurd running goes

end Reducer

end ShaderShrink
