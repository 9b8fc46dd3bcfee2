import ShaderShrink.Proofs.Opportunity.Key
import ShaderShrink.Proofs.Reduction.Course

/-!
# Trials of a reduction

Each step of a reduction tries an opportunity of the present shader: it applies the opportunity and has the candidate
judged.  As long as no candidate is accepted, every opportunity is tried at most once, those of lower priority later,
and when none is left, each of them has been tried on just this shader and turned down.
-/

namespace ShaderShrink

open Effect

variable {σ : Type}

/-- An opportunity that was applied to the present shader, and what the judgement of the candidate ended with. -/
structure Trial where
  shader : Shader
  opportunity : Opportunity
  candidate : Shader
  answer : Reducer.Answer

namespace Trial

/-- Whether the candidate became the present shader. -/
def accepted (trial : Trial) : Bool := Reducer.accepts trial.answer

/-- Whether the judge said no, or its oracle failed. -/
def Refused (trial : Trial) : Prop := trial.answer = .ok false ∨ ∃ fault, trial.answer = .error fault ∧ fault.isOracle = true

end Trial

namespace Reducer

/-- What a judgement ends with. -/
def answerOf : EStateM.Result Fault (World σ) Bool → Answer
  | .ok interesting _ => .ok interesting
  | .error fault _ => .error fault

/-- The trial that the step from a position makes. -/
def trial? (reducer : Reducer σ) (base : String) (p : Position σ) : Option Trial :=
  match Opportunity.select (openOpportunities p.state p.rejected) p.state.context with
  | .error _ => none
  | .ok (opportunity, chosen) =>
    match opportunity.apply p.state.shader chosen with
    | .error _ => none
    | .ok (candidate, _) =>
      some ⟨p.state.shader, opportunity, candidate, answerOf (reducer.judge base candidate p.world)⟩

/-- The trials of a reduction: those of the steps within its limit. -/
def trials (reducer : Reducer σ) (base : String) (first limit : Int) (now : ReductionState) (world : World σ) : List Trial :=
  ((reducer.course base first limit now world).filter fun p => p.number ≤ limit).filterMap (reducer.trial? base)

/-- The trials from a position on, in up to `left` steps. -/
def trialsFrom (reducer : Reducer σ) (base : String) : (left : Nat) → Position σ → List Trial
  | 0, _ => []
  | left + 1, p =>
    (reducer.trial? base p).toList ++ match reducer.next? base p with
      | some q => trialsFrom reducer base left q
      | none => []

variable {reducer : Reducer σ} {base : String} {p q : Position σ} {rules : Rules} {trial : Trial}

/-! ## The trial of one step -/

theorem Answers.answerOf {candidate : Shader} {world left : World σ} {answer : Answer}
    (answers : Answers reducer base candidate world answer left) :
    Reducer.answerOf (reducer.judge base candidate world) = answer := by
  cases answer with
  | ok value => rw [show reducer.judge base candidate world = .ok value left from answers]; rfl
  | error fault => rw [answers.1]; rfl

theorem trial?_of_proposes (reducer : Reducer σ) (base : String) {opportunity : Opportunity} {candidate : Shader} {context : Context}
    (proposes : Proposes p.state p.rejected opportunity candidate context) :
    reducer.trial? base p =
      some ⟨p.state.shader, opportunity, candidate, answerOf (reducer.judge base candidate p.world)⟩ := by
  obtain ⟨chosen, selected, applied⟩ := proposes
  simp only [trial?, selected, applied]

theorem trial?_some (tried : reducer.trial? base p = some trial) :
    trial.shader = p.state.shader ∧ ∃ context, Proposes p.state p.rejected trial.opportunity trial.candidate context := by
  unfold trial? at tried
  split at tried
  · cases tried
  · rename_i opportunity chosen selected
    split at tried
    · cases tried
    · rename_i candidate context applied
      cases tried
      exact ⟨rfl, context, chosen, selected, applied⟩

/-- Where no opportunity is left, there is no trial. -/
theorem trial?_eq_none (closed : openOpportunities p.state p.rejected = []) : reducer.trial? base p = none := by
  cases tried : reducer.trial? base p with
  | none => rfl
  | some trial =>
    obtain ⟨-, context, proposes⟩ := trial?_some tried
    have isOpen := proposes.isOpen
    rw [closed] at isOpen
    cases isOpen

/-- A step that goes on has made a trial, and the next position tells how it ended. -/
theorem exists_trial (further : reducer.next? base p = some q) :
    ∃ trial context records world, reducer.trial? base p = some trial ∧
      Proposes p.state p.rejected trial.opportunity trial.candidate context ∧
      (∀ fault, trial.answer = .error fault → fault.isOracle = true) ∧
      q = behind p trial.opportunity.key trial.candidate context trial.answer records world := by
  obtain ⟨opportunity, candidate, context, answer, judged, records, left, level, message, proposes, answers, -, rfl⟩ :=
    next?_cases further
  have tried := trial?_of_proposes reducer base proposes
  rw [answers.answerOf] at tried
  refine ⟨_, context, records, left.noting level message, tried, proposes, ?_, rfl⟩
  rintro fault same
  dsimp only at same
  subst same
  exact answers.2

/-! ## The trials of a loop -/

/-- The last of the positions of a loop is the first one, if no step goes on from there, or comes later. -/
private theorem last_cases {left : Nat} {last : Position σ}
    (isLast : (reducer.positions base (left + 1) p).getLast? = some last) :
    reducer.next? base p = none ∧ p = last ∨
      ∃ q, reducer.next? base p = some q ∧ (reducer.positions base left q).getLast? = some last := by
  rw [positions] at isLast
  cases stepped : reducer.next? base p with
  | none =>
    rw [stepped] at isLast
    exact .inl ⟨rfl, Option.some.inj isLast⟩
  | some q =>
    rw [stepped] at isLast
    dsimp only at isLast
    rw [List.getLast?_cons_of_ne_nil (positions_ne_nil _ _ _ _)] at isLast
    exact .inr ⟨q, rfl, isLast⟩

private theorem refused_of_accepts (refused : accepts trial.answer = false)
    (oracle : ∀ fault, trial.answer = .error fault → fault.isOracle = true) : trial.Refused := by
  rcases answer : trial.answer with fault | _ | _
  · exact .inr ⟨fault, answer, oracle fault answer⟩
  · exact .inl answer
  · rw [answer] at refused
    cases refused

/-- Opportunities with keys of their own are one of them and those with other keys. -/
private theorem perm_cons_filter {opportunities : List Opportunity} {opportunity : Opportunity}
    (own : opportunities.Pairwise fun a b => a.key ≠ b.key) (member : opportunity ∈ opportunities) :
    opportunities.Perm (opportunity :: opportunities.filter fun other => other.key != opportunity.key) := by
  induction opportunities with
  | nil => cases member
  | cons first rest ih =>
    obtain ⟨differ, own⟩ := List.pairwise_cons.mp own
    rcases List.mem_cons.mp member with rfl | later
    · have all : (rest.filter fun other => other.key != opportunity.key) = rest :=
        List.filter_eq_self.mpr fun other inRest => by simpa using (differ other inRest).symm
      rw [List.filter_cons_of_neg (by simp), all]
    · rw [List.filter_cons_of_pos (by simpa using differ opportunity later)]
      exact (List.Perm.cons first (ih own later)).trans (List.Perm.swap _ _ _)

theorem pairwise_key_open (now : ReductionState) (rejected : List String) :
    (openOpportunities now rejected).Pairwise fun a b => a.key ≠ b.key :=
  (now.shader.pairwise_key_ne now.context.rules).filter _

/-- What trials from a position on come to when no opportunity is left: those since the last one that was accepted were
all turned down, and they were those of the opportunities that were open then. -/
def Exhausts (rules : Rules) (final : Shader) (p : Position σ) (trials : List Trial) : Prop :=
  ∃ done phase, trials = done ++ phase ∧ (∀ trial ∈ phase, trial.shader = final ∧ trial.Refused) ∧
    (done = [] ∧ p.state.shader = final ∧ (phase.map (·.opportunity)).Perm (openOpportunities p.state p.rejected) ∨
      (∃ trial, done.getLast? = some trial ∧ trial.accepted = true) ∧
        (phase.map (·.opportunity)).Perm (final.opportunities rules))

/-- An accepted trial ends the ones before it; one that was turned down closes its opportunity. -/
theorem Exhausts.cons {final : Shader} {context : Context} {records : List StepRecord} {world : World σ}
    {trials : List Trial} (same : p.state.context.rules = rules) (about : trial.shader = p.state.shader)
    (proposes : Proposes p.state p.rejected trial.opportunity trial.candidate context)
    (oracle : ∀ fault, trial.answer = .error fault → fault.isOracle = true)
    (later : Exhausts rules final (behind p trial.opportunity.key trial.candidate context trial.answer records world) trials) :
    Exhausts rules final p (trial :: trials) := by
  obtain ⟨done, phase, rfl, refused, ⟨rfl, sameShader, perm⟩ | ⟨⟨other, isLast, accepted⟩, perm⟩⟩ := later
  · cases accepted : accepts trial.answer with
    | true =>
      obtain ⟨candidate, opened⟩ := open_of_accepted p trial.opportunity.key trial.candidate context records world accepted
      rw [opened, proposes.rules, same, ← candidate, sameShader] at perm
      exact ⟨[trial], phase, rfl, refused, .inr ⟨⟨trial, rfl, accepted⟩, perm⟩⟩
    | false =>
      obtain ⟨kept, opened⟩ := open_of_refused p trial.opportunity.key trial.candidate context records world accepted
        proposes.rules
      rw [kept] at sameShader
      rw [opened] at perm
      refine ⟨[], trial :: phase, rfl, fun other member => ?_, .inl ⟨rfl, sameShader, ?_⟩⟩
      · rcases List.mem_cons.mp member with rfl | later
        · exact ⟨about.trans sameShader, refused_of_accepts accepted oracle⟩
        · exact refused other later
      · exact (perm.cons trial.opportunity).trans
          (perm_cons_filter (pairwise_key_open p.state p.rejected) proposes.isOpen).symm
  · have filled : done ≠ [] := by
      rintro rfl
      cases isLast
    refine ⟨trial :: done, phase, rfl, refused, .inr ⟨⟨other, ?_, accepted⟩, perm⟩⟩
    rw [List.getLast?_cons_of_ne_nil filled, isLast]

/-- Where rejected candidates are kept, the records tell all trials, in order. -/
theorem records_tell_trials {left : Nat} {last : Position σ} {status : ReductionStatus} (keeps : reducer.keepRejected = true)
    (isLast : (reducer.positions base left p).getLast? = some last) (stops : Stops last (p.number + left) status) :
    last.state.steps.map (fun record => (record.outcome, record.opportunity)) =
      p.state.steps.map (fun record => (record.outcome, record.opportunity)) ++
        (reducer.trialsFrom base left p).map fun trial => (outcomeOf trial.answer, trial.opportunity.key) := by
  induction left generalizing p with
  | zero =>
    obtain rfl : p = last := Option.some.inj isLast
    exact (List.append_nil _).symm
  | succ left ih =>
    rw [trialsFrom]
    rcases last_cases isLast with ⟨ends, rfl⟩ | ⟨q, stepped, isLast⟩
    · cases stops with
      | exhausted closed =>
        rw [ends, trial?_eq_none closed]
        exact (List.append_nil _).symm
      | limited reached => omega
    · obtain ⟨opportunity, candidate, context, answer, judged, records, left', level, message, proposes, answers,
        recorded, rfl⟩ := next?_cases stepped
      rw [stepped, ih isLast (by rwa [behind, Nat.add_assoc, Nat.add_comm 1]), trial?_of_proposes reducer base proposes,
        answers.answerOf]
      cases recorded with
      | dropped unkept => rcases answer with fault | _ | _ <;> simp [Reducer.keeps, keeps] at unkept
      | written _ _ => simp [behind]

end Reducer

end ShaderShrink
