import Mathlib.Data.List.Forall2
import ShaderShrink.Proofs.Reduction.Keeping

/-!
# What the records of a reduction tell

The records of a reduction account for a chain of shaders: each accepted record holds the next shader of
the chain, made by the opportunity that it names and answered for by the judge; each other record holds a
candidate that was made in the same way and turned down.  No later step touches the files of a record.
-/

namespace ShaderShrink

open Effect

variable {σ : Type}

/-- Whether a candidate is what the opportunity with some key makes of a shader. -/
def Shader.Yields (rules : Rules) (shader : Shader) (key : String) (candidate : Shader) : Prop :=
  ∃ opportunity ∈ shader.opportunities rules, opportunity.key = key ∧
    ∃ before after : Context, before.rules = rules ∧ opportunity.apply shader before = .ok (candidate, after)

namespace Reducer

/-- Whether a record holds a candidate that was made of the present shader and got an answer, in front of
the step with the record's number. -/
structure Tells (reducer : Reducer σ) (base : String) (course : List (Position σ)) (rules : Rules)
    (tree : FileTree) (current : Shader) (record : StepRecord) (candidate : Shader) (answer : Answer) :
    Prop where
  yields : current.Yields rules record.opportunity candidate
  judged : ∃ p ∈ course, p.number = record.number ∧ p.state.shader = current ∧
    ∃ left, Answers reducer base candidate p.world answer left
  outcome : record.outcome = outcomeOf answer
  holds : record.artifact.Holds tree candidate

/-- How records account for a chain of accepted shaders, from a starting shader to the present one. -/
inductive Account (reducer : Reducer σ) (base : String) (course : List (Position σ)) (rules : Rules)
    (tree : FileTree) (start : Shader) : List StepRecord → List Shader → Shader → Prop
  | begun : Account reducer base course rules tree start [] [] start
  | accepted {records : List StepRecord} {chain : List Shader} {current candidate : Shader}
      {record : StepRecord} : Account reducer base course rules tree start records chain current →
      Tells reducer base course rules tree current record candidate (.ok true) →
      Account reducer base course rules tree start (records ++ [record]) (chain ++ [candidate]) candidate
  | declined {records : List StepRecord} {chain : List Shader} {current candidate : Shader}
      {record : StepRecord} {answer : Answer} :
      Account reducer base course rules tree start records chain current → answer ≠ .ok true →
      Tells reducer base course rules tree current record candidate answer →
      Account reducer base course rules tree start (records ++ [record]) chain current

variable {reducer : Reducer σ} {base : String} {course : List (Position σ)} {rules : Rules}
  {tree : FileTree} {start current : Shader} {records : List StepRecord} {chain : List Shader}

theorem Tells.of_holds {tree' : FileTree} {record : StepRecord} {candidate : Shader} {answer : Answer}
    (tells : Tells reducer base course rules tree current record candidate answer)
    (still : ∀ shader, record.artifact.Holds tree shader → record.artifact.Holds tree' shader) :
    Tells reducer base course rules tree' current record candidate answer :=
  { tells with holds := still candidate tells.holds }

/-- An account stays true in another tree in which all records still hold their shaders. -/
theorem Account.of_holds {tree' : FileTree} (account : Account reducer base course rules tree start records chain current)
    (still : ∀ record ∈ records, ∀ shader, record.artifact.Holds tree shader → record.artifact.Holds tree' shader) :
    Account reducer base course rules tree' start records chain current := by
  induction account with
  | begun => exact .begun
  | accepted _ tells ih =>
    exact .accepted (ih fun record member => still record (List.mem_append_left _ member))
      (tells.of_holds (still _ (by simp)))
  | declined _ other tells ih =>
    exact .declined (ih fun record member => still record (List.mem_append_left _ member)) other
      (tells.of_holds (still _ (by simp)))

theorem outcomeOf_eq_success {answer : Answer} : outcomeOf answer = .success ↔ answer = .ok true := by
  rcases answer with fault | _ | _ <;> simp [outcomeOf]

/-- The accepted records hold the shaders of the chain, in order. -/
theorem Account.successes (account : Account reducer base course rules tree start records chain current) :
    List.Forall₂ (fun record shader => record.artifact.Holds tree shader)
      (records.filter fun record => record.outcome = .success) chain := by
  induction account with
  | begun => exact .nil
  | accepted _ tells ih =>
    have success : _ = StepOutcome.success := tells.outcome
    rw [List.filter_append, List.filter_cons_of_pos (by simp [success]), List.filter_nil]
    exact List.rel_append ih (.cons tells.holds .nil)
  | declined _ other tells ih =>
    have failure : _ ≠ StepOutcome.success := fun same =>
      other (outcomeOf_eq_success.mp (tells.outcome ▸ same))
    rw [List.filter_append, List.filter_cons_of_neg (by simp [failure]), List.filter_nil, List.append_nil]
    exact ih

/-- The chain ends with the present shader. -/
theorem Account.getLast (account : Account reducer base course rules tree start records chain current) :
    (start :: chain).getLast? = some current := by
  induction account with
  | begun => rfl
  | accepted => rw [← List.cons_append, List.getLast?_concat]
  | declined _ _ _ ih => exact ih

/-! ## The account of a whole reduction -/

/-- What holds at every position of a reduction: its records lie in front of the next step, keep their files
and account for the present shader. -/
structure Accounted (reducer : Reducer σ) (base : String) (course : List (Position σ)) (rules : Rules)
    (start : Shader) (scratch : Path) (p : Position σ) : Prop where
  directory : p.world.files.isDirectory reducer.work = true
  sameScratch : p.world.scratch = scratch
  sameRules : p.state.context.rules = rules
  placed : ∀ record ∈ p.state.steps, record.number < p.number ∧
    record.artifact.path = reducer.work.entry (Step.fileName base record.number record.outcome)
  account : ∃ chain, Account reducer base course rules p.world.files start p.state.steps chain p.state.shader

variable {scratch : Path}

/-- The records in front of a step keep what they hold. -/
theorem Accounted.still {p : Position σ} {world : World σ} {names : List String}
    (accounted : Accounted reducer base course rules start scratch p) (plain : '/' ∉ base.toList)
    (agree : World.Agrees (Progress.Beside reducer.work names) p.world world)
    (other : ∀ number outcome, number < p.number →
      ∀ name ∈ Step.fileNames base number outcome, name ∉ names) :
    ∀ record ∈ p.state.steps, ∀ shader, record.artifact.Holds p.world.files shader →
      record.artifact.Holds world.files shader := by
  intro record member shader holds
  obtain ⟨before, placed⟩ := accounted.placed record member
  exact holds.of_beside placed (Step.isName_fileStem plain _ _).ne_empty agree (other _ _ before)

/-- A step keeps the account. -/
theorem Accounted.next {p q : Position σ} (accounted : Accounted reducer base course rules start scratch p)
    (careful : Careful reducer base scratch) (member : p ∈ course)
    (further : reducer.next? base p = some q) : Accounted reducer base course rules start scratch q := by
  obtain ⟨opportunity, candidate, context, answer, judged, records, left, level, message, proposes, answers,
    recorded, rfl⟩ := next?_cases further
  have before := accounted.sameScratch
  subst before
  obtain ⟨directory, agree⟩ := careful.recorded_agrees accounted.directory answers recorded
  have still := accounted.still careful.plain agree fun number outcome before name member member' =>
    absurd (Step.mem_fileNames_number member member').1 (Nat.ne_of_lt before)
  obtain ⟨chosen, sameRules, applied⟩ := proposes.applied
  obtain ⟨-, -, sameRules'⟩ := Opportunity.apply_ok applied
  have yields : p.state.shader.Yields rules opportunity.key candidate := by
    refine ⟨opportunity, ?_, rfl, chosen, context, sameRules.trans accounted.sameRules, applied⟩
    rw [← accounted.sameRules]
    exact (List.mem_filter.mp proposes.isOpen).1
  obtain ⟨chain, account⟩ := accounted.account
  have account := account.of_holds still
  refine ⟨(agree.isDirectory fun _ => .inl).trans accounted.directory, agree.scratch,
    sameRules'.trans (sameRules.trans accounted.sameRules), ?_, ?_⟩
  · intro record inside
    rcases List.mem_append.mp inside with old | new
    · obtain ⟨before, placed⟩ := accounted.placed record old
      exact ⟨Nat.lt_succ_of_lt before, placed⟩
    · rcases recorded_holds careful.plain directory recorded with ⟨rfl, -, -⟩ | ⟨artifact, rfl, placed, -⟩
      · cases new
      · obtain rfl := List.mem_singleton.mp new
        exact ⟨Nat.lt_succ_self _, placed⟩
  · rcases recorded_holds careful.plain directory recorded with ⟨rfl, rfl, rfl⟩ | ⟨artifact, rfl, -, holds⟩
    · rw [← List.append_nil p.state.steps] at account
      exact ⟨chain, account⟩
    · have tells : Tells reducer base course rules left.files p.state.shader
          ⟨p.number, outcomeOf answer, opportunity.key, artifact⟩ candidate answer :=
        ⟨yields, ⟨p, member, rfl, rfl, judged, answers⟩, rfl, holds⟩
      rcases answer with fault | _ | _
      · have declined := Account.declined account (by simp) tells
        exact ⟨chain, declined⟩
      · have declined := Account.declined account (by simp) tells
        exact ⟨chain, declined⟩
      · exact ⟨chain ++ [candidate], .accepted account tells⟩

/-- In front of the first step there is nothing to account for. -/
theorem accounted_start {first limit : Int} {now : ReductionState} {world marked opened : World σ}
    (careful : Careful reducer base world.scratch) (fresh : now.steps = [])
    (marking : Progress.placeMarker reducer.work world = .ok () marked)
    (checks : Checks reducer base now (announced base first limit now marked) (.ok () (now, opened))) :
    Accounted reducer base course now.context.rules now.shader world.scratch
      ⟨first.toNat, [], now, opened⟩ := by
  have agree := (careful.opened_agrees marking checks).1
  refine ⟨?_, agree.scratch, rfl, ?_, [], ?_⟩
  · exact (agree.isDirectory fun _ => .inl).trans (Progress.placeMarker_ok marking).1
  · intro record member
    rw [fresh] at member
    cases member
  · dsimp only
    rw [fresh]
    exact .begun

/-- A reduction that ends with a final shader leaves behind records that account for it: they hold a chain
of shaders from the starting one to the final one, each made of the one before it by the opportunity that
its record names and answered for by the judge, and everything that they hold is still there. -/
theorem reduce_accounts {first limit : Int} {context : Context} {shader : Shader} {isInitial : Bool}
    {world left : World σ} {state : ReductionState} {result : ReductionResult}
    (careful : Careful reducer base world.scratch)
    (success : reducer.reduce base first limit (⟨context, shader, isInitial, .running, []⟩, world) =
      .ok result (state, left)) :
    ∃ chain,
      Account reducer base (reducer.course base first limit ⟨context, shader, isInitial, .running, []⟩ world)
        context.rules left.files shader result.steps chain result.shader ∧
      List.Forall₂ (fun record shader => record.artifact.Holds left.files shader)
        (result.steps.filter fun record => record.outcome = .success) chain ∧
      (shader :: chain).getLast? = some result.shader ∧
      result.artifact.Holds left.files result.shader := by
  have reduces := @reduce_cases σ reducer base first limit ⟨context, shader, isInitial, .running, []⟩ world rfl
  rw [success] at reduces
  cases reduces with
  | @finished last artifact written cleared status message isLast writing clearing positive =>
    have accounted : Accounted reducer base _ context.rules shader world.scratch last :=
      course_induction (fun marked opened marking checks => accounted_start careful rfl marking checks)
        (fun p member q further accounted => accounted.next careful member further)
        (List.mem_of_getLast? isLast)
    rw [Artifact.writeFinal_eq] at writing
    have isName := Step.isName_finalStem careful.plain
    obtain ⟨placed, -, -, holds⟩ := Artifact.write_ok isName accounted.directory writing
    have agree := after_ok writing ▸ Artifact.write_agrees .final last.state.shader isName
      (FileTree.standing_of_isDirectory accounted.directory)
    have directory := (agree.isDirectory fun _ => .inl).trans accounted.directory
    have agree' := after_ok clearing ▸ Progress.clearMarker_agrees (FileTree.standing_of_isDirectory directory)
    have still : ∀ record ∈ last.state.steps, ∀ shader, record.artifact.Holds last.world.files shader →
        record.artifact.Holds cleared.files shader := by
      intro record member shader holds
      have placed := (accounted.placed record member).2
      have named := (Step.isName_fileStem careful.plain record.number record.outcome).ne_empty
      refine Artifact.Holds.of_beside (holds.of_beside placed named agree ?_) placed named agree' ?_
      · exact fun name inside inside' => Step.finalStem_ne base _ _
          (Shader.stem_eq_of_mem_fileNames inside' inside)
      · exact fun name inside => Shader.notMarker_of_mem_fileNames inside
    obtain ⟨chain, account⟩ := accounted.account
    have account := account.of_holds still
    have final : artifact.Holds cleared.files last.state.shader :=
      holds.of_beside placed isName.ne_empty agree' fun _ inside => Shader.notMarker_of_mem_fileNames inside
    exact ⟨chain, account, account.successes, account.getLast, final⟩

/-- A reducer whose judge wants a statement. -/
def statementOnly : Reducer Unit where
  verdict candidate := pure (candidate.shader.text.contains ';')
  work := ⟨"", ["work"]⟩
  keepRejected := true
  stopOnError := false

/-- A shader with a blank line and a function of one statement, about to be reduced. -/
def blankLineAndStatement : ReductionState :=
  ⟨⟨⟨false, .default⟩, ⟨0, ⟨#[], 0⟩⟩, 0⟩, ⟨"\nvoid f()\x7b\nx;\n\x7d\n".toList, [], .default⟩, true, .running, []⟩

/-- A world with an empty working directory. -/
def emptyDirectory : World Unit := ⟨⟨[(["work"], .directory)]⟩, [], ⟨"", ["scratch"]⟩, 0, ()⟩

theorem statementOnly_careful : Careful statementOnly "s" emptyDirectory.scratch where
  plain := by decide
  apart := apart_of_ne (by decide) (by decide) (by decide) (by decide)
  spares _ _ world _ _ := .refl _ world

/-- The blank line goes, and the statement stays. -/
theorem reduce_accounts_blankLineAndStatement :
    ∃ result state left chain,
      statementOnly.reduce "s" 1 10 (blankLineAndStatement, emptyDirectory) = .ok result (state, left) ∧
      (result.steps.map fun record => record.outcome) = [.success, .failure] ∧
      Account statementOnly "s" (statementOnly.course "s" 1 10 blankLineAndStatement emptyDirectory) ⟨false, .default⟩
        left.files blankLineAndStatement.shader result.steps chain result.shader ∧
      result.artifact.Holds left.files result.shader := by
  have outcomes : (match statementOnly.reduce "s" 1 10 (blankLineAndStatement, emptyDirectory) with
      | .ok result _ => result.steps.map fun record => record.outcome
      | .error _ _ => []) = [.success, .failure] := by decide +kernel
  cases run : statementOnly.reduce "s" 1 10 (blankLineAndStatement, emptyDirectory) with
  | error fault left => rw [run] at outcomes; cases outcomes
  | ok result left =>
    rw [run] at outcomes
    obtain ⟨chain, account, -, -, final⟩ := reduce_accounts statementOnly_careful run
    exact ⟨result, left.1, left.2, chain, rfl, outcomes, account, final⟩

end Reducer

end ShaderShrink
