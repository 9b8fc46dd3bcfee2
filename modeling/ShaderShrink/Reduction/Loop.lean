import ShaderShrink.Judge.Basic
import ShaderShrink.Opportunity.Search
import ShaderShrink.Opportunity.Selection
import ShaderShrink.Reduction.Progress
import ShaderShrink.Reduction.Record

/-!
# The reduction loop

Each step picks an opportunity, applies it to the present shader and has the candidate judged.  An
interesting candidate becomes the present shader; the opportunity behind any other candidate is not
tried again until some candidate is accepted.  The loop ends when no opportunity is left, when it has
come to its limit, or with a fault.  A marker stands in the working directory until the loop has ended
without a fault.
-/

namespace ShaderShrink

/-- How far a reducer is. -/
inductive ReductionStatus where
  | running
  | exhausted
  | budgetReached
  | fatal
  | done
  deriving DecidableEq, Repr

/-- The name of a status. -/
def ReductionStatus.name : ReductionStatus → String
  | running => "RUNNING"
  | exhausted => "EXHAUSTED"
  | budgetReached => "BUDGET_REACHED"
  | fatal => "FATAL"
  | done => "DONE"

/-- Decides about candidates. -/
abbrev Verdict (σ : Type) := Candidate → Action σ Bool

/-- What does not change during a reduction. -/
structure Reducer (σ : Type) where
  verdict : Verdict σ
  work : Path
  /-- Whether rejected candidates are written too. -/
  keepRejected : Bool
  /-- Whether a fault of the oracle ends the reduction. -/
  stopOnError : Bool

/-- What changes during a reduction. -/
structure ReductionState where
  context : Context
  shader : Shader
  /-- Whether the present shader is the starting one and has to be judged first. -/
  isInitial : Bool
  status : ReductionStatus
  steps : List StepRecord

/-- A part of a reduction: it changes the state and the world, also when it ends with a fault. -/
abbrev Reducing (σ : Type) := EStateM Fault (ReductionState × World σ)

/-- What a reduction led to. -/
structure ReductionResult where
  reason : ReductionStatus
  shader : Shader
  isInitial : Bool
  artifact : Artifact
  firstStep : Nat
  nextStep : Nat
  steps : List StepRecord

/-- The number of steps that were taken. -/
def ReductionResult.stepsTaken (result : ReductionResult) : Nat := result.nextStep - result.firstStep

namespace Reducer

variable {σ : Type}

/-- An action on the world as a part of a reduction. -/
def act {α : Type} (action : Action σ α) : Reducing σ α := fun (state, world) =>
  match action world with
  | .ok value world => .ok value (state, world)
  | .error fault world => .error fault (state, world)

/-- The state of a reduction. -/
def state : Reducing σ ReductionState := return (← get).1

/-- Changes the state of a reduction. -/
def change (update : ReductionState → ReductionState) : Reducing σ Unit :=
  modify fun (state, world) => (update state, world)

/-- Changes the status. -/
def become (status : ReductionStatus) : Reducing σ Unit :=
  change fun state => { state with status := status }

/-- Has a shader judged in a scratch directory. -/
def judge (reducer : Reducer σ) (base : String) (shader : Shader) : Action σ Bool :=
  Action.withScratch fun scratch => do
    let path ← shader.store (scratch.child base)
    reducer.verdict ⟨shader, path, scratch⟩

/-- Writes and records a step. -/
def record (reducer : Reducer σ) (base : String) (number : Nat) (outcome : StepOutcome)
    (shader : Shader) (opportunity : String) : Reducing σ Unit := do
  let artifact ← act (Artifact.writeStep reducer.work base number outcome shader)
  change fun state => { state with steps := state.steps ++ [⟨number, outcome, opportunity, artifact⟩] }

/-- Has the starting shader judged. -/
def checkInitial (reducer : Reducer σ) (base : String) : Reducing σ Unit := do
  let now ← state
  if now.isInitial then
    if ← act (reducer.judge base now.shader) then
      act (Action.log .info ("starting shader " ++ base ++ " is interesting"))
    else
      throw (.notInteresting ("the starting shader " ++ base ++
        " does not exhibit the property being reduced"))

/-- The verdict about a shader, or the fault of an oracle that gave none. -/
def tryJudge (reducer : Reducer σ) (base : String) (shader : Shader) :
    Reducing σ (Except Fault Bool) := do
  try return .ok (← act (reducer.judge base shader))
  catch fault => if fault.isOracle then return .error fault else throw fault

/-- The opportunities of the present shader that have not been rejected. -/
def openOpportunities (state : ReductionState) (rejected : List String) : List Opportunity :=
  (state.shader.opportunities state.context.rules).filter fun opportunity =>
    !rejected.contains opportunity.key

/-- The text of a step's number. -/
def stepText (number : Nat) : String := "step " ++ toString number

/-- Follows an opportunity: applies it and has the candidate judged.  The result is what has been
rejected from then on. -/
def follow (reducer : Reducer σ) (base : String) (number : Nat) (opportunity : Opportunity)
    (rejected : List String) : Reducing σ (List String) := do
  let now ← state
  let (candidate, context) ← act (Action.ofExcept (opportunity.apply now.shader now.context))
  change fun state => { state with context := context }
  match ← reducer.tryJudge base candidate with
  | .error fault => do
    reducer.record base number .error candidate opportunity.key
    if reducer.stopOnError then throw (.fatal (stepText number ++ ": " ++ fault.text))
    act (Action.log .warning (stepText number ++ ": oracle failure treated as rejection: " ++
      fault.text))
    return opportunity.key :: rejected
  | .ok true => do
    reducer.record base number .success candidate opportunity.key
    change fun state => { state with shader := candidate, isInitial := false }
    act (Action.log .debug (stepText number ++ ": accepted " ++ opportunity.key))
    return []
  | .ok false => do
    if reducer.keepRejected then reducer.record base number .failure candidate opportunity.key
    act (Action.log .debug (stepText number ++ ": rejected " ++ opportunity.key))
    return opportunity.key :: rejected

/-- Takes a step, or finds that no opportunity is left. -/
def step (reducer : Reducer σ) (base : String) (number : Nat) (rejected : List String) :
    Reducing σ (List String) := do
  let now ← state
  match openOpportunities now rejected with
  | [] => do
    become .exhausted
    return rejected
  | opportunities => do
    let (opportunity, context) ←
      act (Action.ofExcept (Opportunity.select opportunities now.context))
    change fun state => { state with context := context }
    reducer.follow base number opportunity rejected

/-- Takes steps while the reduction runs, up to `left` of them, and gives the number of the next one. -/
def loop (reducer : Reducer σ) (base : String) : (left number : Nat) → (rejected : List String) →
    Reducing σ Nat
  | 0, number, _ => do
    if (← state).status = .running then become .budgetReached
    return number
  | left + 1, number, rejected => do
    if (← state).status = .running then
      let rejected ← reducer.step base number rejected
      if (← state).status = .running then reducer.loop base left (number + 1) rejected
      else return number
    else return number

/-- Judges the starting shader, takes all steps and writes the final shader. -/
def runSteps (reducer : Reducer σ) (base : String) (first : Nat) (limit : Int) :
    Reducing σ (Nat × Artifact) := do
  reducer.checkInitial base
  let next ← reducer.loop base (limit + 1 - first).toNat first []
  let artifact ← act (Artifact.writeFinal reducer.work base (← state).shader)
  return (next, artifact)

/-- Reduces from the step `first` up to the step `limit`. -/
def reduce (reducer : Reducer σ) (base : String) (first limit : Int) : Reducing σ ReductionResult := do
  if first < 1 then
    throw (.value "the first reduction step is 1; step 0 is the starting shader")
  act (Progress.placeMarker reducer.work)
  act (Action.log .info ("reducing " ++ base ++ " from step " ++ toString first ++ " (limit " ++
    toString limit ++ ", seed " ++ toString (← state).context.random.seed ++ ")"))
  let (next, artifact) ←
    try reducer.runSteps base first.toNat limit
    catch fault => do
      become .fatal
      throw fault
  let ended ← state
  act (Progress.clearMarker reducer.work)
  become .done
  act (Action.log .info ("reduction of " ++ base ++ " finished (" ++ ended.status.name ++ ") after " ++
    toString (next - first.toNat) ++ " steps"))
  return ⟨ended.status, ended.shader, ended.isInitial, artifact, first.toNat, next, ended.steps⟩

end Reducer

end ShaderShrink
