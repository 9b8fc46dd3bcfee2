import ShaderShrink.Proofs.Files.Change
import ShaderShrink.Proofs.Reduction.StepName

/-!
# Scanning a working directory

The steps that a scan of a working directory finds are the entries there whose names the recogniser takes for
those of steps.  The greatest number is that of one of them, and none has a greater one.
-/

namespace ShaderShrink

@[ext] theorem FoundStep.ext {a b : FoundStep} (number : a.number = b.number) (outcome : a.outcome = b.outcome)
    (name : a.name = b.name) : a = b := by
  cases a
  cases b
  cases number
  cases outcome
  cases name
  rfl

namespace Progress

variable {tree : FileTree} {work : Path} {base : String}

/-- Whether an entry of the working directory is taken for a step. -/
structure Found (tree : FileTree) (work : Path) (base : String) (step : FoundStep) : Prop where
  named : Step.ofFileName? base step.name = some (step.number, step.outcome)
  stands : (tree.lookup? (work.place ++ [step.name])).isSome = true

private theorem namesIn_of_isDirectory (directory : tree.isDirectory work = true) :
    namesIn tree work = tree.children work.place := by
  unfold namesIn
  cases located : tree.locate work with
  | error failure => simp [FileTree.isDirectory, FileTree.at?, located] at directory
  | ok place =>
    obtain ⟨rfl, -⟩ := FileTree.locate_ok located
    simp only [directory, ↓reduceIte]

private theorem namesIn_of_not_isDirectory (absent : tree.isDirectory work = false) : namesIn tree work = [] := by
  unfold namesIn
  cases tree.locate work <;> simp [absent]

theorem mem_ofNames {names : List String} {step : FoundStep} :
    step ∈ FoundStep.ofNames base names ↔
      step.name ∈ names ∧ Step.ofFileName? base step.name = some (step.number, step.outcome) := by
  simp only [FoundStep.ofNames, List.mem_mergeSort, List.mem_filterMap, Option.map_eq_some_iff, Prod.exists]
  constructor
  · rintro ⟨name, member, number, outcome, named, rfl⟩
    exact ⟨member, named⟩
  · rintro ⟨member, named⟩
    exact ⟨step.name, member, step.number, step.outcome, named, rfl⟩

/-- A scan finds the steps that stand in the working directory. -/
theorem mem_steps {step : FoundStep} :
    step ∈ steps tree work base ↔ tree.isDirectory work = true ∧ Found tree work base step := by
  unfold steps
  rw [mem_ofNames]
  cases directory : tree.isDirectory work with
  | false => simp [namesIn_of_not_isDirectory directory]
  | true =>
    rw [namesIn_of_isDirectory directory, FileTree.mem_children]
    exact ⟨fun ⟨stands, named⟩ => ⟨rfl, named, stands⟩, fun ⟨_, named, stands⟩ => ⟨stands, named⟩⟩

/-! ## The greatest number -/

private theorem greatest?_eq_max? (numbers : List Nat) : greatest? numbers = numbers.max? := by
  cases numbers <;> rfl

/-- The greatest of some numbers is one of them, and none is greater. -/
theorem greatest?_eq_some {numbers : List Nat} {n : Nat} :
    greatest? numbers = some n ↔ n ∈ numbers ∧ ∀ m ∈ numbers, m ≤ n := by
  rw [greatest?_eq_max?, List.max?_eq_some_iff]

theorem greatest?_eq_none {numbers : List Nat} : greatest? numbers = none ↔ numbers = [] := by
  rw [greatest?_eq_max?, List.max?_eq_none_iff]

theorem latest?_eq_some {number : Nat} :
    latest? tree work base = some number ↔
      (∃ step ∈ steps tree work base, step.number = number) ∧ ∀ step ∈ steps tree work base, step.number ≤ number := by
  simp only [latest?, greatest?_eq_some, List.mem_map, forall_exists_index, and_imp, forall_apply_eq_imp_iff₂]

theorem latest?_eq_none : latest? tree work base = none ↔ steps tree work base = [] := by
  simp only [latest?, greatest?_eq_none, List.map_eq_nil_iff]

theorem latestSuccess?_eq_some {number : Nat} :
    latestSuccess? tree work base = some number ↔
      (∃ step ∈ steps tree work base, step.outcome = .success ∧ step.number = number) ∧
        ∀ step ∈ steps tree work base, step.outcome = .success → step.number ≤ number := by
  simp only [latestSuccess?, greatest?_eq_some, List.mem_map, List.mem_filter, decide_eq_true_eq, and_assoc,
    forall_exists_index, and_imp]
  refine and_congr_right fun _ => ⟨fun bound step member success => bound _ step member success rfl, ?_⟩
  rintro bound _ step member success rfl
  exact bound step member success

theorem latestSuccess?_eq_none :
    latestSuccess? tree work base = none ↔ ∀ step ∈ steps tree work base, step.outcome ≠ .success := by
  simp only [latestSuccess?, greatest?_eq_none, List.map_eq_nil_iff, List.filter_eq_nil_iff, decide_eq_true_eq]

/-- The greatest number of an accepted step depends on the accepted steps alone. -/
theorem latestSuccess?_congr {other : FileTree}
    (same : ∀ step, step.outcome = .success → (step ∈ steps other work base ↔ step ∈ steps tree work base)) :
    latestSuccess? other work base = latestSuccess? tree work base := by
  cases latest : latestSuccess? tree work base with
  | none =>
    have none := latestSuccess?_eq_none.mp latest
    exact latestSuccess?_eq_none.mpr fun step member success => none step ((same step success).mp member) success
  | some number =>
    obtain ⟨⟨step, member, success, rfl⟩, bound⟩ := latestSuccess?_eq_some.mp latest
    refine latestSuccess?_eq_some.mpr ⟨⟨step, (same step success).mpr member, success, rfl⟩, ?_⟩
    exact fun step member success => bound step ((same step success).mp member) success

end Progress

end ShaderShrink
