import Mathlib.Data.List.Nodup
import Mathlib.Order.Bounds.Basic
import Mathlib.Tactic.SplitIfs
import ShaderShrink.Proofs.Reduction.Scan

/-!
# Directories with the steps of many shaders

Steps of different shaders may stand side by side in a working directory, with the other files that reductions leave
there.  A scan for the steps of one shader finds exactly those that were written for it, whatever the other shaders are
called, in the order of their numbers.  So a reduction that goes on takes a number above all that are in use.
-/

namespace ShaderShrink

theorem Text.precedes_asymm {a b : Text} (first : precedes a b = true) : precedes b a = false := by
  induction a generalizing b with
  | nil => cases b <;> rfl
  | cons c rest ih =>
    cases b with
    | nil => cases first
    | cons d others =>
      rw [precedes] at first ⊢
      by_cases same : d = c
      · subst same
        rw [if_pos rfl] at first ⊢
        exact ih first
      · rw [if_neg (Ne.symm same), decide_eq_true_eq] at first
        rw [if_neg same, decide_eq_false_iff_not]
        omega

/-- Texts are in order where none comes before the one in front of it. -/
theorem Text.precedes_trans {a b c : Text} (first : precedes b a = false) (second : precedes c b = false) :
    precedes c a = false := by
  induction a generalizing b c with
  | nil => cases c <;> rfl
  | cons x rest ih =>
    cases b with
    | nil => cases first
    | cons y others =>
      cases c with
      | nil => cases second
      | cons z more =>
        rw [precedes] at first second ⊢
        by_cases same : y = x
        · subst same
          split_ifs at second ⊢ with next
          · exact ih (by simpa using first) second
          · exact second
        · rw [if_neg same, decide_eq_false_iff_not] at first
          have apart : y.toNat ≠ x.toNat := fun equal => same (Char.toNat_inj.mp equal)
          split_ifs at second with next
          · subst next
            rw [if_neg same, decide_eq_false_iff_not]
            exact first
          · rw [decide_eq_false_iff_not] at second
            have later : z ≠ x := by
              rintro rfl
              omega
            rw [if_neg later, decide_eq_false_iff_not]
            omega

namespace FoundStep

theorem before_iff {a b : FoundStep} : before a b = true ↔
    a.number < b.number ∨ a.number = b.number ∧ Text.precedes b.name.toList a.name.toList = false := by
  unfold before
  split
  · rename_i same
    simp [same]
  · rename_i differ
    simp [differ]

theorem before_trans (a b c : FoundStep) (first : before a b = true) (second : before b c = true) : before a c = true := by
  rw [before_iff] at first second ⊢
  rcases first with less | ⟨same, le⟩
  · exact .inl (by omega)
  · rcases second with less | ⟨same', le'⟩
    · exact .inl (by omega)
    · exact .inr ⟨same.trans same', Text.precedes_trans le le'⟩

theorem before_total (a b : FoundStep) : (before a b || before b a) = true := by
  rw [Bool.or_eq_true, before_iff, before_iff]
  rcases Nat.lt_trichotomy a.number b.number with less | same | greater
  · exact .inl (.inl less)
  · cases first : Text.precedes b.name.toList a.name.toList with
    | false => exact .inl (.inr ⟨same, rfl⟩)
    | true => exact .inr (.inr ⟨same.symm, Text.precedes_asymm first⟩)
  · exact .inr (.inl greater)

/-- Steps are listed in the order of their numbers. -/
theorem pairwise_ofNames (base : String) (names : List String) :
    (ofNames base names).Pairwise fun a b => a.number ≤ b.number := by
  refine (List.pairwise_mergeSort before_trans before_total _).imp fun {a b} ordered => ?_
  rcases before_iff.mp ordered with less | ⟨same, -⟩
  · exact Nat.le_of_lt less
  · exact Nat.le_of_eq same

/-- Every name is listed once at most. -/
theorem nodup_ofNames (base : String) {names : List String} (single : names.Nodup) : (ofNames base names).Nodup := by
  refine (List.mergeSort_perm _ _).nodup_iff.mpr (single.filterMap fun name other step told told' => ?_)
  obtain ⟨_, -, rfl⟩ := Option.map_eq_some_iff.mp told
  obtain ⟨_, -, same⟩ := Option.map_eq_some_iff.mp told'
  exact (congrArg FoundStep.name same).symm

end FoundStep

/-- A step that was written for the shader with a base name. -/
structure WrittenStep where
  base : String
  number : Nat
  outcome : StepOutcome
  deriving DecidableEq, Repr

/-- The name of a written step's shader file. -/
def WrittenStep.fileName (step : WrittenStep) : String := Step.fileName step.base step.number step.outcome

namespace Step

/-- Whether the stem of a file reads like that of a step. -/
def ReadsAsStep (base stem : String) : Prop :=
  ∃ (digits : Text) (outcome : StepOutcome), digits ≠ [] ∧ (∀ c ∈ digits, Text.isDigit c = true) ∧
    stem = base ++ "_" ++ String.ofList digits ++ "_" ++ outcome.name

/-- What may stand in a working directory besides the shader files of steps: documents beside shaders, final shaders,
descriptions of faults, the marker, and shaders whose own names do not read like that of a step. -/
inductive Bystander (base : String) : String → Prop
  | document (stem : String) : Bystander base (stem ++ Shader.metadataSuffix)
  | final (other : String) : Bystander base (finalStem other ++ Shader.fileSuffix)
  | fault (other : String) : Bystander base (faultFileName other)
  | marker : Bystander base Progress.markerName
  | shader {stem : String} : ¬ ReadsAsStep base stem → Bystander base (stem ++ Shader.fileSuffix)

/-- The own name of a shader does not read like that of its steps. -/
theorem not_readsAsStep_self {base : String} : ¬ ReadsAsStep base base := by
  rintro ⟨digits, outcome, -, -, same⟩
  have lengths := congrArg String.length same
  simp only [String.length_append] at lengths
  have separated : "_".length = 1 := by decide
  omega

/-- The name of a written step is told for its own shader only. -/
theorem ofFileName?_fileName_iff {base base' : String} {number number' : Nat} {outcome outcome' : StepOutcome} :
    ofFileName? base (fileName base' number' outcome') = some (number, outcome) ↔
      base = base' ∧ number = number' ∧ outcome = outcome' := by
  constructor
  · intro found
    obtain ⟨digits, ending, spells⟩ := ofFileName?_eq_some_iff.mp found
    obtain ⟨bases, numbers, outcomes, -⟩ := spells.unique (spells_fileName base' number' outcome')
    exact ⟨bases, numbers, outcomes⟩
  · rintro ⟨rfl, rfl, rfl⟩
    exact ofFileName?_fileName base number outcome

/-- A bystander is not taken for a step. -/
theorem Bystander.ofFileName?_eq_none {base name : String} (bystander : Bystander base name) :
    ofFileName? base name = none := by
  cases bystander with
  | document stem => exact ofFileName?_metadata base stem
  | final other => exact ofFileName?_finalName_of other base
  | fault other =>
    refine ofFileName?_of_end 't' 'x' ('t' :: '.' :: "_exception".toList.reverse ++ other.toList.reverse) ?_ (by decide)
      (.inl (by decide))
    simp [faultFileName]
  | marker => exact ofFileName?_of_end 'E' 'T' _ rfl (by decide) (.inl (by decide))
  | @shader stem reads =>
    refine Option.eq_none_iff_forall_not_mem.mpr fun ⟨number, outcome⟩ found => reads ?_
    obtain ⟨digits, ending, spells⟩ := ofFileName?_eq_some_iff.mp found
    refine ⟨digits, outcome, spells.filled, spells.numeric, String.toList_inj.mp ?_⟩
    have whole := spells.whole
    rcases spells.known with rfl | rfl
    · simp only [String.toList_append, List.append_nil, ← List.append_assoc, String.toList_ofList] at whole ⊢
      exact List.append_cancel_right whole
    · have reversed := congrArg List.reverse whole
      simp [Shader.fileSuffix] at reversed

end Step

namespace Progress

variable {tree : FileTree} {work : Path} {base : String} {written : List WrittenStep}

/-- Whether a working directory holds the shader files of the written steps, and besides them only bystanders.  No name
stands in a directory twice. -/
structure Holds (tree : FileTree) (work : Path) (base : String) (written : List WrittenStep) : Prop where
  single : (namesIn tree work).Nodup
  present : ∀ step ∈ written, step.fileName ∈ namesIn tree work
  others : ∀ name ∈ namesIn tree work, (∃ step ∈ written, name = step.fileName) ∨ Step.Bystander base name

/-- What a scan for the steps of a shader tells if it tells what was written for it. -/
structure Recovers (tree : FileTree) (work : Path) (base : String) (written : List WrittenStep) : Prop where
  exact : ∀ number outcome, (number, outcome) ∈ (steps tree work base).map (fun step => (step.number, step.outcome)) ↔
    ⟨base, number, outcome⟩ ∈ written
  once : ((steps tree work base).map fun step => (step.number, step.outcome)).Nodup
  ordered : (steps tree work base).Pairwise fun a b => a.number ≤ b.number
  latestSuccess : ∀ number, latestSuccess? tree work base = some number ↔
    IsGreatest {n | ⟨base, n, .success⟩ ∈ written} number
  noSuccess : latestSuccess? tree work base = none ↔ ∀ number, ⟨base, number, .success⟩ ∉ written
  latest : ∀ number, latest? tree work base = some number ↔ IsGreatest {n | ∃ outcome, ⟨base, n, outcome⟩ ∈ written} number
  none : latest? tree work base = none ↔ ∀ number outcome, ⟨base, number, outcome⟩ ∉ written
  next : ∀ shader : Path, shader.stem = base → ∀ number outcome, ⟨base, number, outcome⟩ ∈ written →
    number < (start tree shader work true).nextStep

/-- A scan finds the steps that were written for the shader, under the names that the writer makes. -/
theorem Holds.mem_steps_iff (holds : Holds tree work base written) {step : FoundStep} :
    step ∈ steps tree work base ↔
      ⟨base, step.number, step.outcome⟩ ∈ written ∧ step.name = Step.fileName base step.number step.outcome := by
  rw [steps, mem_ofNames]
  constructor
  · rintro ⟨stands, named⟩
    rcases holds.others step.name stands with ⟨⟨base', number', outcome'⟩, member, own⟩ | bystander
    · replace own : step.name = Step.fileName base' number' outcome' := own
      rw [own] at named
      obtain ⟨rfl, numbers, outcomes⟩ := Step.ofFileName?_fileName_iff.mp named
      rw [numbers, outcomes]
      exact ⟨member, own⟩
    · rw [bystander.ofFileName?_eq_none] at named
      cases named
  · rintro ⟨member, own⟩
    rw [own, Step.ofFileName?_fileName]
    exact ⟨holds.present ⟨base, step.number, step.outcome⟩ member, rfl⟩

/-- The next number is above those of all steps that are found. -/
theorem number_lt_nextStep {shader : Path} {step : FoundStep} (named : shader.stem = base)
    (member : step ∈ steps tree work base) : step.number < (start tree shader work true).nextStep := by
  subst named
  have next : (start tree shader work true).nextStep = (latest? tree work shader.stem).getD 0 + 1 := by
    simp only [start, ↓reduceIte]
    split <;> rfl
  rw [next]
  cases latest : latest? tree work shader.stem with
  | none =>
    rw [latest?_eq_none.mp latest] at member
    cases member
  | some number => exact Nat.lt_succ_of_le ((latest?_eq_some.mp latest).2 step member)

/-- The greatest of some numbers is that of the set that they make up. -/
theorem greatest?_eq_some_iff_isGreatest {numbers : List Nat} {members : Set Nat} (same : ∀ n, n ∈ numbers ↔ n ∈ members)
    (n : Nat) : greatest? numbers = some n ↔ IsGreatest members n := by
  rw [greatest?_eq_some, same]
  exact and_congr_right fun _ => ⟨fun bound m member => bound m ((same m).mpr member),
    fun bound m member => bound ((same m).mp member)⟩

theorem greatest?_eq_none_iff {numbers : List Nat} {members : Set Nat} (same : ∀ n, n ∈ numbers ↔ n ∈ members) :
    greatest? numbers = none ↔ ∀ n, n ∉ members := by
  rw [greatest?_eq_none, List.eq_nil_iff_forall_not_mem]
  exact forall_congr' fun n => not_congr (same n)

/-- A scan for the steps of a shader recovers what was written for it, whatever else the directory holds. -/
theorem scan_recovers (holds : Holds tree work base written) : Recovers tree work base written := by
  have found : ∀ number outcome, ⟨base, number, outcome⟩ ∈ written ↔
      ∃ step ∈ steps tree work base, step.number = number ∧ step.outcome = outcome := by
    intro number outcome
    constructor
    · intro member
      exact ⟨⟨number, outcome, Step.fileName base number outcome⟩, holds.mem_steps_iff.mpr ⟨member, rfl⟩, rfl, rfl⟩
    · rintro ⟨step, member, rfl, rfl⟩
      exact (holds.mem_steps_iff.mp member).1
  have successes : ∀ n, n ∈ ((steps tree work base).filter fun step => step.outcome = .success).map (·.number) ↔
      n ∈ {n | ⟨base, n, .success⟩ ∈ written} := by
    intro n
    simp [found, and_comm, and_assoc]
  have numbers : ∀ n, n ∈ (steps tree work base).map (·.number) ↔ n ∈ {n | ∃ outcome, ⟨base, n, outcome⟩ ∈ written} := by
    intro n
    simp [found]
  refine ⟨?_, ?_, FoundStep.pairwise_ofNames base _, greatest?_eq_some_iff_isGreatest successes,
    greatest?_eq_none_iff successes, greatest?_eq_some_iff_isGreatest numbers, ?_, ?_⟩
  · intro number outcome
    simp only [List.mem_map, Prod.mk.injEq, found]
  · refine (FoundStep.nodup_ofNames base holds.single).map_on fun step member other member' same => ?_
    obtain ⟨numbers, outcomes⟩ := Prod.mk.inj same
    refine FoundStep.ext numbers outcomes ?_
    rw [(holds.mem_steps_iff.mp member).2, (holds.mem_steps_iff.mp member').2, numbers, outcomes]
  · exact (greatest?_eq_none_iff numbers).trans (forall_congr' fun n => not_exists)
  · intro shader named number outcome member
    obtain ⟨step, inside, rfl, -⟩ := (found number outcome).mp member
    exact number_lt_nextStep named inside

/-- Steps of three shaders, one of them called like a step of another, and a number beyond its width. -/
def mingled : List WrittenStep :=
  [⟨"s", 1, .success⟩, ⟨"s_001_success", 2, .failure⟩, ⟨"s_1", 1000, .error⟩, ⟨"s", 2, .error⟩]

/-- The shader with its document, its final shader, the description of a fault, and the marker. -/
def mingledOthers : List String :=
  ["s" ++ Shader.fileSuffix, "s" ++ Shader.metadataSuffix, Step.finalStem "s" ++ Shader.fileSuffix, Step.faultFileName "s",
    markerName]

/-- A directory that holds the mingled steps and the other files. -/
def mingledTree : FileTree := ⟨(mingled.map (·.fileName) ++ mingledOthers).map fun name => ([name], .file .empty)⟩

/-- Of two steps whose names begin alike, one is the shader's own and the other is that of the shader called like it. -/
theorem scan_recovers_mingled :
    Holds mingledTree ⟨"", []⟩ "s" mingled ∧
      (2, .failure) ∉ (steps mingledTree ⟨"", []⟩ "s").map (fun step => (step.number, step.outcome)) ∧
      latestSuccess? mingledTree ⟨"", []⟩ "s" = some 1 ∧ latest? mingledTree ⟨"", []⟩ "s" = some 2 := by
  have names : namesIn mingledTree ⟨"", []⟩ = mingled.map (·.fileName) ++ mingledOthers := by decide +kernel
  have bystanders : ∀ name ∈ mingledOthers, Step.Bystander "s" name := by
    simp only [mingledOthers, List.forall_mem_cons]
    exact ⟨.shader Step.not_readsAsStep_self, .document "s", .final "s", .fault "s", .marker, by simp⟩
  have holds : Holds mingledTree ⟨"", []⟩ "s" mingled := by
    refine ⟨by rw [names]; decide +kernel, fun step member => ?_, fun name member => ?_⟩
    · rw [names]
      exact List.mem_append_left _ (List.mem_map_of_mem member)
    · rw [names] at member
      rcases List.mem_append.mp member with steps | others
      · obtain ⟨step, inside, rfl⟩ := List.mem_map.mp steps
        exact .inl ⟨step, inside, rfl⟩
      · exact .inr (bystanders name others)
  have recovers := scan_recovers holds
  refine ⟨holds, fun found => ?_, (recovers.latestSuccess 1).mpr ⟨by decide, fun n member => ?_⟩,
    (recovers.latest 2).mpr ⟨⟨.error, by decide⟩, ?_⟩⟩
  · have member := (recovers.exact 2 .failure).mp found
    revert member
    decide
  · simp [mingled] at member
    omega
  · rintro n ⟨outcome, member⟩
    simp [mingled] at member
    omega

end Progress

end ShaderShrink
