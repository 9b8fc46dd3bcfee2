import ShaderShrink.Proofs.Reduction.Intake
import ShaderShrink.Proofs.Reduction.Keeping
import ShaderShrink.Proofs.Reduction.Scan

/-!
# The numbers of steps

The steps in a working directory are numbered below some bound, each number at most once.  Changing files that
belong to no step keeps the steps; writing the files of a step with the next number adds that step at most, and
extends the directory: all that stood there stays, and what is new has a greater number.
-/

namespace ShaderShrink

/-! ## Names that are not those of steps -/

namespace Step

/-- Whether none of some names is that of a step's file. -/
def Unrelated (base : String) (names : List String) : Prop :=
  ∀ name ∈ names, ofFileName? base name = none ∧ ∀ number outcome, name ∉ fileNames base number outcome

theorem Unrelated.append {base : String} {names others : List String} (first : Unrelated base names)
    (second : Unrelated base others) : Unrelated base (names ++ others) :=
  fun name member => (List.mem_append.mp member).elim (first name) (second name)

/-- A name that ends like no file of a shader is not that of a step's file. -/
theorem unrelated_of_end {base name : String} (last before : Char) (front : Text)
    (reversed : name.toList.reverse = last :: before :: front) (notBreak : last ≠ '\n') (notText : last ≠ 'g' ∨ before ≠ 'a')
    (notDocument : last ≠ 'n' ∨ before ≠ 'o') : Unrelated base [name] := by
  intro other member
  obtain rfl := List.mem_singleton.mp member
  refine ⟨ofFileName?_of_end last before front reversed notBreak notText, fun number outcome inside => ?_⟩
  rcases Shader.mem_fileNames.mp inside with rfl | rfl
  · simp [Shader.fileSuffix] at reversed
    obtain ⟨rfl, rfl, -⟩ := reversed
    simp at notText
  · simp [Shader.metadataSuffix] at reversed
    obtain ⟨rfl, rfl, -⟩ := reversed
    simp at notDocument

/-- The files of a shader that is not taken for a step are not those of a step. -/
theorem unrelated_fileNames {base stem : String} (other : ofFileName? base (stem ++ Shader.fileSuffix) = none) :
    Unrelated base (Shader.fileNames stem) := by
  intro name member
  constructor
  · rcases Shader.mem_fileNames.mp member with rfl | rfl
    · exact other
    · exact ofFileName?_metadata base stem
  · intro number outcome inside
    obtain rfl := Shader.stem_eq_of_mem_fileNames member inside
    rw [show fileStem base number (some outcome) ++ Shader.fileSuffix = fileName base number outcome from rfl,
      ofFileName?_fileName] at other
    cases other

theorem unrelated_markerName (base : String) : Unrelated base [Progress.markerName] :=
  unrelated_of_end 'E' 'T' _ rfl (by decide) (.inl (by decide)) (.inl (by decide))

theorem unrelated_faultFileName (base : String) : Unrelated base [faultFileName base] := by
  refine unrelated_of_end 't' 'x' ('t' :: '.' :: "_exception".toList.reverse ++ base.toList.reverse) ?_ ?_ ?_ ?_
  · simp [faultFileName]
  · decide
  · exact .inl (by decide)
  · exact .inl (by decide)

theorem unrelated_finalNames (base : String) : Unrelated base (Shader.fileNames (finalStem base)) :=
  unrelated_fileNames (ofFileName?_finalName base)

theorem unrelated_inputNames (base : String) : Unrelated base (Preparation.inputNames base) := by
  refine .append (unrelated_fileNames (ofFileName?_of_start fun digit tail same => ?_)) ?_
  · simp [Shader.fileSuffix] at same
  · exact unrelated_of_end 'g' 'n' _ rfl (by decide) (.inr (by decide)) (.inl (by decide))

end Step

/-! ## Directories with numbered steps -/

namespace Progress

variable {tree a b c : FileTree} {work : Path} {base : String} {names : List String} {whole : Prop} {bound : Nat}

/-- The places of a reduction's own files in the working directory, without some of them. -/
def Files (work : Path) (names : List String) (place : Place) : Prop :=
  ∃ name, IsOwn name ∧ name ∉ names ∧ place = work.place ++ [name]

/-- Whether the steps in a working directory are numbered below a bound, from one on and without gaps if the
numbering is to be whole. -/
structure Numbered (tree : FileTree) (work : Path) (base : String) (whole : Prop) (bound : Nat) : Prop where
  named : ∀ step, Found tree work base step → step.name = Step.fileName base step.number step.outcome
  positive : ∀ step, Found tree work base step → 1 ≤ step.number
  below : ∀ step, Found tree work base step → step.number < bound
  single : ∀ step step', Found tree work base step → Found tree work base step' → step.number = step'.number →
    step = step'
  gapless : whole → ∀ number, 1 ≤ number → number < bound → ∃ step, Found tree work base step ∧ step.number = number

/-- Whether a tree holds all the steps of another one with their files, and besides them only steps with greater
numbers. -/
structure Extends (work : Path) (base : String) (a b : FileTree) : Prop where
  directory : a.isDirectory work = true → b.isDirectory work = true
  found : ∀ step, Found a work base step → Found b work base step
  kept : ∀ step, Found a work base step → ∀ name ∈ Step.fileNames base step.number step.outcome,
    b.lookup? (work.place ++ [name]) = a.lookup? (work.place ++ [name])
  later : ∀ step, Found b work base step → Found a work base step ∨
    ∀ old, Found a work base old → old.number < step.number

theorem Extends.refl (work : Path) (base : String) (tree : FileTree) : Extends work base tree tree :=
  ⟨id, fun _ => id, fun _ _ _ _ => rfl, fun _ => .inl⟩

theorem Extends.trans (first : Extends work base a b) (second : Extends work base b c) : Extends work base a c where
  directory stands := second.directory (first.directory stands)
  found step found := second.found step (first.found step found)
  kept step found name member :=
    (second.kept step (first.found step found) name member).trans (first.kept step found name member)
  later step found := by
    rcases second.later step found with before | greater
    · exact first.later step before
    · exact .inr fun old oldFound => greater old (first.found old oldFound)

/-- The name of a step is that of an own file. -/
theorem isOwn_of_named {name : String} {number : Nat} {outcome : StepOutcome}
    (named : Step.ofFileName? base name = some (number, outcome)) : IsOwn name := by
  obtain ⟨digit, middle, -, plain | broken⟩ := Step.ofFileName?_some named
  · exact .inl (by rw [plain]; simp [Shader.fileSuffix])
  · exact .inl (by rw [broken]; simp [Shader.fileSuffix])

private theorem lookup?_of_files (agree : FileTree.AgreeOn (Files work names) a b) {name : String} (own : IsOwn name)
    (other : name ∉ names) : b.lookup? (work.place ++ [name]) = a.lookup? (work.place ++ [name]) :=
  (agree _ ⟨name, own, other, rfl⟩).symm

private theorem found_congr (agree : FileTree.AgreeOn (Files work names) a b) {step : FoundStep}
    (other : step.name ∉ names) : Found a work base step ↔ Found b work base step := by
  constructor
  · rintro ⟨named, stands⟩
    exact ⟨named, lookup?_of_files agree (isOwn_of_named named) other ▸ stands⟩
  · rintro ⟨named, stands⟩
    exact ⟨named, lookup?_of_files agree (isOwn_of_named named) other ▸ stands⟩

/-- Changing other files keeps the steps. -/
theorem found_of_unrelated (agree : FileTree.AgreeOn (Files work names) a b)
    (unrelated : Step.Unrelated base names) (step : FoundStep) :
    Found a work base step ↔ Found b work base step := by
  have other : ∀ {tree}, Found tree work base step → step.name ∉ names := by
    intro tree found member
    have none := (unrelated step.name member).1
    rw [found.named] at none
    cases none
  exact ⟨fun found => (found_congr agree (other found)).mp found,
    fun found => (found_congr agree (other found)).mpr found⟩

theorem Numbered.congr (numbered : Numbered a work base whole bound)
    (same : ∀ step, Found a work base step ↔ Found b work base step) : Numbered b work base whole bound where
  named step found := numbered.named step ((same step).mpr found)
  positive step found := numbered.positive step ((same step).mpr found)
  below step found := numbered.below step ((same step).mpr found)
  single step step' found found' := numbered.single step step' ((same step).mpr found) ((same step').mpr found')
  gapless all number low high := by
    obtain ⟨step, found, numbers⟩ := numbered.gapless all number low high
    exact ⟨step, (same step).mp found, numbers⟩

/-- Changing files that belong to no step keeps the numbering and extends the directory. -/
theorem Numbered.still (numbered : Numbered a work base whole bound) (unrelated : Step.Unrelated base names)
    (agree : FileTree.AgreeOn (Files work names) a b)
    (directory : a.isDirectory work = true → b.isDirectory work = true) :
    Numbered b work base whole bound ∧ Extends work base a b := by
  have same : ∀ step, Found a work base step ↔ Found b work base step := found_of_unrelated agree unrelated
  refine ⟨numbered.congr same, directory, fun step => (same step).mp, ?_, fun step found => .inl ((same step).mpr found)⟩
  intro step found name member
  exact lookup?_of_files agree (Shader.isOwn_of_mem_fileNames member) fun inside =>
    (unrelated name inside).2 _ _ member

/-- The step that is taken for what the next step writes. -/
private theorem found_new {number : Nat} {outcome : StepOutcome} {step : FoundStep}
    (found : Found b work base step) (member : step.name ∈ Step.fileNames base number outcome) :
    step = ⟨number, outcome, Step.fileName base number outcome⟩ := by
  obtain ⟨named, -⟩ := found
  obtain ⟨number', outcome', name⟩ := step
  rcases Shader.mem_fileNames.mp member with same | same
  · obtain rfl : name = Step.fileName base number outcome := same
    rw [Step.ofFileName?_fileName] at named
    obtain ⟨rfl, rfl⟩ := Prod.mk.inj (Option.some.inj named)
    rfl
  · rw [show name = _ from same, Step.ofFileName?_metadata] at named
    cases named

/-- Writing the files of a step with a number above all others adds that step at most. -/
theorem found_step {number : Nat} {outcome : StepOutcome} (below : ∀ step, Found a work base step → step.number < number)
    (agree : FileTree.AgreeOn (Files work (Step.fileNames base number outcome)) a b) (step : FoundStep) :
    Found b work base step ↔ Found a work base step ∨ step = ⟨number, outcome, Step.fileName base number outcome⟩ ∧
      (b.lookup? (work.place ++ [Step.fileName base number outcome])).isSome = true := by
  constructor
  · intro found
    by_cases member : step.name ∈ Step.fileNames base number outcome
    · obtain rfl := found_new found member
      exact .inr ⟨rfl, found.stands⟩
    · exact .inl ((found_congr agree member).mpr found)
  · rintro (found | ⟨rfl, stands⟩)
    · refine (found_congr agree fun member => ?_).mp found
      obtain rfl := found_new found member
      exact Nat.lt_irrefl number (below _ found)
    · exact ⟨Step.ofFileName?_fileName base number outcome, stands⟩

/-- Writing the files of the next step extends the directory, and adds that step if its file stands. -/
theorem Numbered.step {number : Nat} {outcome : StepOutcome} (numbered : Numbered a work base whole number)
    (positive : 1 ≤ number) (agree : FileTree.AgreeOn (Files work (Step.fileNames base number outcome)) a b)
    (directory : a.isDirectory work = true → b.isDirectory work = true) :
    Extends work base a b ∧
      ((b.lookup? (work.place ++ [Step.fileName base number outcome])).isSome = false →
        Numbered b work base whole number) ∧
      ((b.lookup? (work.place ++ [Step.fileName base number outcome])).isSome = true →
        Numbered b work base whole (number + 1)) := by
  have old : ∀ step, Found a work base step → ∀ name ∈ Step.fileNames base step.number step.outcome,
      name ∉ Step.fileNames base number outcome := fun step found name member member' =>
    absurd (Step.mem_fileNames_number member member').1 (Nat.ne_of_lt (numbered.below step found))
  have steps := found_step numbered.below agree
  have kept : ∀ step, Found a work base step → Found b work base step :=
    fun step found => (steps step).mpr (.inl found)
  have possible : ∀ step, Found b work base step →
      Found a work base step ∨ step = ⟨number, outcome, Step.fileName base number outcome⟩ :=
    fun step found => ((steps step).mp found).imp_right (·.1)
  refine ⟨⟨directory, kept, ?_, ?_⟩, fun absent => ?_, fun stands => ?_⟩
  · exact fun step found name member =>
      lookup?_of_files agree (Shader.isOwn_of_mem_fileNames member) (old step found name member)
  · intro step found
    rcases possible step found with before | rfl
    · exact .inl before
    · exact .inr fun earlier found => numbered.below earlier found
  · refine numbered.congr fun step => ⟨kept step, fun found => ?_⟩
    rcases possible step found with before | rfl
    · exact before
    · rw [found.stands] at absent
      cases absent
  · have new : Found b work base ⟨number, outcome, Step.fileName base number outcome⟩ :=
      ⟨Step.ofFileName?_fileName base number outcome, stands⟩
    refine ⟨?_, ?_, ?_, ?_, ?_⟩
    · intro step found
      rcases possible step found with before | rfl
      · exact numbered.named step before
      · rfl
    · intro step found
      rcases possible step found with before | rfl
      · exact numbered.positive step before
      · exact positive
    · intro step found
      rcases possible step found with before | rfl
      · exact Nat.lt_succ_of_lt (numbered.below step before)
      · exact Nat.lt_succ_self number
    · intro step step' found found' same
      rcases possible step found with before | rfl <;> rcases possible step' found' with before' | rfl
      · exact numbered.single step step' before before' same
      · exact absurd same (Nat.ne_of_lt (numbered.below step before))
      · exact absurd same.symm (Nat.ne_of_lt (numbered.below step' before'))
      · rfl
    · intro all number' low high
      rcases Nat.lt_succ_iff_lt_or_eq.mp high with less | rfl
      · obtain ⟨step, found, numbers⟩ := numbered.gapless all number' low less
        exact ⟨step, kept step found, numbers⟩
      · exact ⟨_, new, rfl⟩

/-- Without the claim that there are no gaps, a bound may be raised. -/
theorem Numbered.raise (numbered : Numbered a work base whole bound) (gaps : ¬ whole) :
    Numbered a work base whole (bound + 1) :=
  { numbered with
    below := fun step found => Nat.lt_succ_of_lt (numbered.below step found)
    gapless := fun all => absurd all gaps }

end Progress

end ShaderShrink
