import ShaderShrink.Proofs.Reduction.Scan

/-!
# Steps and the spelling of their numbers

A scan takes a name for that of a step whatever the spelling of its number: digits of any script, with fewer or more
zeros in front than the writer puts there, and with a line feed behind the name.  The name is the one that the writer makes
exactly if the digits are ASCII digits, filled with zeros to three of them and no further, and nothing stands behind the
suffix.  A reduction goes on from the name that the writer makes, so that its shader is there exactly if the latest accepted
step has a file of that name.
-/

namespace ShaderShrink

/-- Whether the number of a step is spelled as the writer does it. -/
def FoundStep.Plain (base : String) (step : FoundStep) : Prop :=
  ∃ digits, NumberLayout.Padded Step.numberWidth digits ∧ Step.Spells base step.name step.number step.outcome digits []

namespace Step

variable {base name : String} {number : Nat} {outcome : StepOutcome} {digits ending : Text}

/-- A name that tells a step is the one that the writer makes exactly if it is spelled like that. -/
theorem Spells.eq_fileName_iff (spells : Spells base name number outcome digits ending) :
    name = fileName base number outcome ↔ NumberLayout.Padded numberWidth digits ∧ ending = [] := by
  have written : digits = (NumberLayout.padded numberWidth number).toList ↔
      NumberLayout.Padded numberWidth digits ∧ Text.numeral digits = number := NumberLayout.eq_padded_iff (by decide)
  constructor
  · rintro rfl
    obtain ⟨-, -, -, same, ends⟩ := spells.unique (spells_fileName base number outcome)
    exact ⟨(written.mp same).1, ends⟩
  · rintro ⟨padded, rfl⟩
    have same := written.mpr ⟨padded, spells.value⟩
    exact String.toList_inj.mp (by rw [spells.whole, same, ← (spells_fileName base number outcome).whole])

end Step

theorem FoundStep.plain_iff {base : String} {step : FoundStep} :
    step.Plain base ↔ step.name = Step.fileName base step.number step.outcome := by
  constructor
  · rintro ⟨digits, padded, spells⟩
    exact spells.eq_fileName_iff.mpr ⟨padded, rfl⟩
  · intro written
    have spells := Step.spells_fileName base step.number step.outcome
    rw [← written] at spells
    exact ⟨_, (spells.eq_fileName_iff.mp written).1, spells⟩

namespace Progress

variable {tree : FileTree} {work : Path} {base : String}

/-- A scan finds the names in the working directory that tell a step. -/
theorem mem_steps_iff_spells {step : FoundStep} :
    step ∈ steps tree work base ↔
      step.name ∈ namesIn tree work ∧ ∃ digits ending, Step.Spells base step.name step.number step.outcome digits ending := by
  rw [steps, mem_ofNames, Step.ofFileName?_eq_some_iff]

theorem start_of_latestSuccess? {shader : Path} {number : Nat} (named : shader.stem = base)
    (latest : latestSuccess? tree work base = some number) :
    (start tree shader work true).shader = work.child (Step.fileName base number .success) := by
  subst named
  simp only [start, ↓reduceIte, latest]

/-- A scan finds the names that tell a step in any spelling, and no others.  The name is the one that the writer makes
exactly if it is plain.  So no two plain names stand for one step, and a reduction that goes on finds its shader exactly if
the latest accepted step has a plain name. -/
theorem steps_spelled (tree : FileTree) (work : Path) (base : String) :
    (∀ step, step ∈ steps tree work base ↔ step.name ∈ namesIn tree work ∧
        ∃ digits ending, Step.Spells base step.name step.number step.outcome digits ending) ∧
      (∀ step : FoundStep, step.Plain base ↔ step.name = Step.fileName base step.number step.outcome) ∧
      (∀ step ∈ steps tree work base, ∀ other ∈ steps tree work base, step.Plain base → other.Plain base →
        step.number = other.number → step.outcome = other.outcome → step = other) ∧
      ∀ shader number, shader.stem = base → latestSuccess? tree work base = some number →
        (start tree shader work true).shader = work.child (Step.fileName base number .success) ∧
          (Step.fileName base number .success ∈ namesIn tree work ↔
            ∃ step ∈ steps tree work base, step.number = number ∧ step.outcome = .success ∧ step.Plain base) := by
  refine ⟨fun _ => mem_steps_iff_spells, fun _ => FoundStep.plain_iff, ?_, ?_⟩
  · intro step _ other _ plain plain' number outcome
    refine FoundStep.ext number outcome ?_
    rw [FoundStep.plain_iff.mp plain, FoundStep.plain_iff.mp plain', number, outcome]
  · intro shader number named latest
    refine ⟨start_of_latestSuccess? named latest, fun stands => ?_, ?_⟩
    · have spells := Step.spells_fileName base number .success
      exact ⟨⟨number, .success, _⟩, mem_steps_iff_spells.mpr ⟨stands, _, _, spells⟩, rfl, rfl, FoundStep.plain_iff.mpr rfl⟩
    · rintro ⟨step, member, rfl, success, plain⟩
      rw [← success, ← FoundStep.plain_iff.mp plain]
      exact (mem_steps_iff_spells.mp member).1

/-- A working directory with one accepted step, whose number has no zeros in front. -/
def unpadded : FileTree := ⟨[(["s_1_success.frag"], .file .empty)]⟩

/-- The step is found, but the shader from which the reduction would go on is not there. -/
theorem steps_spelled_unpadded :
    ⟨1, .success, "s_1_success.frag"⟩ ∈ steps unpadded ⟨"", []⟩ "s" ∧
      (start unpadded ⟨"", ["s.frag"]⟩ ⟨"", []⟩ true).shader = ⟨"", ["s_001_success.frag"]⟩ ∧
      ¬ ∃ step ∈ steps unpadded ⟨"", []⟩ "s", step.number = 1 ∧ step.outcome = .success ∧ step.Plain "s" := by
  obtain ⟨found, -, -, begins⟩ := steps_spelled unpadded ⟨"", []⟩ "s"
  have names : namesIn unpadded ⟨"", []⟩ = ["s_1_success.frag"] := by decide +kernel
  have latest : latestSuccess? unpadded ⟨"", []⟩ "s" = some 1 := by decide +kernel
  obtain ⟨shader, present⟩ := begins ⟨"", ["s.frag"]⟩ 1 (by decide +kernel) latest
  refine ⟨(found _).mpr ⟨by rw [names]; exact List.mem_singleton_self _, ['1'], [], ?_⟩, ?_, ?_⟩
  · refine ⟨by decide, fun c member => ?_, by decide, .inl rfl, by decide⟩
    rw [List.mem_singleton.mp member]
    decide
  · rw [shader]
    decide +kernel
  · rw [← present, names]
    decide +kernel

end Progress

end ShaderShrink
