import Mathlib.Tactic.SplitIfs
import ShaderShrink.Proofs.Files.Place
import ShaderShrink.Proofs.Number.Padding
import ShaderShrink.Reduction.Progress
import ShaderShrink.Reduction.Step

/-!
# Names of steps

The recogniser reads the number and the outcome back from the name that the writer makes, so that
different steps have different names.  No other file that a reduction writes has the name of a step.
-/

namespace ShaderShrink

namespace Step

/-- How a name tells a step: the base name, an underscore, digits of the step's number, an underscore, the outcome and the
suffix of shaders, and perhaps a line feed. -/
structure Spells (base name : String) (number : Nat) (outcome : StepOutcome) (digits ending : Text) : Prop where
  filled : digits ≠ []
  numeric : ∀ c ∈ digits, Text.isDigit c = true
  value : Text.numeral digits = number
  known : ending = [] ∨ ending = ['\n']
  whole : name.toList = (base ++ "_").toList ++ digits ++ ("_" ++ outcome.name ++ Shader.fileSuffix).toList ++ ending

private theorem takeWhile_digits {digits rest : Text} (all : ∀ c ∈ digits, Text.isDigit c = true)
    (stops : rest.head?.all (fun c => !Text.isDigit c) = true) :
    (digits ++ rest).takeWhile Text.isDigit = digits ∧ (digits ++ rest).dropWhile Text.isDigit = rest := by
  induction digits with
  | nil =>
    cases rest with
    | nil => exact ⟨rfl, rfl⟩
    | cons c rest =>
      have stop : Text.isDigit c = false := by simpa using stops
      simp [stop]
  | cons c digits ih =>
    have digit := all c List.mem_cons_self
    obtain ⟨front, back⟩ := ih fun c member => all c (List.mem_cons_of_mem _ member)
    simp only [List.cons_append, List.takeWhile_cons, List.dropWhile_cons, digit, ↓reduceIte, front, back,
      and_self]

/-- The digits of a name end in front of its outcome. -/
private theorem stops_end (outcome : StepOutcome) (ending : Text) :
    (("_" ++ outcome.name ++ Shader.fileSuffix).toList ++ ending).head?.all (fun c => !Text.isDigit c) = true := by
  simp [String.toList_append]
  decide

private theorem drop?_eq_some_iff {p t rest : Text} : Text.drop? p t = some rest ↔ t = p ++ rest := by
  unfold Text.drop? Text.startsWith
  constructor
  · intro found
    split_ifs at found with starts
    obtain ⟨tail, rfl⟩ := List.isPrefixOf_iff_prefix.mp starts
    rw [List.drop_left] at found
    rw [Option.some.inj found]
  · rintro rfl
    simp

private theorem outcomeOfEnd?_eq_some_iff {t : Text} {outcome : StepOutcome} :
    outcomeOfEnd? t = some outcome ↔
      ∃ ending, (ending = [] ∨ ending = ['\n']) ∧ t = ("_" ++ outcome.name ++ Shader.fileSuffix).toList ++ ending := by
  constructor
  · intro found
    have accepted := List.find?_some found
    simp only [Bool.or_eq_true, beq_iff_eq] at accepted
    rcases accepted with plain | broken
    · exact ⟨[], .inl rfl, by rw [plain, List.append_nil]⟩
    · exact ⟨['\n'], .inr rfl, broken⟩
  · rintro ⟨ending, rfl | rfl, rfl⟩ <;> cases outcome <;> decide

/-- The recogniser takes exactly the names that tell a step for those of steps. -/
theorem ofFileName?_eq_some_iff {base name : String} {number : Nat} {outcome : StepOutcome} :
    ofFileName? base name = some (number, outcome) ↔ ∃ digits ending, Spells base name number outcome digits ending := by
  unfold ofFileName?
  simp only [bind, Option.bind_eq_some_iff]
  constructor
  · rintro ⟨rest, dropped, found⟩
    split_ifs at found with empty
    obtain ⟨outcome', told, same⟩ := Option.bind_eq_some_iff.mp found
    cases same
    obtain ⟨ending, known, behind⟩ := outcomeOfEnd?_eq_some_iff.mp told
    refine ⟨rest.takeWhile Text.isDigit, ending, ?_, ?_, rfl, known, ?_⟩
    · exact fun none => empty (List.isEmpty_iff.mpr none)
    · exact List.all_eq_true.mp List.all_takeWhile
    · rw [drop?_eq_some_iff.mp dropped, List.append_assoc, List.append_assoc, ← behind, List.takeWhile_append_dropWhile]
  · rintro ⟨digits, ending, spells⟩
    obtain ⟨front, back⟩ := takeWhile_digits spells.numeric (stops_end outcome ending)
    have filled : digits.isEmpty = false := List.isEmpty_eq_false_iff.mpr spells.filled
    refine ⟨digits ++ (("_" ++ outcome.name ++ Shader.fileSuffix).toList ++ ending), ?_, ?_⟩
    · rw [drop?_eq_some_iff, spells.whole, List.append_assoc, List.append_assoc]
    · have told : outcomeOfEnd? (("_" ++ outcome.name ++ Shader.fileSuffix).toList ++ ending) = some outcome :=
        outcomeOfEnd?_eq_some_iff.mpr ⟨ending, spells.known, rfl⟩
      simp only [front, back, filled, told, spells.value, Bool.false_eq_true, ↓reduceIte, Option.bind_some]

/-- The name that the writer makes tells its step. -/
theorem spells_fileName (base : String) (number : Nat) (outcome : StepOutcome) :
    Spells base (fileName base number outcome) number outcome (NumberLayout.padded numberWidth number).toList [] where
  filled := NumberLayout.padded_ne_nil _ _
  numeric _ member := Text.isDigit_of_isDigit (NumberLayout.isDigit_of_mem_padded member)
  value := NumberLayout.numeral_padded _ _
  known := .inl rfl
  whole := by simp only [fileName, fileStem, String.toList_append, List.append_assoc, List.append_nil]

/-- The recogniser reads back what the writer wrote. -/
theorem ofFileName?_fileName (base : String) (number : Nat) (outcome : StepOutcome) :
    ofFileName? base (fileName base number outcome) = some (number, outcome) :=
  ofFileName?_eq_some_iff.mpr ⟨_, _, spells_fileName base number outcome⟩

/-- What stands in front of the last separator and behind it is known from the whole. -/
private theorem eq_of_separator {separator : Char} {front front' back back' : Text} (plain : separator ∉ back)
    (plain' : separator ∉ back') (same : front ++ separator :: back = front' ++ separator :: back') :
    front = front' ∧ back = back' := by
  rcases List.append_eq_append_iff.mp same with ⟨_ | ⟨c, more⟩, rfl, split⟩ | ⟨_ | ⟨c, more⟩, rfl, split⟩
  · exact ⟨(List.append_nil _).symm, (List.cons.inj split).2⟩
  · exact absurd ((List.cons.inj split).2 ▸ by simp) plain
  · exact ⟨List.append_nil _, (List.cons.inj split).2.symm⟩
  · exact absurd ((List.cons.inj split).2 ▸ by simp) plain'

private theorem separator_notMem_digits {digits : Text} (numeric : ∀ c ∈ digits, Text.isDigit c = true) : '_' ∉ digits :=
  fun member => absurd (numeric '_' member) (by decide)

private theorem separator_notMem_end (outcome : StepOutcome) : '_' ∉ outcome.name.toList ++ Shader.fileSuffix.toList := by
  cases outcome <;> decide

/-- A name tells one step of one shader at most: the last two underscores part the base name, the number and the
outcome, whatever the base name is. -/
theorem Spells.unique {base base' name : String} {number number' : Nat} {outcome outcome' : StepOutcome}
    {digits ending digits' ending' : Text} (spells : Spells base name number outcome digits ending)
    (spells' : Spells base' name number' outcome' digits' ending') :
    base = base' ∧ number = number' ∧ outcome = outcome' ∧ digits = digits' ∧ ending = ending' := by
  have whole := spells.whole.symm.trans spells'.whole
  obtain ⟨named, rfl⟩ : (base ++ "_").toList ++ digits ++ ("_" ++ outcome.name ++ Shader.fileSuffix).toList =
      (base' ++ "_").toList ++ digits' ++ ("_" ++ outcome'.name ++ Shader.fileSuffix).toList ∧ ending = ending' := by
    have reversed := congrArg List.reverse whole
    rcases spells.known with rfl | rfl <;> rcases spells'.known with rfl | rfl
    · exact ⟨by simpa only [List.append_nil] using whole, rfl⟩
    · simp [Shader.fileSuffix] at reversed
    · simp [Shader.fileSuffix] at reversed
    · exact ⟨List.append_cancel_right whole, rfl⟩
  have parts : ∀ (base : String) (digits : Text) (outcome : StepOutcome),
      (base ++ "_").toList ++ digits ++ ("_" ++ outcome.name ++ Shader.fileSuffix).toList =
        (base.toList ++ '_' :: digits) ++ '_' :: (outcome.name.toList ++ Shader.fileSuffix.toList) := by
    intro base digits outcome
    simp [String.toList_append]
  rw [parts, parts] at named
  obtain ⟨front, back⟩ := eq_of_separator (separator_notMem_end _) (separator_notMem_end _) named
  obtain ⟨bases, rfl⟩ := eq_of_separator (separator_notMem_digits spells.numeric) (separator_notMem_digits spells'.numeric) front
  have outcomes : outcome = outcome' := by
    have names := List.append_cancel_right back
    cases outcome <;> cases outcome' <;> first | rfl | (revert names; decide)
  exact ⟨String.toList_inj.mp bases, spells.value.symm.trans spells'.value, outcomes, rfl, rfl⟩

/-- Different steps have different names. -/
theorem fileName_inj {base : String} {number number' : Nat} {outcome outcome' : StepOutcome}
    (same : fileName base number outcome = fileName base number' outcome') :
    number = number' ∧ outcome = outcome' := by
  have read := congrArg (ofFileName? base) same
  rw [ofFileName?_fileName, ofFileName?_fileName] at read
  cases read
  exact ⟨rfl, rfl⟩

/-! ## Names as paths -/

theorem isName_append {base rest : String} (plain : '/' ∉ base.toList) (plain' : '/' ∉ rest.toList)
    (long : 3 ≤ rest.length) : Path.IsName (base ++ rest) := by
  have length : 3 ≤ (base ++ rest).length := by rw [String.length_append]; omega
  refine Path.isName_of_notMem ?_ ?_ ?_ ?_
  · rw [String.toList_append, List.mem_append]
    exact fun member => member.elim plain plain'
  all_goals
    intro same
    rw [same] at length
    exact absurd length (by decide)

/-- The part of a step's name behind the base name. -/
private theorem fileStem_eq (base : String) (number : Nat) (outcome : StepOutcome) :
    fileStem base number (some outcome) =
      base ++ ("_" ++ NumberLayout.padded numberWidth number ++ ("_" ++ outcome.name)) := by
  simp only [fileStem, String.append_assoc]

private theorem plain_fileStem (number : Nat) (outcome : StepOutcome) :
    '/' ∉ ("_" ++ NumberLayout.padded numberWidth number ++ ("_" ++ outcome.name)).toList := by
  simp only [String.toList_append, List.mem_append, not_or]
  refine ⟨⟨by decide, fun member => ?_⟩, by decide, by cases outcome <;> decide⟩
  exact absurd (NumberLayout.isDigit_of_mem_padded member) (by decide)

private theorem long_fileStem (number : Nat) (outcome : StepOutcome) :
    3 ≤ ("_" ++ NumberLayout.padded numberWidth number ++ ("_" ++ outcome.name)).length := by
  have long : 5 ≤ outcome.name.length := by cases outcome <;> decide
  simp only [String.length_append]
  omega

theorem isName_fileStem {base : String} (plain : '/' ∉ base.toList) (number : Nat) (outcome : StepOutcome) :
    Path.IsName (fileStem base number (some outcome)) := by
  rw [fileStem_eq]
  exact isName_append plain (plain_fileStem number outcome) (long_fileStem number outcome)

theorem isName_fileName {base : String} (plain : '/' ∉ base.toList) (number : Nat) (outcome : StepOutcome) :
    Path.IsName (fileName base number outcome) := by
  have plainStem : '/' ∉ (fileStem base number (some outcome)).toList := by
    rw [fileStem_eq, String.toList_append, List.mem_append]
    exact fun member => member.elim plain (plain_fileStem number outcome)
  exact isName_append plainStem (by decide) (by decide)

theorem isName_finalStem {base : String} (plain : '/' ∉ base.toList) : Path.IsName (finalStem base) :=
  isName_append plain (by decide) (by decide)

theorem isName_faultFileName {base : String} (plain : '/' ∉ base.toList) :
    Path.IsName (faultFileName base) :=
  isName_append plain (by decide) (by decide)

theorem isName_markerName : Path.IsName Progress.markerName := by decide

/-! ## Other names -/

/-- The name of a step begins with the base name, an underscore and a digit, and ends with the suffix
of shaders, perhaps with a line feed behind it. -/
theorem ofFileName?_some {base name : String} {number : Nat} {outcome : StepOutcome}
    (found : ofFileName? base name = some (number, outcome)) :
    ∃ digit middle, Text.isDigit digit = true ∧
      (name.toList = (base ++ "_").toList ++ digit :: middle ++ Shader.fileSuffix.toList ∨
        name.toList = (base ++ "_").toList ++ digit :: middle ++ Shader.fileSuffix.toList ++ ['\n']) := by
  obtain ⟨_ | ⟨digit, more⟩, ending, spells⟩ := ofFileName?_eq_some_iff.mp found
  · exact absurd rfl spells.filled
  · refine ⟨digit, more ++ ("_" ++ outcome.name).toList, spells.numeric digit List.mem_cons_self, ?_⟩
    rw [spells.whole]
    rcases spells.known with rfl | rfl
    · left; simp [String.toList_append]
    · right; simp [String.toList_append]

/-- The name of a step ends with its outcome and the suffix of shaders, perhaps with a line feed behind it. -/
theorem ofFileName?_end {base name : String} {number : Nat} {outcome : StepOutcome}
    (found : ofFileName? base name = some (number, outcome)) :
    ∃ front, name.toList = front ++ ("_" ++ outcome.name ++ Shader.fileSuffix).toList ∨
      name.toList = front ++ ("_" ++ outcome.name ++ Shader.fileSuffix).toList ++ ['\n'] := by
  obtain ⟨digits, ending, spells⟩ := ofFileName?_eq_some_iff.mp found
  refine ⟨(base ++ "_").toList ++ digits, ?_⟩
  rw [spells.whole]
  rcases spells.known with rfl | rfl
  · exact .inl (List.append_nil _)
  · exact .inr rfl

/-- A name with another end than that of shaders is not that of a step. -/
theorem ofFileName?_of_end {base name : String} (last before : Char) (front : Text)
    (reversed : name.toList.reverse = last :: before :: front) (notBreak : last ≠ '\n')
    (other : last ≠ 'g' ∨ before ≠ 'a') : ofFileName? base name = none := by
  cases found : ofFileName? base name with
  | none => rfl
  | some step =>
    obtain ⟨number, outcome⟩ := step
    obtain ⟨digit, middle, -, plain | broken⟩ := ofFileName?_some found
    · rw [plain] at reversed
      simp [Shader.fileSuffix] at reversed
      obtain ⟨rfl, rfl, -⟩ := reversed
      simp at other
    · rw [broken] at reversed
      simp at reversed
      exact absurd reversed.1.symm notBreak

/-- A name without an underscore and a digit behind the base name is not that of a step. -/
theorem ofFileName?_of_start {base rest : String}
    (other : ∀ digit tail, rest.toList = '_' :: digit :: tail → Text.isDigit digit = false) :
    ofFileName? base (base ++ rest) = none := by
  cases found : ofFileName? base (base ++ rest) with
  | none => rfl
  | some step =>
    obtain ⟨number, outcome⟩ := step
    obtain ⟨digit, middle, isDigit, whole⟩ := ofFileName?_some found
    simp only [String.toList_append, List.append_assoc] at whole
    rcases whole with plain | broken
    · rw [other digit _ (List.append_cancel_left plain)] at isDigit
      cases isDigit
    · rw [other digit _ (List.append_cancel_left broken)] at isDigit
      cases isDigit

/-- The document beside a shader is not taken for a step. -/
theorem ofFileName?_metadata (base stem : String) : ofFileName? base (stem ++ Shader.metadataSuffix) = none := by
  refine ofFileName?_of_end 'n' 'o' ('s' :: 'j' :: '.' :: stem.toList.reverse) ?_ (by decide) (.inl (by decide))
  simp [Shader.metadataSuffix]

/-- The final shader is not taken for a step, of whatever shader. -/
theorem ofFileName?_finalName_of (base other : String) :
    ofFileName? other (finalStem base ++ Shader.fileSuffix) = none := by
  cases found : ofFileName? other (finalStem base ++ Shader.fileSuffix) with
  | none => rfl
  | some step =>
    obtain ⟨number, outcome⟩ := step
    obtain ⟨front, plain | broken⟩ := ofFileName?_end found
    · have reversed := congrArg List.reverse plain
      cases outcome <;> simp [finalStem, Shader.fileSuffix, StepOutcome.name] at reversed
    · have reversed := congrArg List.reverse broken
      simp [Shader.fileSuffix] at reversed

theorem ofFileName?_finalName (base : String) :
    ofFileName? base (finalStem base ++ Shader.fileSuffix) = none := ofFileName?_finalName_of base base

theorem finalStem_ne (base : String) (number : Nat) (outcome : StepOutcome) :
    finalStem base ≠ fileStem base number (some outcome) := by
  intro same
  have found := ofFileName?_fileName base number outcome
  rw [fileName, ← same, ofFileName?_finalName] at found
  cases found

end Step

end ShaderShrink
