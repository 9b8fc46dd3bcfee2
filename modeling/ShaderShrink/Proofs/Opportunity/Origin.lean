import Mathlib.Tactic.SplitIfs
import ShaderShrink.Opportunity.Search
import ShaderShrink.Proofs.Shader.Outline

/-!
# Where opportunities come from

The opportunities of a shader are found line by line, those of each kind in a search of their own.  What each search
asks of a line is stated here once: whatever is proved of the opportunities of one kind is proved from it.
-/

namespace ShaderShrink.Opportunity

open ShaderShrink.Text

/-- The constant to put in the place of the initial value on a line of code. -/
def newInitial? (version : Version) (code : Text) : Option Text := do
  let declaration ← Code.declaration? code
  let initial ← declaration.initial
  if startsWith declaration.type "mat".toList || Code.declaresMore initial then none
  else
    let constant ← constantOf? version declaration.type
    if trim initial = constant then none else some constant

theorem initializerAt?_eq (rules : Rules) (line : OutlineLine) :
    initializerAt? rules line = (newInitial? rules.version line.code).map fun constant =>
      ⟨.simplifyInitializer, line.index, line.index, constant⟩ := by
  unfold initializerAt? newInitial?
  cases Code.declaration? line.code with
  | none => rfl
  | some declaration =>
    simp only [Option.bind_eq_bind, Option.bind_some]
    cases declaration.initial with
    | none => rfl
    | some initial =>
      simp only [Option.bind_some]
      split_ifs
      · rfl
      · cases constantOf? rules.version declaration.type with
        | none => rfl
        | some constant =>
          simp only [Option.bind_some]
          split_ifs <;> rfl

/-- What is asked of a line that opens a block, and of the line `last` that closes it. -/
structure OpensBlock (rules : Rules) (lines : List Text) (line : OutlineLine) (last : Nat) : Prop where
  listed : line ∈ Outline.ofLines lines
  inFunction : line.inFunction = true
  opens : endsWith line.code ['{'] = true
  header : Code.isBlockHeader line.code = true
  closes : Outline.blockEnd? (Outline.ofLines lines) line.index = some last
  noElse : startsWith (Outline.nextCode (Outline.ofLines lines) last) "else".toList = false
  spares : rules.reduceEverywhere = false → ∀ other ∈ ((Outline.ofLines lines).take (last + 1)).drop line.index,
    Code.writesOutput (Code.outputs lines) other.code = false

/-- What is asked of a line that holds a statement. -/
structure HoldsStatement (rules : Rules) (lines : List Text) (line : OutlineLine) : Prop where
  listed : line ∈ Outline.ofLines lines
  inFunction : line.inFunction = true
  ends : endsWith (trim line.code) [';'] = true
  noLoop : startsWith (trim line.code) "for".toList = false
  starts : Outline.startsStatement (Outline.ofLines lines) line.index = true
  noElse : startsWith (Outline.nextCode (Outline.ofLines lines) line.index) "else".toList = false
  spares : rules.reduceEverywhere = false → startsWith (trim line.code) "return".toList = false ∧
    Code.writesOutput (Code.outputs lines) (trim line.code) = false
  unused : ∀ declaration, Code.declaration? line.code = some declaration →
    usedElsewhere (Outline.ofLines lines) line.index declaration.name = false

/-- What is asked of a line that declares a name. -/
structure DeclaresName (outputs : List Text) (line : OutlineLine) (name : Text) : Prop where
  inFunction : line.inFunction = true
  declared : ∃ declaration, Code.declaration? line.code = some declaration ∧ declaration.name = name
  notOutput : name ∉ outputs
  notKeyword : name ∉ Code.keywords
  notBuiltin : startsWith name "gl_".toList = false
  notFresh : Code.isFreshName name = false
  notSelector : Code.isSelector name = false

/-- Where an opportunity comes from: one case for each kind. -/
inductive Origin (rules : Rules) (lines : List Text) : Opportunity → Prop
  | blank {index : Nat} {line : Text} : lines[index]? = some line → isBlankOrComment line = true →
      Origin rules lines ⟨.removeBlankOrComment, index, index, []⟩
  | block {line : OutlineLine} {last : Nat} : OpensBlock rules lines line last →
      Origin rules lines ⟨.removeBlock, line.index, last, []⟩
  | statement {line : OutlineLine} : HoldsStatement rules lines line →
      Origin rules lines ⟨.removeStatement, line.index, line.index, []⟩
  | initializer {line : OutlineLine} {constant : Text} : line ∈ Outline.ofLines lines →
      newInitial? rules.version line.code = some constant →
      Origin rules lines ⟨.simplifyInitializer, line.index, line.index, constant⟩
  | name {line : OutlineLine} {name : Text} : line ∈ Outline.ofLines lines →
      DeclaresName (Code.outputs lines) line name →
      Origin rules lines ⟨.renameIdentifier, line.index, line.index, name⟩

variable {rules : Rules} {lines : List Text} {opportunity : Opportunity} {line : OutlineLine}

private theorem origin_of_blankLines (member : opportunity ∈ blankLines lines) : Origin rules lines opportunity := by
  obtain ⟨⟨line, index⟩, listed, found⟩ := List.mem_filterMap.mp member
  dsimp only at found
  split_ifs at found with blank
  cases found
  exact .blank (List.mem_zipIdx_iff_getElem?.mp listed) blank

private theorem origin_of_blockAt? (listed : line ∈ Outline.ofLines lines)
    (found : blockAt? rules (Code.outputs lines) (Outline.ofLines lines) line = some opportunity) :
    Origin rules lines opportunity := by
  unfold blockAt? at found
  split_ifs at found with shape
  split at found
  · cases found
  · rename_i last closes
    dsimp only at found
    split_ifs at found with alternative writes
    cases found
    simp only [Bool.and_eq_true] at shape
    refine .block ⟨listed, shape.1.1, shape.1.2, shape.2, closes, Bool.not_eq_true _ ▸ alternative, fun protects => ?_⟩
    simpa only [protects, Bool.not_false, Bool.true_and, Bool.not_eq_true, List.any_eq_false] using writes

private theorem origin_of_statementAt? (listed : line ∈ Outline.ofLines lines)
    (found : statementAt? rules (Code.outputs lines) (Outline.ofLines lines) line = some opportunity) :
    Origin rules lines opportunity := by
  unfold statementAt? at found
  dsimp only at found
  split_ifs at found with shape joined touched used
  cases found
  simp only [Bool.or_eq_true, Bool.not_eq_true', not_or, Bool.not_eq_false, Bool.not_eq_true] at shape joined
  refine .statement ⟨listed, shape.1.1, shape.1.2, shape.2, joined.1, joined.2, fun protects => ?_, ?_⟩
  · simpa only [protects, Bool.not_false, Bool.and_true, Bool.or_eq_true, not_or, Bool.not_eq_true] using touched
  · intro declaration declared
    simpa only [declared, Option.any_some, Bool.not_eq_true] using used

private theorem declaresName_of_renamableAt? {outputs : List Text} {name : Text}
    (found : renamableAt? outputs line = some name) : DeclaresName outputs line name := by
  unfold renamableAt? at found
  split_ifs at found with outside
  obtain ⟨declaration, declared, found⟩ := Option.bind_eq_some_iff.mp found
  dsimp only at found
  split_ifs at found with spared
  cases found
  simp only [Bool.or_eq_true, not_or, List.contains_iff_mem, Bool.not_eq_true] at spared
  obtain ⟨⟨⟨⟨notOutput, notKeyword⟩, notBuiltin⟩, notFresh⟩, notSelector⟩ := spared
  exact ⟨by simpa using outside, ⟨declaration, declared, rfl⟩, notOutput, notKeyword, notBuiltin, notFresh, notSelector⟩

theorem exists_of_mem_renames {outputs : List Text} {outline : List OutlineLine} {seen : List Text}
    (member : opportunity ∈ renames outputs outline seen) :
    ∃ line ∈ outline, ∃ name, renamableAt? outputs line = some name ∧
      opportunity = ⟨.renameIdentifier, line.index, line.index, name⟩ := by
  fun_induction renames outputs outline seen with
  | case1 => cases member
  | case2 line rest seen none ih | case3 line rest seen name found again ih =>
    obtain ⟨other, inside, told⟩ := ih member
    exact ⟨other, List.mem_cons_of_mem line inside, told⟩
  | case4 line rest seen name found new ih =>
    rcases List.mem_cons.mp member with rfl | later
    · exact ⟨line, List.mem_cons_self, name, found, rfl⟩
    · obtain ⟨other, inside, told⟩ := ih later
      exact ⟨other, List.mem_cons_of_mem line inside, told⟩

/-- Every opportunity of a shader comes from the search for its kind. -/
theorem origin_of_mem {shader : Shader} (member : opportunity ∈ shader.opportunities rules) :
    Origin rules shader.lines opportunity := by
  unfold Shader.opportunities ofLines at member
  simp only [List.mem_append, List.mem_filterMap, or_assoc] at member
  rcases member with blank | ⟨line, listed, block⟩ | ⟨line, listed, statement⟩ | ⟨line, listed, initializer⟩ | name
  · exact origin_of_blankLines blank
  · exact origin_of_blockAt? listed block
  · exact origin_of_statementAt? listed statement
  · rw [initializerAt?_eq] at initializer
    obtain ⟨constant, offered, rfl⟩ := Option.map_eq_some_iff.mp initializer
    exact .initializer listed offered
  · obtain ⟨line, listed, name, renamable, rfl⟩ := exists_of_mem_renames name
    exact .name listed (declaresName_of_renamableAt? renamable)

end ShaderShrink.Opportunity
