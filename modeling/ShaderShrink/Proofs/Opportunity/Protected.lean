import ShaderShrink.Proofs.Opportunity.Catalogue
import ShaderShrink.Proofs.Shader.Assignment

/-!
# Protected assignments

Unless everything may be reduced, what assigns to a declared output stays: it goes neither on its own nor with a block.
Two forms of the shading language are not protected.  The declaration of an output is overlooked if it has a precision, and
so is an assignment if its operator shifts.
-/

namespace ShaderShrink.Opportunity

open Code (OutputDeclaration Assignment AssignmentOperator)

variable {rules : Rules} {shader : Shader}

/-- No statement and no block goes that has a line which writes an output. -/
theorem outside_of_writesOutput (protects : rules.reduceEverywhere = false) {index : Nat} {line : Text}
    (here : shader.lines[index]? = some line)
    (writes : Code.writesOutput (Code.outputs shader.lines) (Code.ofLine line) = true) :
    ∀ opportunity ∈ shader.opportunities rules, opportunity.kind = .removeStatement ∨ opportunity.kind = .removeBlock →
      index < opportunity.first ∨ opportunity.last < index := by
  intro opportunity member kind
  by_contra inside
  obtain ⟨fromFirst, toLast⟩ : opportunity.first ≤ index ∧ index ≤ opportunity.last := by omega
  cases found_of_mem member with
  | removal dispensable =>
    cases dispensable with
    | blank => rcases kind with kind | kind <;> cases kind
    | code _ _ writeless =>
      rw [writeless protects index line fromFirst toLast here] at writes
      cases writes
  | initializer | name => rcases kind with kind | kind <;> cases kind

/-- The declaration of an output is recognised exactly if it has no precision.  Then no line that assigns to that output with
an operator that does not shift is part of a statement or a block that can go, unless everything may be reduced. -/
theorem declared_output_protected (protects : rules.reduceEverywhere = false) {declaration name : Text}
    {precision : Option Text} (listed : declaration ∈ shader.lines) (declares : OutputDeclaration name precision declaration)
    {index : Nat} {line : Text} {operator : AssignmentOperator} (here : shader.lines[index]? = some line)
    (assigns : Assignment name operator (Code.ofLine line)) :
    Code.declaredOutput? declaration = (if precision = none then some name else none) ∧
      (precision = none → operator.shifts = false →
        ∀ opportunity ∈ shader.opportunities rules,
          opportunity.kind = .removeStatement ∨ opportunity.kind = .removeBlock →
          index < opportunity.first ∨ opportunity.last < index) := by
  have recognised := declares.declaredOutput?_eq
  refine ⟨recognised, ?_⟩
  rintro rfl noShift
  have output : name ∈ Code.outputs shader.lines :=
    List.mem_append_right _ (List.mem_filterMap.mpr ⟨declaration, listed, recognised⟩)
  exact outside_of_writesOutput protects here (assigns.writesOutput noShift output)

/-- A shader that assigns to a part of an output in a block. -/
def outputInBlock : Shader :=
  ⟨"layout(location = 0) out vec4 color;\nvoid main() \x7b\n  if (x) \x7b\n    color.xy[0] += 1.0;\n  \x7d\n\x7d\n".toList,
    [], .default⟩

/-- The assignment and the block could go, but stay. -/
theorem declared_output_protected_outputInBlock :
    (⟨.removeStatement, 3, 3, []⟩ ∈ outputInBlock.opportunities ⟨true, .default⟩ ∧
      ⟨.removeBlock, 2, 4, []⟩ ∈ outputInBlock.opportunities ⟨true, .default⟩) ∧
    ⟨.removeStatement, 3, 3, []⟩ ∉ outputInBlock.opportunities ⟨false, .default⟩ ∧
      ⟨.removeBlock, 2, 4, []⟩ ∉ outputInBlock.opportunities ⟨false, .default⟩ := by
  have white : Code.White [' '] := List.all_eq_true.mp (by decide)
  have nothing : Code.White [] := List.forall_mem_nil _
  have indented : Code.White "    ".toList := List.all_eq_true.mp (by decide)
  have front : Code.LayoutFront ("layout".toList ++ '(' :: ("location = 0".toList ++ [')', ' '])) :=
    @Code.LayoutFront.layout [] [] _ [' '] nothing nothing (by decide) white
  have declares : OutputDeclaration "color".toList none "layout(location = 0) out vec4 color;".toList :=
    @OutputDeclaration.mk _ _ _ [' '] _ "vec4".toList [' '] [] [] front (by decide) white .none (by decide) (by decide) white
      (by decide) nothing
  have selects : Code.Selector ".xy[0]".toList :=
    @Code.Selector.field "xy".toList _ (by decide) (@Code.Selector.element ['0'] _ (by simp) .whole)
  have assigns : Assignment "color".toList .add (Code.ofLine "    color.xy[0] += 1.0;".toList) :=
    @Assignment.mk _ _ "    ".toList _ [' '] " 1.0;".toList indented selects white (by decide)
  have here : outputInBlock.lines[3]? = some "    color.xy[0] += 1.0;".toList := by decide +kernel
  have listed : "layout(location = 0) out vec4 color;".toList ∈ outputInBlock.lines := by decide +kernel
  have protects : (⟨false, .default⟩ : Rules).reduceEverywhere = false := rfl
  have stays := (declared_output_protected protects listed declares here assigns).2 rfl rfl
  refine ⟨by decide +kernel, fun found => ?_, fun found => ?_⟩
  · exact absurd (stays _ found (.inl rfl)) (by decide)
  · exact absurd (stays _ found (.inr rfl)) (by decide)

end ShaderShrink.Opportunity
