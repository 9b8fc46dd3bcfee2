import ShaderShrink.Proofs.Opportunity.Writes
import ShaderShrink.Proofs.Shader.Enclosure

/-!
# Blocks that can go, and what they leave

The blocks that can go from a shader lie apart, or one inside of the other, so that no two of them overlap in part.
Without one of them the scan tells the other lines the depth that it told them before, whether the braces of the shader
match or not.
-/

namespace ShaderShrink

open Outline

namespace Opportunity

/-- Whether two opportunities have no line in common. -/
def Separate (a b : Opportunity) : Prop := a.last < b.first ∨ b.last < a.first

/-- Whether an opportunity begins behind the first line of another one and ends in front of its last line. -/
def Inside (inner outer : Opportunity) : Prop := outer.first < inner.first ∧ inner.last < outer.last

/-- The lines of an outline that an opportunity does not take away. -/
def spared (opportunity : Opportunity) (outline : List OutlineLine) : List OutlineLine :=
  outline.take opportunity.first ++ outline.drop (opportunity.last + 1)

/-- Whether some block is open at every place in the lines of an opportunity. -/
def KeepsOpen (opportunity : Opportunity) (lines : List Text) : Prop :=
  StaysOpen (depthAt lines opportunity.first)
    (braces ((lines.drop opportunity.first).take (opportunity.last + 1 - opportunity.first)))

/-- What is found as a block is one. -/
theorem block_of_mem {rules : Rules} {shader : Shader} {opportunity : Opportunity}
    (member : opportunity ∈ shader.opportunities rules) (kind : opportunity.kind = .removeBlock) :
    Block shader.lines opportunity.first opportunity.last := by
  cases origin_of_mem member with
  | block opens => exact block_of_blockEnd? opens.closes
  | blank | statement | initializer | name => cases kind

/-- A block ends behind the line that it begins on.  Without it the scan tells all other lines the depth that it told them
before, and if some block is open at every place in it, also whether they lie in a function.  Any other block of the
shader lies apart from it, inside of it, or around it. -/
theorem remove_block_keeps_nesting {rules : Rules} {shader : Shader} {block : Opportunity}
    (member : block ∈ shader.opportunities rules) (kind : block.kind = .removeBlock) :
    block.first < block.last ∧
      (∀ context, ∃ candidate, block.apply shader context = .ok (candidate, context) ∧
        (Outline.ofLines candidate.lines).map OutlineLine.level = (block.spared (Outline.ofLines shader.lines)).map OutlineLine.level ∧
        (block.KeepsOpen shader.lines →
          (Outline.ofLines candidate.lines).map OutlineLine.standing =
            (block.spared (Outline.ofLines shader.lines)).map OutlineLine.standing)) ∧
      ∀ (rules' : Rules) (other : Opportunity), other ∈ shader.opportunities rules' → other.kind = .removeBlock →
        other.first ≠ block.first → block.Separate other ∨ block.Inside other ∨ other.Inside block := by
  have whole := block_of_mem member kind
  refine ⟨whole.before, fun context => ?_, fun rules' other member' kind' differ => ?_⟩
  · obtain ⟨lines, context', applied, change⟩ := exists_change member context
    have lines_eq := change.lines_eq
    cases change with
    | removed dispensable ordered inside =>
      refine ⟨_, applied, ?_, fun stays => ?_⟩
      · rw [lines_eq]
        exact whole.level_without
      · rw [lines_eq]
        exact whole.standing_without stays
    | simplified | renamed => cases kind
  · rcases whole.apart_or_inside (block_of_mem member' kind') differ.symm with apart | around | within
    · exact .inl apart
    · exact .inr (.inr around)
    · exact .inr (.inl within)

/-- A shader with a loop in the first of two alternatives that share a line. -/
def loopInAlternative : Shader :=
  ⟨"void main() \x7b\n  if (a) \x7b\n    for (;;) \x7b\n      x;\n    \x7d\n  \x7d else \x7b\n    y;\n  \x7d\n  z;\n\x7d\n".toList,
    [], .default⟩

/-- Both alternatives go as one block, and the loop as a block inside of it; without the loop the lines behind it are as
deep as before. -/
theorem remove_block_keeps_nesting_loopInAlternative :
    ∃ candidate, (⟨.removeBlock, 2, 4, []⟩ : Opportunity).apply loopInAlternative (.create 0 ⟨false, .default⟩) =
        .ok (candidate, .create 0 ⟨false, .default⟩) ∧
      (Outline.ofLines candidate.lines).map OutlineLine.standing =
        [("void main() \x7b".toList, 0, false), ("  if (a) \x7b".toList, 1, true), ("  \x7d else \x7b".toList, 2, true),
          ("    y;".toList, 2, true), ("  \x7d".toList, 2, true), ("  z;".toList, 1, true), ("\x7d".toList, 1, true)] ∧
      (⟨.removeBlock, 2, 4, []⟩ : Opportunity).Inside ⟨.removeBlock, 1, 7, []⟩ := by
  have loop : ⟨.removeBlock, 2, 4, []⟩ ∈ loopInAlternative.opportunities ⟨false, .default⟩ := by decide
  have whole : ⟨.removeBlock, 1, 7, []⟩ ∈ loopInAlternative.opportunities ⟨false, .default⟩ := by decide
  obtain ⟨-, goes, others⟩ := remove_block_keeps_nesting loop rfl
  obtain ⟨candidate, applied, -, standing⟩ := goes (.create 0 ⟨false, .default⟩)
  have stays : (⟨.removeBlock, 2, 4, []⟩ : Opportunity).KeepsOpen loopInAlternative.lines := by
    unfold KeepsOpen
    decide
  refine ⟨candidate, applied, (standing stays).trans (by decide), ?_⟩
  rcases others _ _ whole rfl (by decide) with apart | inside | around
  · exact absurd apart (by unfold Separate; decide)
  · exact inside
  · exact absurd around (by unfold Inside; decide)

end Opportunity

end ShaderShrink
