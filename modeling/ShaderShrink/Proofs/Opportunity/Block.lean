import ShaderShrink.Proofs.Opportunity.Writes
import ShaderShrink.Proofs.Shader.Nesting

/-!
# Blocks that go

A block goes as a whole, from the line with its header to the line with the brace that closes it, and no `else` is left
without its `if`.  Every other line lies as deep as before, and is followed by the same code as before, but for the last
line with code in front of the block: it is followed by what came behind the block.  If that line is itself the header
of a condition or a loop, as where the brace has a line of its own, the header gets that code for a body.
-/

namespace ShaderShrink

open Text Outline

namespace Code

/-- Whether a line of code is the header of a condition, a loop or an alternative whose body is still to come. -/
def isOpenHeader (code : Text) : Bool :=
  isBlockHeader code && !startsWith (trimLeft code) ['{'] && !code.getLast?.any fun c => c == ';' || c == '{' || c == '}'

/-- An open header is code. -/
theorem hasCode_of_isOpenHeader {line : Text} (isOpen : isOpenHeader (ofLine line) = true) : hasCode line = true := by
  by_contra blank
  have nothing : trim (ofLine line) = [] := by simpa [hasCode] using blank
  have begins : trimLeft (ofLine line) = [] := List.dropWhile_eq_nil_iff.mpr ((trim_eq_nil_iff _).mp nothing)
  have noHeader : isBlockHeader (ofLine line) = false := by
    rw [isBlockHeader, begins]
    decide
  simp [isOpenHeader, noHeader] at isOpen

end Code

namespace Outline

/-- Whether a line is the last one with code in front of another line. -/
structure LastCode (lines : List Text) (index first : Nat) : Prop where
  before : index < first
  filled : ∃ line, lines[index]? = some line ∧ hasCode line = true
  bare : ∀ between line, index < between → between < first → lines[between]? = some line → hasCode line = false

/-! ## Lines without a stretch of them -/

section Stretch

variable {lines : List Text} {first last index : Nat}

/-- What comes behind a line in front of the stretch. -/
theorem drop_in_front (before : index < first) (inside : first ≤ lines.length) (rest : List Text) :
    (lines.take first ++ rest).drop (index + 1) = (lines.take first).drop (index + 1) ++ rest := by
  rw [List.drop_append_of_le_length]
  rw [List.length_take]
  omega

/-- What comes behind a line behind the stretch. -/
theorem drop_behind (ordered : first ≤ last) (inside : last < lines.length) (behind : last < index) :
    (lines.take first ++ lines.drop (last + 1)).drop (index - (last + 1 - first) + 1) = lines.drop (index + 1) := by
  have size : (lines.take first).length = first := by
    rw [List.length_take]
    omega
  rw [List.drop_append, size, List.drop_eq_nil_of_le (by omega), List.nil_append, List.drop_drop]
  congr 1
  omega

/-- Without a block, every other line lies as deep as before. -/
theorem Block.depthAt_without (block : Block lines first last) (inside : last < lines.length)
    (outside : index < first ∨ last < index) :
    depthAt (lines.take first ++ lines.drop (last + 1)) (if index < first then index else index - (last + 1 - first)) =
      depthAt lines index := by
  have ordered := block.before
  have size : (lines.take first).length = first := by
    rw [List.length_take]
    omega
  have front : ∀ i ≤ first, depthAt (lines.take first ++ lines.drop (last + 1)) i = depthAt lines i := by
    intro i upTo
    rw [depthAt_eq, depthAt_eq, List.take_append_of_le_length (by omega), List.take_take, Nat.min_eq_left upTo]
  split_ifs with before
  · exact front index (Nat.le_of_lt before)
  · obtain ⟨count, rfl⟩ : ∃ count, index = last + 1 + count := ⟨index - (last + 1), by omega⟩
    rw [show last + 1 + count - (last + 1 - first) = first + count by omega, depthAt_add, depthAt_add lines (last + 1),
      block.level, front first (Nat.le_refl _), List.drop_left' size]

/-- The last line with code in front of the stretch is followed by what comes behind it. -/
theorem LastCode.nextCode_eq (lastCode : LastCode lines index first) (inside : first ≤ lines.length) :
    nextCode (ofLines (lines.take first ++ lines.drop (last + 1))) index = nextCode (ofLines lines) last := by
  rw [Outline.nextCode_eq, Outline.nextCode_eq, drop_in_front lastCode.before inside, firstCode_append_of_blank]
  intro line member
  obtain ⟨i, here⟩ := List.mem_iff_getElem?.mp member
  rw [List.getElem?_drop, List.getElem?_take] at here
  split_ifs at here with within
  exact lastCode.bare _ line (by omega) within here

/-- Every other line with code is followed by the same code as before. -/
theorem nextCode_without (ordered : first ≤ last) (inside : last < lines.length) (outside : index < first ∨ last < index)
    {line : Text} (here : lines[index]? = some line) (filled : hasCode line = true) (other : ¬ LastCode lines index first) :
    nextCode (ofLines (lines.take first ++ lines.drop (last + 1)))
        (if index < first then index else index - (last + 1 - first)) = nextCode (ofLines lines) index := by
  rw [nextCode_eq, nextCode_eq]
  split_ifs with before
  · have whole : lines.drop (index + 1) = (lines.take first).drop (index + 1) ++ lines.drop first := by
      rw [← drop_in_front before (by omega), List.take_append_drop]
    -- Some line between this one and the stretch has code, and that comes next with and without the stretch.
    have between : ∃ line ∈ (lines.take first).drop (index + 1), hasCode line = true := by
      by_contra none
      refine other ⟨before, ⟨line, here, filled⟩, fun i text after within there => ?_⟩
      by_contra code
      refine none ⟨text, List.mem_iff_getElem?.mpr ⟨i - (index + 1), ?_⟩, by simpa using code⟩
      rw [List.getElem?_drop, show index + 1 + (i - (index + 1)) = i by omega, List.getElem?_take_of_lt within, there]
    rw [drop_in_front before (by omega), whole, firstCode_append_of_hasCode between, firstCode_append_of_hasCode between]
  · rw [drop_behind ordered inside (by omega)]

end Stretch

end Outline

/-- A shader without the block that an opportunity names. -/
structure Shader.WithoutBlock (shader : Shader) (block : Opportunity) (candidate : Shader) : Prop where
  lines : candidate.lines = shader.lines.take block.first ++ shader.lines.drop (block.last + 1)
  header : ∃ line, shader.lines[block.first]? = some line ∧ Code.isBlockHeader (Code.ofLine line) = true ∧
    endsWith (Code.ofLine line) ['{'] = true
  whole : Block shader.lines block.first block.last
  noElse : startsWith (nextCode (ofLines shader.lines) block.last) "else".toList = false
  depth : ∀ index, index < block.first ∨ block.last < index →
    depthAt candidate.lines (block.placeAfter index) = depthAt shader.lines index
  joins : ∀ index, LastCode shader.lines index block.first →
    nextCode (ofLines candidate.lines) index = nextCode (ofLines shader.lines) block.last
  follows : ∀ index line, index < block.first ∨ block.last < index → shader.lines[index]? = some line →
    hasCode line = true → ¬ LastCode shader.lines index block.first →
    nextCode (ofLines candidate.lines) (block.placeAfter index) = nextCode (ofLines shader.lines) index

/-- Whether every open header outside of a block keeps the code that is its body. -/
def Shader.KeepsBodies (shader : Shader) (block : Opportunity) (candidate : Shader) : Prop :=
  ∀ index line, index < block.first ∨ block.last < index → shader.lines[index]? = some line →
    Code.isOpenHeader (Code.ofLine line) = true →
    nextCode (ofLines candidate.lines) (block.placeAfter index) = nextCode (ofLines shader.lines) index

/-- If no open header stands right in front of a block, the open headers keep their bodies. -/
theorem Shader.WithoutBlock.keepsBodies {shader candidate : Shader} {block : Opportunity}
    (without : shader.WithoutBlock block candidate)
    (closed : ∀ index line, LastCode shader.lines index block.first → shader.lines[index]? = some line →
      Code.isOpenHeader (Code.ofLine line) = false) : shader.KeepsBodies block candidate := by
  intro index line outside here isOpen
  refine without.follows index line outside here (Code.hasCode_of_isOpenHeader isOpen) fun last => ?_
  rw [closed index line last here] at isOpen
  cases isOpen

namespace Opportunity

/-- A block goes as a whole, and only the code right in front of it is followed by other code than before, so that no
header loses its body but one that stands right in front of the block. -/
theorem remove_block_whole {rules : Rules} {shader : Shader} {opportunity : Opportunity}
    (member : opportunity ∈ shader.opportunities rules) (kind : opportunity.kind = .removeBlock) (context : Context) :
    ∃ candidate, opportunity.apply shader context = .ok (candidate, context) ∧
      shader.WithoutBlock opportunity candidate ∧
      ((∀ index line, LastCode shader.lines index opportunity.first → shader.lines[index]? = some line →
        Code.isOpenHeader (Code.ofLine line) = false) → shader.KeepsBodies opportunity candidate) := by
  obtain ⟨lines, context', applied, change⟩ := exists_change member context
  have lines_eq := change.lines_eq
  cases origin_of_mem member with
  | @block line last opens =>
    cases change
    have whole := block_of_blockEnd? opens.closes
    have inside := (blockEnd?_some opens.closes).2
    have ordered := Nat.le_of_lt whole.before
    obtain ⟨-, text, here, code⟩ := of_mem_ofLines opens.listed
    have without : shader.WithoutBlock ⟨.removeBlock, line.index, last, []⟩ (shader.withLines _) := {
      lines := lines_eq
      header := ⟨text, here, code ▸ opens.header, code ▸ opens.opens⟩
      whole
      noElse := opens.noElse
      depth := fun index outside => by
        rw [lines_eq]
        exact whole.depthAt_without inside outside
      joins := fun index lastCode => by
        rw [lines_eq]
        exact lastCode.nextCode_eq (List.getElem?_eq_some_iff.mp here).1.le
      follows := fun index line outside there filled other => by
        rw [lines_eq]
        exact nextCode_without ordered inside outside there filled other }
    exact ⟨_, applied, without, without.keepsBodies⟩
  | blank | statement | initializer | name => cases kind

/-- A shader in which the brace of a condition has a line of its own. -/
def braceBelow : Shader :=
  ⟨"void main() \x7b\n  if (x)\n  \x7b\n    y;\n  \x7d\n  z;\n\x7d\n".toList, [], .default⟩

/-- The condition stays behind and gets the next statement for a body. -/
theorem remove_block_whole_braceBelow :
    ∃ candidate, (⟨.removeBlock, 2, 4, []⟩ : Opportunity).apply braceBelow (.create 0 ⟨false, .default⟩) =
        .ok (candidate, .create 0 ⟨false, .default⟩) ∧
      nextCode (Outline.ofLines braceBelow.lines) 1 = ['{'] ∧ nextCode (Outline.ofLines candidate.lines) 1 = "z;".toList := by
  have member : ⟨.removeBlock, 2, 4, []⟩ ∈ braceBelow.opportunities ⟨false, .default⟩ := by decide +kernel
  obtain ⟨candidate, applied, without, -⟩ := remove_block_whole member rfl (.create 0 ⟨false, .default⟩)
  have condition : LastCode braceBelow.lines 1 2 :=
    ⟨by decide, ⟨"  if (x)".toList, by decide +kernel, by decide +kernel⟩, fun between _ _ _ => by omega⟩
  have behind : nextCode (Outline.ofLines braceBelow.lines) 4 = "z;".toList := by decide +kernel
  exact ⟨candidate, applied, by decide +kernel, (without.joins 1 condition).trans behind⟩

end Opportunity

end ShaderShrink
