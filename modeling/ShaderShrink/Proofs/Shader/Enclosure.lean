import Mathlib.Data.List.Infix
import ShaderShrink.Proofs.Shader.Nesting

/-!
# Blocks inside of blocks

Two blocks of a shader lie apart, or one of them lies inside of the other.  The scan leaves a block as deep as it came to
it, so without the block the other lines lie as deep as before.  Whether they lie in a function can change, but only if
the block closes the function it lies in and opens another block in the middle of a line: if it does not, then the scan
goes on without the block as it did with it, since the code in front of a brace matters outside of all blocks alone.
-/

namespace ShaderShrink

open Text

/-- The code of a line and its depth. -/
def OutlineLine.level (line : OutlineLine) : Text × Nat := (line.code, line.depth)

/-- All that the outline says of a line but for its place. -/
def OutlineLine.standing (line : OutlineLine) : Text × Nat × Bool := (line.code, line.depth, line.inFunction)

namespace Outline

/-! ## Two blocks -/

section Two

variable {lines : List Text} {first last first' last' : Nat}

/-- A block that begins in another one ends in it. -/
theorem Block.last_lt (outer : Block lines first last) (inner : Block lines first' last') (later : first < first')
    (within : first' ≤ last) : last' < last := by
  have deeper : depthAt lines first < depthAt lines first' := outer.deeper first' later within
  rcases Nat.lt_trichotomy last' last with before | same | behind
  · exact before
  · have level := inner.level
    rw [same, outer.level] at level
    omega
  · have still : depthAt lines first' < depthAt lines (last + 1) := inner.deeper (last + 1) (by omega) (by omega)
    rw [outer.level] at still
    omega

/-- Two blocks that begin on different lines lie apart, or one of them lies inside of the other. -/
theorem Block.apart_or_inside (block : Block lines first last) (other : Block lines first' last') (differ : first ≠ first') :
    (last < first' ∨ last' < first) ∨ (first < first' ∧ last' < last) ∨ (first' < first ∧ last < last') := by
  rcases Nat.lt_or_gt_of_ne differ with before | behind
  · rcases Nat.lt_or_ge last first' with apart | within
    · exact .inl (.inl apart)
    · exact .inr (.inl ⟨before, block.last_lt other before within⟩)
  · rcases Nat.lt_or_ge last' first with apart | within
    · exact .inl (.inr apart)
    · exact .inr (.inr ⟨behind, other.last_lt block behind within⟩)

end Two

/-! ## Scans that go on alike -/

/-- Whether two scans go on alike behind some code of a line, given backwards: outside of all blocks they have the same
header for the next one. -/
structure Nesting.AlikeBehind (reversed : Text) (a b : Nesting) : Prop where
  depth : a.depth = b.depth
  outer : a.outerIsFunction = b.outerIsFunction
  header : 0 < a.depth ∨ a.lastCode = b.lastCode ∨ trim reversed.reverse ≠ []

namespace Nesting.AlikeBehind

variable {reversed : Text} {a b : Nesting}

theorem afterChar (alike : AlikeBehind reversed a b) (c : Char) :
    AlikeBehind (c :: reversed) (a.afterChar reversed.reverse c) (b.afterChar reversed.reverse c) := by
  have depth : (a.afterChar reversed.reverse c).depth = (b.afterChar reversed.reverse c).depth := by
    rw [depth_afterChar, depth_afterChar, alike.depth]
  have visible : isBlank c = false → trim (c :: reversed).reverse ≠ [] := fun black empty =>
    absurd ((trim_eq_nil_iff _).mp empty c (List.mem_reverse.mpr List.mem_cons_self)) (by simp [black])
  have stays : trim reversed.reverse ≠ [] → trim (c :: reversed).reverse ≠ [] := fun filled empty =>
    filled ((trim_eq_nil_iff _).mpr fun other member =>
      (trim_eq_nil_iff _).mp empty other (by simp only [List.reverse_cons, List.mem_append, member, true_or]))
  refine ⟨depth, ?_, ?_⟩
  · unfold Nesting.afterChar
    rw [← alike.depth]
    split_ifs with opens outermost closes
    · -- The code in front of the brace is the header, or the last code if there is none in front of it.
      by_cases empty : trim reversed.reverse = []
      · have lastCode : a.lastCode = b.lastCode := by
          rcases alike.header with inside | same | filled
          · omega
          · exact same
          · exact absurd empty filled
        simp only [empty, lastCode]
      · simp only [List.isEmpty_iff, empty, if_false]
    · exact alike.outer
    · exact alike.outer
    · exact alike.outer
  · by_cases opens : c = '{'
    · refine .inl ?_
      rw [depth_afterChar, depthBehind, if_pos opens]
      omega
    · by_cases closes : c = '}'
      · exact .inr (.inr (visible (by rw [closes]; decide)))
      · simp only [Nesting.afterChar, if_neg opens, if_neg closes]
        exact alike.header.imp_right (Or.imp_right stays)

theorem afterCode (alike : AlikeBehind reversed a b) (t : Text) :
    AlikeBehind (t.reverse ++ reversed) (a.afterCode reversed t) (b.afterCode reversed t) := by
  induction t generalizing reversed a b with
  | nil => exact alike
  | cons c rest ih =>
    rw [List.reverse_cons, List.append_assoc]
    exact ih (alike.afterChar c)

theorem afterLine (alike : AlikeBehind [] a b) (line : Text) : AlikeBehind [] (a.afterLine line) (b.afterLine line) := by
  have behind := alike.afterCode (Code.ofLine line)
  unfold Nesting.afterLine
  dsimp only
  split_ifs with directive blank
  · exact alike
  · refine ⟨behind.depth, behind.outer, behind.header.imp_right (Or.imp_right fun filled => ?_)⟩
    rw [List.append_nil, List.reverse_reverse] at filled
    exact absurd (List.isEmpty_iff.mp blank) filled
  · exact ⟨behind.depth, behind.outer, .inr (.inl rfl)⟩

/-- Lines have the same standing for scans that go on alike. -/
theorem standing_linesFrom (alike : AlikeBehind [] a b) (i j : Nat) (lines : List Text) :
    (linesFrom i a lines).map OutlineLine.standing = (linesFrom j b lines).map OutlineLine.standing := by
  induction lines generalizing i j a b with
  | nil => rfl
  | cons line rest ih =>
    rw [linesFrom, linesFrom, List.map_cons, List.map_cons, ih (alike.afterLine line) (i + 1) (j + 1)]
    simp only [OutlineLine.standing, alike.depth, alike.outer]

end Nesting.AlikeBehind

/-- Lines have the same level for scans of the same depth. -/
theorem level_linesFrom {a b : Nesting} (depth : a.depth = b.depth) (i j : Nat) (lines : List Text) :
    (linesFrom i a lines).map OutlineLine.level = (linesFrom j b lines).map OutlineLine.level := by
  induction lines generalizing i j a b with
  | nil => rfl
  | cons line rest ih =>
    have next : (a.afterLine line).depth = (b.afterLine line).depth := by rw [depth_afterLine, depth_afterLine, depth]
    rw [linesFrom, linesFrom, List.map_cons, List.map_cons, ih next (i + 1) (j + 1)]
    simp only [OutlineLine.level, depth]

/-! ## Stretches that leave a block open -/

/-- Whether some braces, with `depth` blocks open in front of them, leave one open at every place. -/
def StaysOpen (depth : Nat) (t : Text) : Prop := ∀ front, front <+: t → 0 < front.foldl depthBehind depth

instance (depth : Nat) (t : Text) : Decidable (StaysOpen depth t) :=
  decidable_of_iff (∀ front ∈ t.inits, 0 < front.foldl depthBehind depth) (by simp only [List.mem_inits, StaysOpen])

namespace StaysOpen

variable {depth : Nat} {a b : Text}

theorem pos (stays : StaysOpen depth a) : 0 < depth := stays [] List.nil_prefix

theorem left (stays : StaysOpen depth (a ++ b)) : StaysOpen depth a := fun front begins =>
  stays front (begins.trans (List.prefix_append a b))

theorem right (stays : StaysOpen depth (a ++ b)) : StaysOpen (a.foldl depthBehind depth) b := by
  intro front begins
  rw [← List.foldl_append]
  exact stays (a ++ front) ((List.prefix_append_right_inj a).mpr begins)

end StaysOpen

theorem outer_afterCode {nesting : Nesting} {reversed t : Text} (stays : StaysOpen nesting.depth (t.filter isBrace)) :
    (nesting.afterCode reversed t).outerIsFunction = nesting.outerIsFunction := by
  induction t generalizing nesting reversed with
  | nil => rfl
  | cons c rest ih =>
    have isOpen : nesting.depth ≠ 0 := Nat.ne_of_gt stays.pos
    have same : (nesting.afterChar reversed.reverse c).outerIsFunction = nesting.outerIsFunction := by
      unfold Nesting.afterChar
      split_ifs <;> rfl
    refine (ih ?_).trans same
    rw [depth_afterChar]
    rw [List.filter_cons] at stays
    split_ifs at stays with brace
    · exact stays.right (a := [c])
    · simp only [isBrace, Bool.or_eq_true, beq_iff_eq, not_or] at brace
      rwa [depthBehind, if_neg brace.1, if_neg brace.2]

theorem outer_afterLine {nesting : Nesting} {line : Text} (stays : StaysOpen nesting.depth (bracesOf line)) :
    (nesting.afterLine line).outerIsFunction = nesting.outerIsFunction := by
  unfold bracesOf isDirective at stays
  unfold Nesting.afterLine
  dsimp only
  split_ifs with directive blank
  · rfl
  · exact outer_afterCode (by rwa [if_neg directive] at stays)
  · exact outer_afterCode (by rwa [if_neg directive] at stays)

/-- The block open outermost stays the same as long as it is open. -/
theorem outer_afterLines {nesting : Nesting} {lines : List Text} (stays : StaysOpen nesting.depth (braces lines)) :
    (nesting.afterLines lines).outerIsFunction = nesting.outerIsFunction := by
  induction lines generalizing nesting with
  | nil => rfl
  | cons line rest ih =>
    have split : StaysOpen nesting.depth (bracesOf line ++ braces rest) := stays
    have behind : StaysOpen (nesting.afterLine line).depth (braces rest) := by
      rw [depth_afterLine]
      exact split.right
    exact (ih behind).trans (outer_afterLine split.left)

/-! ## The outline without a block -/

section Without

variable {lines : List Text} {first last : Nat} (block : Block lines first last)

include block

/-- Without a block the other lines have the same code and the same depth, in the same order. -/
theorem Block.level_without : (ofLines (lines.take first ++ lines.drop (last + 1))).map OutlineLine.level =
    ((ofLines lines).take first ++ (ofLines lines).drop (last + 1)).map OutlineLine.level := by
  rw [ofLines_take, ofLines_drop, ofLines, linesFrom_append, List.map_append, List.map_append, ← ofLines]
  exact congrArg _ (level_linesFrom block.level.symm _ _ _)

/-- If a block leaves the function open that it lies in, the other lines also lie in a function where they did before. -/
theorem Block.standing_without
    (stays : StaysOpen (depthAt lines first) (braces ((lines.drop first).take (last + 1 - first)))) :
    (ofLines (lines.take first ++ lines.drop (last + 1))).map OutlineLine.standing =
      ((ofLines lines).take first ++ (ofLines lines).drop (last + 1)).map OutlineLine.standing := by
  have through : Nesting.start.afterLines (lines.take (last + 1)) =
      (Nesting.start.afterLines (lines.take first)).afterLines ((lines.drop first).take (last + 1 - first)) := by
    have ordered := block.before
    rw [Nesting.afterLines, Nesting.afterLines, Nesting.afterLines, ← List.foldl_append, ← List.take_add]
    congr 2
    omega
  have alike : Nesting.AlikeBehind [] (Nesting.start.afterLines (lines.take first))
      (Nesting.start.afterLines (lines.take (last + 1))) := by
    refine ⟨block.level.symm, ?_, .inl stays.pos⟩
    rw [through]
    exact (outer_afterLines stays).symm
  rw [ofLines_take, ofLines_drop, ofLines, linesFrom_append, List.map_append, List.map_append, ← ofLines]
  exact congrArg _ (alike.standing_linesFrom _ _ _)

end Without

end Outline

end ShaderShrink
