import Mathlib.Tactic.SplitIfs
import ShaderShrink.Proofs.Shader.Outline
import ShaderShrink.Proofs.Text.Word

/-!
# Nesting

The number of blocks that are open in front of a line is decided by the braces of the lines above it, where lines that
begin with a number sign count for nothing.  A block that is found goes from the line with its header to the first line
back at the depth behind the header that holds nothing but the closing brace: every line in between lies deeper than
the header, and behind the block the depth is the one in front of it.
-/

namespace ShaderShrink.Outline

open ShaderShrink.Text

/-! ## Depth and braces -/

/-- Whether a character opens or closes a block. -/
def isBrace (c : Char) : Bool := c == '{' || c == '}'

/-- Whether a line begins with a number sign. -/
def isDirective (line : Text) : Bool := startsWith (trim (Code.ofLine line)) ['#']

/-- The braces of a line that count. -/
def bracesOf (line : Text) : Text := if isDirective line then [] else (Code.ofLine line).filter isBrace

/-- The braces of some lines that count. -/
def braces (lines : List Text) : Text := lines.flatMap bracesOf

/-- The number of open blocks behind a character. -/
def depthBehind (depth : Nat) (c : Char) : Nat := if c = '{' then depth + 1 else if c = '}' then depth - 1 else depth

/-- The nesting behind some lines. -/
def Nesting.afterLines (nesting : Nesting) (lines : List Text) : Nesting := lines.foldl Nesting.afterLine nesting

/-- The number of open blocks in front of a line. -/
def depthAt (lines : List Text) (index : Nat) : Nat := (Nesting.start.afterLines (lines.take index)).depth

@[simp] theorem braces_append (a b : List Text) : braces (a ++ b) = braces a ++ braces b := List.flatMap_append

theorem depth_afterChar (nesting : Nesting) (before : Text) (c : Char) :
    (nesting.afterChar before c).depth = depthBehind nesting.depth c := by
  unfold Nesting.afterChar depthBehind
  split_ifs with opens outermost closes
  · simp [outermost]
  · rfl
  · rfl
  · rfl

theorem depth_afterCode (nesting : Nesting) (reversed t : Text) :
    (nesting.afterCode reversed t).depth = (t.filter isBrace).foldl depthBehind nesting.depth := by
  induction t generalizing nesting reversed with
  | nil => rfl
  | cons c rest ih =>
    rw [Nesting.afterCode, ih, depth_afterChar, List.filter_cons]
    split_ifs with brace
    · rfl
    · simp only [isBrace, Bool.or_eq_true, beq_iff_eq, not_or] at brace
      rw [depthBehind, if_neg brace.1, if_neg brace.2]

/-- What counts of a line are its braces. -/
theorem depth_afterLine (nesting : Nesting) (line : Text) :
    (nesting.afterLine line).depth = (bracesOf line).foldl depthBehind nesting.depth := by
  unfold Nesting.afterLine bracesOf isDirective
  dsimp only
  split_ifs with directive
  · rfl
  · exact depth_afterCode nesting [] _
  · exact depth_afterCode nesting [] _

theorem depth_afterLines (nesting : Nesting) (lines : List Text) :
    (nesting.afterLines lines).depth = (braces lines).foldl depthBehind nesting.depth := by
  induction lines generalizing nesting with
  | nil => rfl
  | cons line rest ih =>
    change ((nesting.afterLine line).afterLines rest).depth = (bracesOf line ++ braces rest).foldl depthBehind nesting.depth
    rw [ih, depth_afterLine, List.foldl_append]

/-- The depth in front of a line is that of the braces above it. -/
theorem depthAt_eq (lines : List Text) (index : Nat) :
    depthAt lines index = (braces (lines.take index)).foldl depthBehind 0 := depth_afterLines .start _

/-- Further lines go on from the depth that the ones above them lead to. -/
theorem depthAt_add (lines : List Text) (index count : Nat) :
    depthAt lines (index + count) = (braces ((lines.drop index).take count)).foldl depthBehind (depthAt lines index) := by
  rw [depthAt_eq, depthAt_eq, List.take_add, braces_append, List.foldl_append]

/-! ## The lines of an outline -/

/-- A line of the outline tells the nesting in front of it. -/
theorem linesFrom_getElem?_eq (index i : Nat) (nesting : Nesting) (lines : List Text) :
    (linesFrom index nesting lines)[i]? = lines[i]?.map fun line =>
      ⟨index + i, Code.ofLine line, (nesting.afterLines (lines.take i)).depth,
        decide (0 < (nesting.afterLines (lines.take i)).depth) && (nesting.afterLines (lines.take i)).outerIsFunction⟩ := by
  induction lines generalizing index i nesting with
  | nil => rfl
  | cons text rest ih =>
    cases i with
    | zero => rfl
    | succ i =>
      rw [linesFrom, List.getElem?_cons_succ, ih, List.getElem?_cons_succ, show index + 1 + i = index + (i + 1) by omega]
      rfl

/-- The outline of further lines goes on with the nesting behind those above them. -/
theorem linesFrom_append (index : Nat) (nesting : Nesting) (a b : List Text) :
    linesFrom index nesting (a ++ b) = linesFrom index nesting a ++ linesFrom (index + a.length) (nesting.afterLines a) b := by
  induction a generalizing index nesting with
  | nil => rfl
  | cons line rest ih =>
    rw [List.cons_append, linesFrom, ih, linesFrom, List.cons_append, List.length_cons, Nat.add_assoc, Nat.add_comm 1]
    rfl

theorem ofLines_take (lines : List Text) (index : Nat) : (ofLines lines).take index = ofLines (lines.take index) := by
  refine List.ext_getElem? fun i => ?_
  rw [List.getElem?_take, ofLines, linesFrom_getElem?_eq, ofLines, linesFrom_getElem?_eq, List.getElem?_take]
  split_ifs with within
  · rw [List.take_take, Nat.min_eq_left within.le]
  · rfl

theorem ofLines_drop (lines : List Text) (index : Nat) :
    (ofLines lines).drop index = linesFrom index (Nesting.start.afterLines (lines.take index)) (lines.drop index) := by
  refine List.ext_getElem? fun i => ?_
  rw [List.getElem?_drop, ofLines, linesFrom_getElem?_eq, linesFrom_getElem?_eq, List.getElem?_drop, Nat.zero_add]
  refine Option.map_congr fun text _ => ?_
  rw [List.take_add, Nesting.afterLines, List.foldl_append]
  rfl

/-- The depth that the outline tells of a line is the one in front of it. -/
theorem depth_of_mem_ofLines {lines : List Text} {line : OutlineLine} (member : line ∈ ofLines lines) :
    line.depth = depthAt lines line.index := by
  obtain ⟨found, -⟩ := of_mem_ofLines member
  rw [ofLines, linesFrom_getElem?_eq] at found
  obtain ⟨text, -, same⟩ := Option.map_eq_some_iff.mp found
  exact (congrArg OutlineLine.depth same).symm

/-! ## Blocks -/

theorem isBrace_of_isWord {c : Char} (inside : isWord c = true) : isBrace c = false := by
  cases brace : isBrace c with
  | false => rfl
  | true =>
    simp only [isBrace, Bool.or_eq_true, beq_iff_eq] at brace
    rcases brace with rfl | rfl <;> exact absurd inside (by decide)

theorem isBrace_of_isBlank {c : Char} (white : isBlank c = true) : isBrace c = false := by
  cases brace : isBrace c with
  | false => rfl
  | true =>
    simp only [isBrace, Bool.or_eq_true, beq_iff_eq] at brace
    rcases brace with rfl | rfl <;> exact absurd white (by decide)

/-- White space around a text has no braces. -/
theorem filter_isBrace_trim (t : Text) : (trim t).filter isBrace = t.filter isBrace := by
  have none : ∀ {blanks : Text}, (∀ c ∈ blanks, isBlank c = true) → blanks.filter isBrace = [] := fun blank =>
    List.filter_eq_nil_iff.mpr fun c member => Bool.eq_false_iff.mp (isBrace_of_isBlank (blank c member))
  obtain ⟨front, white, whole⟩ := exists_trimLeft t
  obtain ⟨back, white', whole'⟩ := exists_trimRight (trimLeft t)
  conv_rhs => rw [whole, whole', List.filter_append, List.filter_append, none white, none white', List.nil_append, List.append_nil]
  rfl

/-- A line with nothing but a closing brace closes one block. -/
theorem bracesOf_closing {line : Text} (alone : trim (Code.ofLine line) = ['}']) : bracesOf line = ['}'] := by
  rw [bracesOf, isDirective, alone, if_neg (by decide), ← filter_isBrace_trim, alone]
  rfl

/-- The lines of a block: the first one has its header, and the last one closes it. -/
structure Block (lines : List Text) (first last : Nat) : Prop where
  before : first < last
  closes : ∃ closing, lines[last]? = some closing ∧ trim (Code.ofLine closing) = ['}']
  deeper : ∀ index, first < index → index ≤ last → depthAt lines first < depthAt lines index
  level : depthAt lines (last + 1) = depthAt lines first

theorem closingLine?_spec {depth last : Nat} {outline : List OutlineLine} (found : closingLine? depth outline = some last) :
    ∃ front closing back, outline = front ++ closing :: back ∧ closing.index = last ∧ closing.depth = depth + 1 ∧
      trim closing.code = ['}'] ∧ ∀ line ∈ front, depth < line.depth := by
  induction outline with
  | nil => cases found
  | cons line rest ih =>
    rw [closingLine?] at found
    split_ifs at found with closes leaves
    · cases found
      simp only [Bool.and_eq_true, decide_eq_true_eq, beq_iff_eq] at closes
      exact ⟨[], line, rest, rfl, rfl, closes.1, closes.2, fun _ member => (List.not_mem_nil member).elim⟩
    · obtain ⟨front, closing, back, rfl, placed, deeper, brace, inside⟩ := ih found
      refine ⟨line :: front, closing, back, rfl, placed, deeper, brace, fun other member => ?_⟩
      rcases List.mem_cons.mp member with rfl | later
      · exact Nat.lt_of_not_le leaves
      · exact inside other later

/-- What is found as the end of a block closes it. -/
theorem block_of_blockEnd? {lines : List Text} {first last : Nat} (found : blockEnd? (ofLines lines) first = some last) :
    Block lines first last := by
  obtain ⟨opening, here, found⟩ := Option.bind_eq_some_iff.mp found
  obtain ⟨front, closing, back, split, placed, deeper, brace, inside⟩ := closingLine?_spec found
  have place : ∀ i, (ofLines lines)[first + 1 + i]? = (front ++ closing :: back)[i]? := fun i => by
    rw [← split, List.getElem?_drop]
  have depth : ∀ {i : Nat} {line : OutlineLine}, (ofLines lines)[i]? = some line → line.depth = depthAt lines i := by
    intro i line there
    have index := (linesFrom_getElem? there).1
    rw [depth_of_mem_ofLines (List.mem_of_getElem? there), index, Nat.zero_add]
  have atClosing : (ofLines lines)[first + 1 + front.length]? = some closing := by
    rw [place, List.getElem?_append_right (Nat.le_refl _), Nat.sub_self]
    rfl
  obtain ⟨index, text, told, code⟩ := linesFrom_getElem? atClosing
  obtain rfl : last = first + 1 + front.length := by omega
  rw [code] at brace
  have opened := depth here
  have closed := depth atClosing
  refine ⟨by omega, ⟨text, told, brace⟩, fun i after upTo => ?_, ?_⟩
  · obtain ⟨j, rfl⟩ : ∃ j, i = first + 1 + j := ⟨i - (first + 1), by omega⟩
    rcases Nat.lt_or_eq_of_le (show j ≤ front.length by omega) with among | rfl
    · have listed : (ofLines lines)[first + 1 + j]? = some front[j] := by
        rw [place, List.getElem?_append_left among, List.getElem?_eq_getElem among]
      rw [← opened, ← depth listed]
      exact inside _ (List.getElem_mem among)
    · omega
  · have next : (lines.drop (first + 1 + front.length)).take 1 = [text] := by
      rw [List.take_one, List.head?_drop, told]
      rfl
    rw [depthAt_add, next, ← closed, deeper, ← opened, show braces [text] = bracesOf text ++ [] from rfl,
      bracesOf_closing brace]
    rfl

end ShaderShrink.Outline
