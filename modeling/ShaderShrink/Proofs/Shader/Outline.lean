import Mathlib.Data.List.Basic
import ShaderShrink.Shader.Outline

/-!
# Lines of an outline

The outline of a shader has one line for each of its lines, in the same order.  The first one lies outside of
all blocks.  The code that comes next behind a line is the first code of the lines below it.
-/

namespace ShaderShrink.Outline

theorem linesFrom_getElem? {index i : Nat} {nesting : Nesting} {lines : List Text} {line : OutlineLine}
    (found : (linesFrom index nesting lines)[i]? = some line) :
    line.index = index + i ∧ ∃ text, lines[i]? = some text ∧ line.code = Code.ofLine text := by
  induction lines generalizing index i nesting with
  | nil => cases found
  | cons text rest ih =>
    cases i with
    | zero =>
      cases found
      exact ⟨rfl, text, rfl, rfl⟩
    | succ i =>
      obtain ⟨placed, whole⟩ := ih found
      exact ⟨by omega, whole⟩

theorem length_linesFrom (index : Nat) (nesting : Nesting) (lines : List Text) :
    (linesFrom index nesting lines).length = lines.length := by
  induction lines generalizing index nesting with
  | nil => rfl
  | cons text rest ih => rw [linesFrom, List.length_cons, ih, List.length_cons]

theorem length_ofLines (lines : List Text) : (ofLines lines).length = lines.length := length_linesFrom 0 .start lines

/-- A line of the outline tells about the line of the shader that it stands for. -/
theorem of_mem_ofLines {lines : List Text} {line : OutlineLine} (member : line ∈ ofLines lines) :
    (ofLines lines)[line.index]? = some line ∧ ∃ text, lines[line.index]? = some text ∧ line.code = Code.ofLine text := by
  obtain ⟨i, found⟩ := List.mem_iff_getElem?.mp member
  obtain ⟨placed, told⟩ := linesFrom_getElem? found
  obtain rfl : line.index = i := by omega
  exact ⟨found, told⟩

/-- Each line of a shader has its line in the outline. -/
theorem exists_of_getElem? {lines : List Text} {index : Nat} {text : Text} (found : lines[index]? = some text) :
    ∃ line ∈ ofLines lines, line.index = index ∧ line.code = Code.ofLine text := by
  have inside : index < (ofLines lines).length := by
    rw [length_ofLines]
    exact (List.getElem?_eq_some_iff.mp found).1
  obtain ⟨placed, text', found', code⟩ := linesFrom_getElem? (List.getElem?_eq_getElem inside)
  rw [found] at found'
  cases found'
  exact ⟨_, List.getElem_mem inside, by omega, code⟩

/-- The lines of an outline are in the order of their indices. -/
theorem pairwise_ofLines (lines : List Text) : (ofLines lines).Pairwise fun a b => a.index < b.index := by
  rw [List.pairwise_iff_getElem]
  intro i j insideI insideJ before
  have placedI := (linesFrom_getElem? (List.getElem?_eq_getElem insideI)).1
  have placedJ := (linesFrom_getElem? (List.getElem?_eq_getElem insideJ)).1
  simp only [ofLines] at placedI placedJ ⊢
  omega

/-- The first line lies in no function. -/
theorem pos_of_inFunction {lines : List Text} {line : OutlineLine} (member : line ∈ ofLines lines)
    (inside : line.inFunction = true) : 0 < line.index := by
  obtain ⟨found, -⟩ := of_mem_ofLines member
  rcases Nat.eq_zero_or_pos line.index with first | later
  · rw [first] at found
    cases lines with
    | nil => cases found
    | cons text rest =>
      cases found
      cases inside
  · exact later

theorem closingLine?_some {depth last : Nat} {outline : List OutlineLine} (found : closingLine? depth outline = some last) :
    ∃ line ∈ outline, line.index = last := by
  induction outline with
  | nil => cases found
  | cons line rest ih =>
    rw [closingLine?] at found
    split_ifs at found
    · cases found
      exact ⟨line, List.mem_cons_self, rfl⟩
    · obtain ⟨other, member, placed⟩ := ih found
      exact ⟨other, List.mem_cons_of_mem line member, placed⟩

/-- A block ends on a later line. -/
theorem blockEnd?_some {lines : List Text} {index last : Nat} (found : blockEnd? (ofLines lines) index = some last) :
    index < last ∧ last < lines.length := by
  obtain ⟨line, -, found⟩ := Option.bind_eq_some_iff.mp found
  obtain ⟨other, member, rfl⟩ := closingLine?_some found
  obtain ⟨i, here⟩ := List.mem_iff_getElem?.mp member
  rw [List.getElem?_drop] at here
  obtain ⟨placed, text, told, -⟩ := linesFrom_getElem? here
  have inside := (List.getElem?_eq_some_iff.mp told).1
  omega

/-! ## What comes next -/

/-- Whether a line has code. -/
def hasCode (line : Text) : Bool := !(Text.trim (Code.ofLine line)).isEmpty

/-- The first code of some lines. -/
def firstCode (lines : List Text) : Text :=
  ((lines.map fun line => Text.trim (Code.ofLine line)).find? fun code => !code.isEmpty).getD []

theorem map_code_linesFrom (index : Nat) (nesting : Nesting) (lines : List Text) :
    (linesFrom index nesting lines).map (·.code) = lines.map Code.ofLine := by
  induction lines generalizing index nesting with
  | nil => rfl
  | cons text rest ih => rw [linesFrom, List.map_cons, ih, List.map_cons]

theorem nextCode_eq (lines : List Text) (index : Nat) :
    nextCode (ofLines lines) index = firstCode (lines.drop (index + 1)) := by
  have codes : (ofLines lines).map (Text.trim ∘ OutlineLine.code) = lines.map (Text.trim ∘ Code.ofLine) := by
    rw [← List.map_map, ofLines, map_code_linesFrom, List.map_map]
  change (((((ofLines lines).drop (index + 1)).map (Text.trim ∘ OutlineLine.code)).find? _).getD []) = _
  rw [List.map_drop, codes, ← List.map_drop]
  rfl

theorem firstCode_append_of_hasCode {a : List Text} (found : ∃ line ∈ a, hasCode line = true) (b : List Text) :
    firstCode (a ++ b) = firstCode a := by
  obtain ⟨line, member, filled⟩ := found
  have some : ((a.map fun line => Text.trim (Code.ofLine line)).find? fun code => !code.isEmpty).isSome = true :=
    List.find?_isSome.mpr ⟨_, List.mem_map_of_mem member, filled⟩
  rw [firstCode, List.map_append, List.find?_append, Option.or_of_isSome some, firstCode]

theorem firstCode_append_of_blank {a : List Text} (blank : ∀ line ∈ a, hasCode line = false) (b : List Text) :
    firstCode (a ++ b) = firstCode b := by
  have none : ((a.map fun line => Text.trim (Code.ofLine line)).find? fun code => !code.isEmpty) = none := by
    refine List.find?_eq_none.mpr fun code member filled => ?_
    obtain ⟨line, inside, rfl⟩ := List.mem_map.mp member
    exact Bool.eq_false_iff.mp (blank line inside) filled
  rw [firstCode, List.map_append, List.find?_append, none, Option.none_or, firstCode]

end ShaderShrink.Outline
