import ShaderShrink.Proofs.Shader.Declaration
import ShaderShrink.Proofs.Shader.Nesting

/-!
# Lines without code

A line that is blank, or holds nothing but a comment behind two slashes, opens and closes no block, declares no output and
is no code that comes next.  Without it the outline of a shader has the same lines in the same order, and those behind it
have moved up by one.
-/

namespace ShaderShrink

open Text

/-- Where a line is found once the line `gone` has gone. -/
def placeWithout (gone index : Nat) : Nat := if gone < index then index - 1 else index

theorem placeWithout_le_iff {gone a b : Nat} (other : b ≠ gone) : placeWithout gone a ≤ placeWithout gone b ↔ a ≤ b := by
  unfold placeWithout
  split_ifs <;> omega

theorem placeWithout_inj {gone a b : Nat} (first : a ≠ gone) (second : b ≠ gone) :
    placeWithout gone a = placeWithout gone b ↔ a = b := by
  unfold placeWithout
  split_ifs <;> omega

/-- Another item is found where it has moved to. -/
theorem getElem?_eraseIdx_placeWithout {α : Type} (items : List α) {gone index : Nat} (other : index ≠ gone) :
    (items.eraseIdx gone)[placeWithout gone index]? = items[index]? := by
  rw [List.getElem?_eraseIdx, placeWithout]
  split_ifs
  · omega
  · rw [Nat.sub_add_cancel (by omega)]
  · rfl
  · omega

/-- Two items may go in either order. -/
theorem eraseIdx_placeWithout {α : Type} (items : List α) (a b : Nat) :
    (items.eraseIdx a).eraseIdx (placeWithout a b) = (items.eraseIdx b).eraseIdx (placeWithout b a) := by
  apply List.ext_getElem?
  intro i
  simp only [List.getElem?_eraseIdx, placeWithout]
  split_ifs <;> first | rfl | omega

/-- Without one of them, items keep their order, and those behind it move up. -/
theorem zipIdx_eraseIdx {α : Type} (items : List α) (start gone : Nat) :
    (items.eraseIdx gone).zipIdx start =
      ((items.zipIdx start).filter fun item => item.2 != start + gone).map fun item =>
        (item.1, placeWithout (start + gone) item.2) := by
  induction items generalizing start gone with
  | nil => rfl
  | cons item rest ih =>
    rw [List.zipIdx_cons]
    cases gone with
    | zero =>
      have behind : ∀ other ∈ rest.zipIdx (start + 1), (other.2 != start + 0) = true := by
        intro other member
        have later := List.le_snd_of_mem_zipIdx member
        simp only [bne_iff_ne, ne_eq]
        omega
      have moved : ∀ other ∈ rest.zipIdx start, (other.1, placeWithout (start + 0) (other.2 + 1)) = other := by
        intro other member
        have later := List.le_snd_of_mem_zipIdx member
        rw [placeWithout, if_pos (by omega), Nat.add_sub_cancel]
      rw [List.filter_cons_of_neg (by simp), List.filter_eq_self.mpr behind, List.eraseIdx_cons_zero, List.zipIdx_succ,
        List.map_map]
      exact (List.map_id _).symm.trans (List.map_congr_left fun other member => (moved other member).symm)
    | succ gone =>
      have front : placeWithout (start + (gone + 1)) start = start := if_neg (by omega)
      rw [List.filter_cons_of_pos (by simp), List.map_cons, front, List.eraseIdx_cons_succ, List.zipIdx_cons, ih,
        show start + 1 + gone = start + (gone + 1) by omega]

namespace OutlineLine

/-- A line of the outline, once the line `gone` has gone. -/
def without (gone : Nat) (line : OutlineLine) : OutlineLine := { line with index := placeWithout gone line.index }

@[simp] theorem without_index (gone : Nat) (line : OutlineLine) : (line.without gone).index = placeWithout gone line.index := rfl

@[simp] theorem without_code (gone : Nat) (line : OutlineLine) : (line.without gone).code = line.code := rfl

@[simp] theorem without_depth (gone : Nat) (line : OutlineLine) : (line.without gone).depth = line.depth := rfl

@[simp] theorem without_inFunction (gone : Nat) (line : OutlineLine) :
    (line.without gone).inFunction = line.inFunction := rfl

end OutlineLine

namespace Outline

/-- Whether a line is blank or holds nothing but a comment behind two slashes. -/
def isBare (line : Text) : Bool := blank line || startsWith (trimLeft line) "//".toList

section Bare

variable {line : Text} (bare : isBare line = true)

include bare

/-- A bare line is white space, perhaps with two slashes behind it and anything behind these. -/
theorem exists_of_isBare : ∃ blanks rest, (∀ c ∈ blanks, isBlank c = true) ∧ line = blanks ++ rest ∧
    (rest = [] ∨ ∃ comment, rest = '/' :: '/' :: comment) := by
  rcases Bool.or_eq_true_iff.mp bare with empty | comment
  · exact ⟨line, [], List.all_eq_true.mp empty, (List.append_nil line).symm, .inl rfl⟩
  · obtain ⟨blanks, white, whole⟩ := exists_trimLeft line
    obtain ⟨rest, same⟩ := List.isPrefixOf_iff_prefix.mp comment
    exact ⟨blanks, trimLeft line, white, whole, .inr ⟨rest, same.symm⟩⟩

theorem ofLine_of_isBare : Code.ofLine line = [] := by
  obtain ⟨blanks, rest, white, rfl, shape⟩ := exists_of_isBare bare
  have slashless : '/' ∉ blanks := fun member => absurd (white _ member) (by decide)
  have none : Code.beforeComment rest = [] := by
    rcases shape with rfl | ⟨comment, rfl⟩ <;> rfl
  rw [Code.ofLine, Code.beforeComment_append slashless, none, List.append_nil]
  exact trimRight_append (t := []) white rfl

theorem afterLine_of_isBare (nesting : Nesting) : nesting.afterLine line = nesting := by
  unfold Nesting.afterLine
  rw [ofLine_of_isBare bare]
  rfl

theorem declaredOutput?_of_isBare : Code.declaredOutput? line = none := by
  obtain ⟨blanks, rest, white, rfl, shape⟩ := exists_of_isBare bare
  have stop : rest.head?.any isBlank = false := by
    rcases shape with rfl | ⟨comment, rfl⟩ <;> rfl
  rw [Code.declaredOutput?, trimLeft_append white stop]
  rcases shape with rfl | ⟨comment, rfl⟩ <;> rfl

end Bare

/-! ## The outline without a bare line -/

theorem le_index_of_mem_linesFrom {index : Nat} {nesting : Nesting} {lines : List Text} {line : OutlineLine}
    (member : line ∈ linesFrom index nesting lines) : index ≤ line.index := by
  obtain ⟨i, found⟩ := List.mem_iff_getElem?.mp member
  have placed := (linesFrom_getElem? found).1
  omega

/-- From another place on, lines have the same outline but for their places. -/
theorem linesFrom_succ (index : Nat) (nesting : Nesting) (lines : List Text) :
    linesFrom (index + 1) nesting lines =
      (linesFrom index nesting lines).map fun line => { line with index := line.index + 1 } := by
  induction lines generalizing index nesting with
  | nil => rfl
  | cons text rest ih => rw [linesFrom, ih, linesFrom, List.map_cons]

/-- Behind a line that has gone, lines are where they were before. -/
theorem linesFrom_without (index : Nat) (nesting : Nesting) (lines : List Text) :
    (linesFrom (index + 1) nesting lines).map (·.without index) = linesFrom index nesting lines := by
  rw [linesFrom_succ, List.map_map]
  refine (List.map_congr_left fun line member => ?_).trans (List.map_id _)
  have later := le_index_of_mem_linesFrom member
  simp [OutlineLine.without, placeWithout, Nat.lt_succ_of_le later]

/-- The outline without a bare line. -/
theorem linesFrom_eraseIdx {lines : List Text} {gone : Nat} {line : Text} (here : lines[gone]? = some line)
    (bare : isBare line = true) (index : Nat) (nesting : Nesting) :
    linesFrom index nesting (lines.eraseIdx gone) =
      ((linesFrom index nesting lines).filter fun line => line.index != index + gone).map (·.without (index + gone)) := by
  induction lines generalizing gone index nesting with
  | nil => cases here
  | cons text rest ih =>
    rw [linesFrom]
    cases gone with
    | zero =>
      cases here
      have behind : ∀ other ∈ linesFrom (index + 1) nesting rest, (other.index != index + 0) = true := by
        intro other member
        have later := le_index_of_mem_linesFrom member
        simp only [bne_iff_ne, ne_eq]
        omega
      rw [List.filter_cons_of_neg (by simp), afterLine_of_isBare bare, List.filter_eq_self.mpr behind,
        List.eraseIdx_cons_zero, Nat.add_zero, linesFrom_without]
    | succ gone =>
      have front : placeWithout (index + (gone + 1)) index = index := if_neg (by omega)
      rw [List.filter_cons_of_pos (by simp), List.map_cons, List.eraseIdx_cons_succ, linesFrom, ih here,
        show index + 1 + gone = index + (gone + 1) by omega, OutlineLine.without, front]

/-! ## What is said of a line without a bare one -/

/-- The code of some lines, as far as they have any. -/
def codes (lines : List Text) : List Text :=
  (lines.map fun line => trim (Code.ofLine line)).filter fun code => !code.isEmpty

theorem codes_append (a b : List Text) : codes (a ++ b) = codes a ++ codes b := by
  rw [codes, List.map_append, List.filter_append, codes, codes]

theorem codes_cons_of_isBare {line : Text} (bare : isBare line = true) (lines : List Text) :
    codes (line :: lines) = codes lines := by
  rw [codes, List.map_cons, ofLine_of_isBare bare]
  rfl

theorem nextCode_eq_codes (lines : List Text) (index : Nat) :
    nextCode (ofLines lines) index = (codes (lines.drop (index + 1))).head?.getD [] := by
  rw [nextCode_eq, firstCode, codes, List.head?_filter]

theorem startsStatement_eq_codes (lines : List Text) (index : Nat) :
    startsStatement (ofLines lines) index = (codes (lines.take index)).getLast?.all fun code =>
      code.getLast?.any fun c => c == ';' || c == '{' || c == '}' := by
  have same : ((ofLines lines).take index).reverse.map (fun line => trim line.code) =
      ((lines.take index).map fun line => trim (Code.ofLine line)).reverse := by
    have codes := map_code_linesFrom 0 .start lines
    rw [List.map_reverse, List.map_take, List.map_take,
      show (fun line : OutlineLine => trim line.code) = trim ∘ OutlineLine.code from rfl, ← List.map_map, ofLines, codes,
      List.map_map]
    rfl
  rw [startsStatement, same, codes, ← List.head?_reverse, ← List.filter_reverse, List.head?_filter]

section Without

variable {lines : List Text} {gone index : Nat} {line : Text} (here : lines[gone]? = some line)

include here

theorem exists_split : ∃ front back, lines = front ++ line :: back ∧ lines.eraseIdx gone = front ++ back ∧
    front.length = gone := by
  obtain ⟨inside, rfl⟩ := List.getElem?_eq_some_iff.mp here
  refine ⟨lines.take gone, lines.drop (gone + 1), ?_, List.eraseIdx_eq_take_drop_succ .., List.length_take_of_le inside.le⟩
  rw [← List.drop_eq_getElem_cons inside, List.take_append_drop]

variable (bare : isBare line = true)

include bare

/-- The outline without a bare line. -/
theorem ofLines_eraseIdx : ofLines (lines.eraseIdx gone) =
    ((ofLines lines).filter fun line => line.index != gone).map (·.without gone) := by
  have whole := linesFrom_eraseIdx here bare 0 .start
  rwa [Nat.zero_add] at whole

theorem outputs_eraseIdx : Code.outputs (lines.eraseIdx gone) = Code.outputs lines := by
  obtain ⟨front, back, whole, without, -⟩ := exists_split here
  rw [without, whole, Code.outputs, Code.outputs, List.filterMap_append, List.filterMap_append,
    List.filterMap_cons_none (declaredOutput?_of_isBare bare)]

/-- The code in front of any other line is the same. -/
theorem codes_take_eraseIdx (other : index ≠ gone) :
    codes ((lines.eraseIdx gone).take (placeWithout gone index)) = codes (lines.take index) := by
  obtain ⟨front, back, whole, without, size⟩ := exists_split here
  rw [without, whole, placeWithout]
  split_ifs with behind
  · obtain ⟨k, rfl⟩ : ∃ k, index = front.length + 1 + k := ⟨index - (front.length + 1), by omega⟩
    rw [show front.length + 1 + k - 1 = front.length + k by omega, List.take_length_add_append, codes_append, Nat.add_assoc,
      List.take_length_add_append, codes_append, Nat.add_comm 1 k, List.take_succ_cons, codes_cons_of_isBare bare]
  · rw [List.take_append_of_le_length (by omega), List.take_append_of_le_length (by omega)]

/-- The code behind any other line is the same. -/
theorem codes_drop_eraseIdx (other : index ≠ gone) :
    codes ((lines.eraseIdx gone).drop (placeWithout gone index + 1)) = codes (lines.drop (index + 1)) := by
  obtain ⟨front, back, whole, without, size⟩ := exists_split here
  rw [without, whole, placeWithout]
  split_ifs with behind
  · obtain ⟨k, rfl⟩ : ∃ k, index = front.length + 1 + k := ⟨index - (front.length + 1), by omega⟩
    rw [show front.length + 1 + k - 1 + 1 = front.length + (k + 1) by omega, List.drop_length_add_append,
      show front.length + 1 + k + 1 = front.length + (k + 1 + 1) by omega, List.drop_length_add_append, List.drop_succ_cons]
  · rw [List.drop_append_of_le_length (by omega), List.drop_append_of_le_length (by omega), codes_append, codes_append,
      codes_cons_of_isBare bare]

theorem nextCode_eraseIdx (other : index ≠ gone) :
    nextCode (ofLines (lines.eraseIdx gone)) (placeWithout gone index) = nextCode (ofLines lines) index := by
  rw [nextCode_eq_codes, nextCode_eq_codes, codes_drop_eraseIdx here bare other]

theorem startsStatement_eraseIdx (other : index ≠ gone) :
    startsStatement (ofLines (lines.eraseIdx gone)) (placeWithout gone index) = startsStatement (ofLines lines) index := by
  rw [startsStatement_eq_codes, startsStatement_eq_codes, codes_take_eraseIdx here bare other]

end Without

/-! ### The end of a block -/

theorem closingLine?_map_succ (depth : Nat) (outline : List OutlineLine) :
    closingLine? depth (outline.map fun line => { line with index := line.index + 1 }) =
      (closingLine? depth outline).map (· + 1) := by
  induction outline with
  | nil => rfl
  | cons line rest ih =>
    rw [List.map_cons, closingLine?, closingLine?, ih]
    dsimp only
    split_ifs <;> rfl

/-- Nothing closes a block that is closed already. -/
theorem closingLine?_linesFrom_of_le {depth : Nat} {nesting : Nesting} (closed : nesting.depth ≤ depth) (index : Nat)
    (lines : List Text) : closingLine? depth (linesFrom index nesting lines) = none := by
  cases lines with
  | nil => rfl
  | cons text rest =>
    rw [linesFrom, closingLine?, if_neg, if_pos closed]
    simp [show nesting.depth ≠ depth + 1 by omega]

/-- Behind a line that has gone, blocks end where they did before. -/
theorem closingLine?_without {gone index : Nat} (behind : gone ≤ index) (depth : Nat) (nesting : Nesting) (lines : List Text) :
    closingLine? depth (linesFrom index nesting lines) =
      (closingLine? depth (linesFrom (index + 1) nesting lines)).map (placeWithout gone) := by
  rw [linesFrom_succ, closingLine?_map_succ, Option.map_map]
  cases found : closingLine? depth (linesFrom index nesting lines) with
  | none => rfl
  | some last =>
    obtain ⟨closing, member, rfl⟩ := closingLine?_some found
    have later := le_index_of_mem_linesFrom member
    simp [placeWithout, show gone < closing.index + 1 by omega]

theorem closingLine?_eraseIdx {lines : List Text} {gone : Nat} {line : Text} (here : lines[gone]? = some line)
    (bare : isBare line = true) (depth index : Nat) (nesting : Nesting) :
    closingLine? depth (linesFrom index nesting (lines.eraseIdx gone)) =
      (closingLine? depth (linesFrom index nesting lines)).map (placeWithout (index + gone)) := by
  induction lines generalizing gone index nesting with
  | nil => cases here
  | cons text rest ih =>
    cases gone with
    | zero =>
      cases here
      have code := ofLine_of_isBare bare
      rw [List.eraseIdx_cons_zero, linesFrom, closingLine?, code, if_neg (by simp [trim, trimLeft, trimRight]),
        afterLine_of_isBare bare]
      split_ifs with closed
      · exact closingLine?_linesFrom_of_le closed index rest
      · exact closingLine?_without (Nat.le_refl _) depth nesting rest
    | succ gone =>
      have front : placeWithout (index + (gone + 1)) index = index := if_neg (by omega)
      rw [List.eraseIdx_cons_succ, linesFrom, linesFrom, closingLine?, closingLine?, ih here,
        show index + 1 + gone = index + (gone + 1) by omega]
      dsimp only
      split_ifs
      · rw [Option.map_some, front]
      · rfl
      · rfl

theorem mem_stretch {lines : List Text} {first last : Nat} {line : OutlineLine} :
    line ∈ ((ofLines lines).take (last + 1)).drop first ↔ line ∈ ofLines lines ∧ first ≤ line.index ∧ line.index ≤ last := by
  constructor
  · intro member
    obtain ⟨i, found⟩ := List.mem_iff_getElem?.mp member
    rw [List.getElem?_drop, List.getElem?_take] at found
    split_ifs at found with inside
    have placed := (linesFrom_getElem? found).1
    exact ⟨List.mem_of_getElem? found, by omega, by omega⟩
  · rintro ⟨member, fromFirst, toLast⟩
    refine List.mem_iff_getElem?.mpr ⟨line.index - first, ?_⟩
    rw [List.getElem?_drop, List.getElem?_take, if_pos (by omega), show first + (line.index - first) = line.index by omega]
    exact (of_mem_ofLines member).1

section Without

variable {lines : List Text} {gone : Nat} {line : Text} (here : lines[gone]? = some line) (bare : isBare line = true)

include here bare

theorem code_of_mem {line : OutlineLine} (member : line ∈ ofLines lines) (same : line.index = gone) : line.code = [] := by
  obtain ⟨-, text, found, code⟩ := of_mem_ofLines member
  rw [same, here] at found
  cases found
  rw [code, ofLine_of_isBare bare]

theorem mem_ofLines_eraseIdx {line : OutlineLine} :
    line ∈ ofLines (lines.eraseIdx gone) ↔ ∃ other ∈ ofLines lines, other.index ≠ gone ∧ other.without gone = line := by
  rw [ofLines_eraseIdx here bare]
  simp only [List.mem_map, List.mem_filter, bne_iff_ne, and_assoc]

/-- A block ends on the same line as before. -/
theorem blockEnd?_eraseIdx {opening : OutlineLine} (member : opening ∈ ofLines lines) (other : opening.index ≠ gone) :
    blockEnd? (ofLines (lines.eraseIdx gone)) (placeWithout gone opening.index) =
      (blockEnd? (ofLines lines) opening.index).map (placeWithout gone) := by
  have opened := (of_mem_ofLines member).1
  have opened' := (of_mem_ofLines ((mem_ofLines_eraseIdx here bare).mpr ⟨opening, member, other, rfl⟩)).1
  rw [OutlineLine.without_index] at opened'
  obtain ⟨front, back, whole, without, rfl⟩ := exists_split here
  rw [blockEnd?, blockEnd?, opened, opened', Option.bind_some, Option.bind_some, OutlineLine.without_depth, ofLines_drop,
    ofLines_drop, without, whole, placeWithout]
  split_ifs with behind
  · obtain ⟨k, placed⟩ : ∃ k, opening.index = front.length + 1 + k := ⟨opening.index - (front.length + 1), by omega⟩
    have above : Nesting.start.afterLines (front ++ line :: back.take (k + 1)) =
        Nesting.start.afterLines (front ++ back.take (k + 1)) := by
      simp only [Nesting.afterLines, List.foldl_append, List.foldl_cons, afterLine_of_isBare bare]
    rw [placed, show front.length + 1 + k - 1 + 1 = front.length + (k + 1) by omega, List.drop_length_add_append,
      List.take_length_add_append, show front.length + 1 + k + 1 = front.length + (k + 1 + 1) by omega,
      List.drop_length_add_append, List.take_length_add_append, List.drop_succ_cons, List.take_succ_cons, above]
    exact closingLine?_without (by omega) _ _ _
  · have below : (front.drop (opening.index + 1) ++ line :: back)[front.length - (opening.index + 1)]? = some line := by
      rw [List.getElem?_append_right (by simp), List.length_drop, Nat.sub_self]
      rfl
    have rest : (front.drop (opening.index + 1) ++ line :: back).eraseIdx (front.length - (opening.index + 1)) =
        front.drop (opening.index + 1) ++ back := by
      rw [List.eraseIdx_append_of_length_le (by simp), List.length_drop, Nat.sub_self, List.eraseIdx_cons_zero]
    rw [List.drop_append_of_le_length (by omega), List.take_append_of_le_length (by omega),
      List.drop_append_of_le_length (by omega), List.take_append_of_le_length (by omega), ← rest,
      closingLine?_eraseIdx below bare, show opening.index + 1 + (front.length - (opening.index + 1)) = front.length by omega]

/-- Some line from `first` to `last` has code with a property exactly if one had before. -/
theorem any_stretch_eraseIdx {p : Text → Bool} (nothing : p [] = false) (first : Nat) {last : Nat}
    (ends : last ≠ gone) :
    (((ofLines (lines.eraseIdx gone)).take (placeWithout gone last + 1)).drop (placeWithout gone first)).any
        (fun line => p line.code) =
      (((ofLines lines).take (last + 1)).drop first).any fun line => p line.code := by
  rw [Bool.eq_iff_iff, List.any_eq_true, List.any_eq_true]
  simp only [mem_stretch, mem_ofLines_eraseIdx here bare]
  constructor
  · rintro ⟨-, ⟨⟨other, member, apart, rfl⟩, fromFirst, toLast⟩, holds⟩
    rw [OutlineLine.without_index, placeWithout_le_iff apart] at fromFirst
    rw [OutlineLine.without_index, placeWithout_le_iff ends] at toLast
    exact ⟨other, ⟨member, fromFirst, toLast⟩, holds⟩
  · rintro ⟨other, ⟨member, fromFirst, toLast⟩, holds⟩
    have apart : other.index ≠ gone := by
      intro same
      rw [code_of_mem here bare member same, nothing] at holds
      cases holds
    refine ⟨other.without gone, ⟨⟨other, member, apart, rfl⟩, ?_, ?_⟩, holds⟩
    · rwa [OutlineLine.without_index, placeWithout_le_iff apart]
    · rwa [OutlineLine.without_index, placeWithout_le_iff ends]

end Without

end Outline

end ShaderShrink
