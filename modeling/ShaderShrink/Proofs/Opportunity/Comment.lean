import ShaderShrink.Proofs.Opportunity.BareLine
import ShaderShrink.Proofs.Opportunity.Effort
import ShaderShrink.Proofs.Shader.Comment

/-!
# Comments that go

Each line is looked at alone when blank lines and comments are sought.  What goes leaves the code of the shader as it was, up
to white space, where the line has no part in a comment that reaches over several lines: where it does not end one that began
above it, and is none that is still open.
-/

namespace ShaderShrink

open Text Comment

namespace Opportunity

/-- What begins and ends with the delimiters of a block comment has them apart, but for one text in which they overlap. -/
theorem exists_comment {t rest : Text} (opens : "/*".toList ++ rest = t) (closes : "*/".toList <:+ t)
    (other : t ≠ "/*/".toList) : ∃ comment, t = '/' :: '*' :: (comment ++ "*/".toList) ∧
      (t.take (t.length - 2)).drop 2 = comment := by
  obtain ⟨front, split⟩ := closes
  subst opens
  rcases List.append_eq_append_iff.mp split with ⟨shared, begins, ends⟩ | ⟨comment, rfl, rfl⟩
  · -- The delimiters touch, or share their asterisk.
    have begins : ['/', '*'] = front ++ shared := begins
    have ends : ['*', '/'] = shared ++ rest := ends
    match shared, begins, ends with
    | [], _, ends =>
      cases ends
      exact ⟨[], rfl, rfl⟩
    | [c], _, ends =>
      cases ends
      exact absurd rfl other
    | c :: d :: more, begins, ends =>
      obtain ⟨rfl, rfl, nothing⟩ : '*' = c ∧ '/' = d ∧ [] = more ++ rest := by simpa using ends
      obtain rfl : more = [] := (List.append_eq_nil_iff.mp nothing.symm).1
      have last := congrArg List.getLast? begins
      simp at last
  · exact ⟨comment, rfl, by simp⟩

/-- A blank line or a comment says nothing, if no comment on it began above it or ends below it. -/
theorem silent_of_isBlankOrComment {mode : Mode} {line : Text} (found : isBlankOrComment line = true) (unbroken : Unbroken line)
    (begins : mode ≠ .line) (inside : mode = .block → hasPart "*/".toList line = false)
    (outside : mode = .code → trim line ≠ "/*/".toList) : Silent mode line := by
  cases mode with
  | line => exact absurd rfl begins
  | block => exact silent_block (inside rfl)
  | code =>
    obtain ⟨blanks, white, whole⟩ := exists_trimLeft line
    obtain ⟨blanks', white', whole'⟩ := exists_trimRight (trimLeft line)
    rw [← trim] at whole'
    rw [whole'] at whole
    unfold isBlankOrComment at found
    dsimp only at found
    split_ifs at found with directive
    simp only [Bool.or_eq_true, Bool.and_eq_true, startsWith, endsWith, List.isPrefixOf_iff_prefix] at found
    rcases found with (empty | ⟨comment, slashes⟩) | ⟨⟨⟨rest, opens⟩, closes⟩, single⟩
    · rw [List.isEmpty_iff.mp empty, List.nil_append] at whole
      rw [whole]
      refine silent_blank fun c member => ?_
      exact (List.mem_append.mp member).elim (white c) (white' c)
    · rw [← slashes] at whole
      have shape : line = blanks ++ '/' :: '/' :: (comment ++ blanks') := whole
      rw [shape]
      refine silent_lineComment white (unbroken.of_subset ?_)
      rw [shape]
      intro c member
      simp [List.mem_append.mp member]
    · obtain ⟨comment, shape, inner⟩ := exists_comment opens (List.reverse_prefix.mp closes) (outside rfl)
      rw [inner] at single
      rw [whole, shape]
      have split : blanks ++ ('/' :: '*' :: (comment ++ "*/".toList) ++ blanks') =
          blanks ++ '/' :: '*' :: (comment ++ '*' :: '/' :: blanks') := by simp
      rw [split]
      exact silent_blockComment white (by simpa using single) white'

/-- Taking a blank line or a comment away leaves the code of a shader as it is, up to white space, if that line neither ends a
comment that began above it nor consists of a comment that is still open, and no comment behind two slashes goes on behind
a line break that ends no line of the shading language. -/
theorem comment_removal_keeps_code {rules : Rules} {shader : Shader} {opportunity : Opportunity}
    (member : opportunity ∈ shader.opportunities rules) (kind : opportunity.kind = .removeBlankOrComment)
    (unbroken : Unbroken (lineComments shader.text))
    (apart : ∀ line, shader.lines[opportunity.first]? = some line →
      (below .code (shader.lines.take opportunity.first) = .block → hasPart "*/".toList line = false) ∧
      (below .code (shader.lines.take opportunity.first) = .code → trim line ≠ "/*/".toList))
    (context : Context) :
    ∃ candidate, opportunity.apply shader context = .ok (candidate, context) ∧
      pieces (codeOf candidate.text) = pieces (codeOf shader.text) := by
  cases origin_of_mem member with
  | @blank index line here blank =>
    obtain ⟨inside, outside⟩ := apart line here
    have silent := silent_of_isBlankOrComment blank (unbroken_of_mem_lines (List.mem_of_getElem? here))
      (below_ne_line (by decide) _) inside outside
    refine ⟨_, apply_removal here context, ?_⟩
    have comments : ∀ place ∈ marked .code shader.text, place.2 = .line → isLineBreak place.1 = false := by
      intro place member hidden
      exact unbroken _ (List.mem_map.mpr ⟨place, List.mem_filter.mpr ⟨member, by simpa using hidden⟩, rfl⟩)
    obtain ⟨front, back, split, without, size⟩ := Outline.exists_split here
    have above : shader.lines.take index = front := by rw [split, ← size, List.take_left]
    rw [above] at silent
    calc pieces (codeOf (unlines (shader.lines.eraseIdx index)))
        = pieces (codeFrom .code (unlines (front ++ back))) := by rw [without, codeOf]
      _ = pieces (codeFrom .code (unlines (front ++ line :: back))) := silent.pieces_eq.symm
      _ = pieces (codeOf shader.text) := by rw [← split, Shader.lines, pieces_lines comments, codeOf]
  | block | statement | initializer | name => cases kind

/-- A shader that says of its comments, in a comment, what they look like. -/
def commentOfComment : Shader :=
  ⟨"/*\n a // b\n*/\n/* /* */\nvoid main() \x7b\n\x7d\n".toList, [], .default⟩

/-- The comment on a line of its own goes, and the code stays. -/
theorem comment_removal_keeps_code_commentOfComment :
    ∃ candidate, (removal 3).apply commentOfComment (.create 0 ⟨false, .default⟩) =
        .ok (candidate, .create 0 ⟨false, .default⟩) ∧
      pieces (codeOf candidate.text) = ["void".toList, "main()".toList, ['\x7b'], ['\x7d']] := by
  have member : removal 3 ∈ commentOfComment.opportunities ⟨false, .default⟩ := by decide +kernel
  have unbroken : Unbroken (lineComments commentOfComment.text) := by decide +kernel
  have above : below .code (commentOfComment.lines.take 3) = .code := by decide +kernel
  have here : commentOfComment.lines[3]? = some "/* /* */".toList := by decide +kernel
  obtain ⟨candidate, applied, code⟩ := comment_removal_keeps_code member rfl unbroken (by
    intro line there
    obtain rfl := Option.some.inj (here.symm.trans there)
    exact ⟨fun inside => (nomatch above.symm.trans inside), fun _ => by decide +kernel⟩) (.create 0 ⟨false, .default⟩)
  refine ⟨candidate, applied, code.trans ?_⟩
  decide +kernel

/-- A line can look like a comment behind two slashes and end a block comment that began above it. -/
theorem comment_removal_changes_code_endOfComment :
    ∃ shader candidate : Shader, '\\' ∉ shader.text ∧ removal 1 ∈ shader.opportunities ⟨false, .default⟩ ∧
      (removal 1).apply shader (.create 0 ⟨false, .default⟩) = .ok (candidate, .create 0 ⟨false, .default⟩) ∧
      pieces (codeOf shader.text) = ["void".toList, "main()".toList, ['\x7b'], ['\x7d']] ∧
      pieces (codeOf candidate.text) = [] := by
  have here : (⟨"/*\n// */\nvoid main() \x7b\n\x7d\n".toList, [], .default⟩ : Shader).lines[1]? = some "// */".toList := by
    decide +kernel
  refine ⟨⟨"/*\n// */\nvoid main() \x7b\n\x7d\n".toList, [], .default⟩, _, ?_, ?_, apply_removal here _, ?_, ?_⟩ <;>
    decide +kernel

end Opportunity

end ShaderShrink
