import ShaderShrink.Proofs.Opportunity.Effort

/-!
# Writes to outputs under change

Unless everything may be reduced, a line that writes an output outlives every change but one.  It is not among the
lines that are taken away; a constant goes elsewhere; and renaming goes through it without touching an output.  Only
the initial value on the line itself may be simplified, and what stands behind that value on the line goes with it.
-/

namespace ShaderShrink

open Text (replaceWord)

namespace Opportunity

/-- What becomes of a line that nobody may take away: it stays as it is, or a name on it that is no output becomes
another name. -/
inductive Spared (outputs : List Text) (line : Text) : Text → Prop
  | kept : Spared outputs line line
  | renamed {name new : Text} : name ∉ outputs → Spared outputs line (replaceWord name new line)

/-- Where a line is found that an opportunity does not take away. -/
def placeAfter (opportunity : Opportunity) (index : Nat) : Nat :=
  match opportunity.kind with
  | .removeBlankOrComment | .removeBlock | .removeStatement =>
    if index < opportunity.first then index else index - (opportunity.last + 1 - opportunity.first)
  | .simplifyInitializer | .renameIdentifier => index

/-- Lines outside of a stretch that is taken away move up behind it. -/
theorem getElem?_take_append_drop {lines : List Text} {first last index : Nat} (ordered : first ≤ last)
    (inside : last < lines.length) (outside : index < first ∨ last < index) :
    (lines.take first ++ lines.drop (last + 1))[if index < first then index else index - (last + 1 - first)]? =
      lines[index]? := by
  have size : (lines.take first).length = first := by
    rw [List.length_take]
    omega
  split_ifs with before
  · rw [List.getElem?_append_left (by omega), List.getElem?_take_of_lt before]
  · rw [List.getElem?_append_right (by omega), List.getElem?_drop, size]
    congr 1
    omega

section Writes

variable {rules : Rules} {shader candidate : Shader} {opportunity : Opportunity} {context context' : Context}
  {index : Nat} {line : Text}

/-- Renaming a name that is no output keeps what a line writes. -/
theorem writesOutput_replaceWord {lines : List Text} {name new : Text} (isName : Text.IsWord name) (isWord : Text.IsWord new)
    (other : name ∉ Code.outputs lines) (writes : Code.writesOutput (Code.outputs lines) (Code.ofLine line) = true) :
    Code.writesOutput (Code.outputs lines) (Code.ofLine (replaceWord name new line)) = true := by
  have keeps : Text.KeepsWords (Text.replacing name new) := Text.keepsWords_replacing isWord
  obtain ⟨output, listed, writes⟩ := List.any_eq_true.mp writes
  have differs : output ≠ name := by
    rintro rfl
    exact other listed
  rw [Text.replaceWord_eq isName, Code.ofLine_mapWords keeps]
  exact List.any_eq_true.mpr ⟨output, listed, Code.writesAfter_mapWords keeps (Code.isWord_of_mem_outputs listed)
    (if_neg differs) (fun touching => nomatch touching) writes⟩

/-- A line that writes an output and is no comment lies outside of every stretch that can go. -/
theorem Dispensable.outside {lines : List Text} {kind : OpportunityKind} {first last : Nat}
    (dispensable : Dispensable rules lines kind first last) (protects : rules.reduceEverywhere = false)
    (here : lines[index]? = some line) (writes : Code.writesOutput (Code.outputs lines) (Code.ofLine line) = true)
    (notComment : isBlankOrComment line = false) : index < first ∨ last < index := by
  by_contra inside
  obtain ⟨fromFirst, toLast⟩ : first ≤ index ∧ index ≤ last := by omega
  cases dispensable with
  | blank there comment =>
    obtain rfl : index = first := by omega
    rw [here] at there
    cases there
    rw [notComment] at comment
    cases comment
  | code _ _ writeless =>
    rw [writeless protects index line fromFirst toLast here] at writes
    cases writes

/-- Unless everything may be reduced, a line that writes an output and is no comment is still there after a change,
with at most a name other than an output renamed, and still writes an output; apart from the line whose own initial
value is simplified. -/
theorem apply_spares_writes (protects : rules.reduceEverywhere = false)
    (member : opportunity ∈ shader.opportunities rules)
    (success : opportunity.apply shader context = .ok (candidate, context'))
    (here : shader.lines[index]? = some line)
    (writes : Code.writesOutput (Code.outputs shader.lines) (Code.ofLine line) = true)
    (notComment : isBlankOrComment line = false)
    (apart : opportunity.kind = .simplifyInitializer → opportunity.first ≠ index) :
    ∃ line', candidate.lines[opportunity.placeAfter index]? = some line' ∧
      Spared (Code.outputs shader.lines) line line' ∧
      Code.writesOutput (Code.outputs shader.lines) (Code.ofLine line') = true := by
  obtain ⟨lines, rfl, change⟩ := change_of_apply member success
  rw [change.lines_eq]
  cases change with
  | @removed kind first last dispensable ordered inside =>
    have outside := dispensable.outside protects here writes notComment
    have place : (⟨kind, first, last, []⟩ : Opportunity).placeAfter index =
        if index < first then index else index - (last + 1 - first) := by
      cases dispensable with
      | blank => rfl
      | code kinds => rcases kinds with rfl | rfl <;> rfl
    refine ⟨line, ?_, .kept, writes⟩
    rw [place, getElem?_take_append_drop ordered inside outside, here]
  | @simplified changed _ _ _ _ _ _ _ _ =>
    have apart : changed ≠ index := apart rfl
    refine ⟨line, ?_, .kept, writes⟩
    change (shader.lines.set changed _)[index]? = some line
    rw [List.getElem?_set_ne apart, here]
  | @renamed declared code name _ renamable =>
    obtain ⟨declaration, found, rfl⟩ := renamable.declared
    have isName := Text.isWord_of_isIdentifier (Code.name_mem_words found).1
    have isNew := context.isWord_freshName (Text.identifiers shader.text)
    refine ⟨_, ?_, .renamed renamable.notOutput, writesOutput_replaceWord isName isNew renamable.notOutput writes⟩
    change (shader.lines.map _)[index]? = _
    rw [List.getElem?_map, here]
    rfl

/-- A shader that writes an output on one line and declares an initial value on the next. -/
def writeAndValue : Shader :=
  ⟨"void main() \x7b\n  gl_FragColor = vec4(1.0);\n  float a = 0.5;\n\x7d\n".toList, [], .default⟩

/-- The write stays when the initial value is simplified. -/
theorem apply_spares_writes_writeAndValue :
    ∃ candidate context' line',
      (⟨.simplifyInitializer, 2, 2, "1.0".toList⟩ : Opportunity).apply writeAndValue (.create 0 ⟨false, .default⟩) =
        .ok (candidate, context') ∧
      candidate.lines[1]? = some line' ∧
      Spared (Code.outputs writeAndValue.lines) "  gl_FragColor = vec4(1.0);".toList line' ∧
      Code.writesOutput (Code.outputs writeAndValue.lines) (Code.ofLine line') = true := by
  have member : ⟨.simplifyInitializer, 2, 2, "1.0".toList⟩ ∈ writeAndValue.opportunities ⟨false, .default⟩ := by
    decide +kernel
  obtain ⟨lines, context', success, -⟩ := exists_change member (.create 0 ⟨false, .default⟩)
  have here : writeAndValue.lines[1]? = some "  gl_FragColor = vec4(1.0);".toList := by decide +kernel
  obtain ⟨line', there, spared, writes⟩ :=
    apply_spares_writes rfl member success here (by decide +kernel) (by decide +kernel) (fun _ => by decide)
  exact ⟨_, context', line', success, there, spared, writes⟩

end Writes

end Opportunity

end ShaderShrink
