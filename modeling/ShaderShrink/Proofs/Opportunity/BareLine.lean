import ShaderShrink.Proofs.Opportunity.Key
import ShaderShrink.Proofs.Shader.BareLine
import ShaderShrink.Proofs.Shader.Directive
import ShaderShrink.Proofs.Text.Line

/-!
# Opportunities and lines without code

No search looks at a line that is blank or holds nothing but a comment behind two slashes, other than the one that takes
it away.  Without it the other opportunities are the same, in the same order, and those on lines behind it have moved up
by one.  So two such lines may go in either order.
-/

namespace ShaderShrink

open Text Outline

namespace Opportunity

/-- The opportunity to take a blank line or a comment away. -/
def removal (index : Nat) : Opportunity := ⟨.removeBlankOrComment, index, index, []⟩

/-- An opportunity, once the line `gone` has gone. -/
def without (gone : Nat) (opportunity : Opportunity) : Opportunity :=
  { opportunity with first := placeWithout gone opportunity.first, last := placeWithout gone opportunity.last }

/-- What is found of another kind is not the removal of a line. -/
theorem filter_ne_removal {opportunities : List Opportunity}
    (kinds : ∀ opportunity ∈ opportunities, opportunity.kind ≠ .removeBlankOrComment) (index : Nat) :
    opportunities.filter (· != removal index) = opportunities := by
  apply List.filter_eq_self.mpr
  intro opportunity member
  rw [bne_iff_ne]
  rintro rfl
  exact kinds _ member rfl

theorem isBlankOrComment_of_isBare {line : Text} (bare : isBare line = true) : isBlankOrComment line = true := by
  obtain ⟨blanks, rest, white, rfl, shape⟩ := exists_of_isBare bare
  rcases shape with rfl | ⟨comment, rfl⟩
  · have empty : trim (blanks ++ []) = [] := by rw [trim, trimLeft_append white rfl]; rfl
    rw [isBlankOrComment, empty]
    rfl
  · have slashes : trim (blanks ++ '/' :: '/' :: comment) = '/' :: '/' :: trimRight comment := by
      rw [trim, trimLeft_append white rfl]
      exact trimRight_append_cons (by decide) ['/'] comment
    rw [isBlankOrComment, slashes]
    rfl

section Without

variable {lines : List Text} {gone : Nat} {line : Text} (here : lines[gone]? = some line) (bare : isBare line = true)

include here bare

theorem usedElsewhere_eraseIdx {index : Nat} (other : index ≠ gone) (name : Text) :
    usedElsewhere (Outline.ofLines (lines.eraseIdx gone)) (placeWithout gone index) name =
      usedElsewhere (Outline.ofLines lines) index name := by
  rw [Bool.eq_iff_iff, usedElsewhere, usedElsewhere, List.any_eq_true, List.any_eq_true]
  simp only [mem_ofLines_eraseIdx here bare, Bool.and_eq_true, bne_iff_ne]
  constructor
  · rintro ⟨-, ⟨user, member, apart, rfl⟩, differs, uses⟩
    refine ⟨user, member, fun same => differs ?_, uses⟩
    rw [OutlineLine.without_index, same]
  · rintro ⟨user, member, differs, uses⟩
    have apart : user.index ≠ gone := by
      intro same
      rw [code_of_mem here bare member same] at uses
      cases uses
    refine ⟨user.without gone, ⟨user, member, apart, rfl⟩, ?_, uses⟩
    rwa [OutlineLine.without_index, ne_eq, placeWithout_inj apart other]

theorem blockAt?_eraseIdx (rules : Rules) {opening : OutlineLine} (member : opening ∈ Outline.ofLines lines)
    (other : opening.index ≠ gone) :
    blockAt? rules (Code.outputs lines) (Outline.ofLines (lines.eraseIdx gone)) (opening.without gone) =
      (blockAt? rules (Code.outputs lines) (Outline.ofLines lines) opening).map (without gone) := by
  unfold blockAt?
  rw [OutlineLine.without_inFunction, OutlineLine.without_code, OutlineLine.without_index,
    blockEnd?_eraseIdx here bare member other]
  split_ifs
  · cases closes : blockEnd? (Outline.ofLines lines) opening.index with
    | none => rfl
    | some last =>
      have apart : last ≠ gone := by
        rintro rfl
        obtain ⟨closing, there, brace⟩ := (block_of_blockEnd? closes).closes
        rw [here] at there
        cases there
        rw [ofLine_of_isBare bare] at brace
        cases brace
      have nothing : Code.writesOutput (Code.outputs lines) [] = false := by simp [Code.writesOutput, Code.writesAfter]
      have writes := any_stretch_eraseIdx here bare nothing opening.index apart
      simp only [Option.map_some, nextCode_eraseIdx here bare apart, writes]
      split_ifs <;> rfl
  · rfl

theorem statementAt?_eraseIdx (rules : Rules) {statement : OutlineLine} (other : statement.index ≠ gone) :
    statementAt? rules (Code.outputs lines) (Outline.ofLines (lines.eraseIdx gone)) (statement.without gone) =
      (statementAt? rules (Code.outputs lines) (Outline.ofLines lines) statement).map (without gone) := by
  have used := usedElsewhere_eraseIdx here bare other
  unfold statementAt?
  simp only [OutlineLine.without_inFunction, OutlineLine.without_code, OutlineLine.without_index,
    startsStatement_eraseIdx here bare other, nextCode_eraseIdx here bare other, used]
  split_ifs <;> rfl

/-- What a search of single lines finds without a bare line, where it finds nothing itself. -/
theorem filterMap_eraseIdx (search search' : OutlineLine → Option Opportunity)
    (kinds : ∀ line opportunity, search line = some opportunity → opportunity.kind ≠ .removeBlankOrComment)
    (nothing : ∀ bareLine ∈ Outline.ofLines lines, bareLine.index = gone → search bareLine = none)
    (alike : ∀ other ∈ Outline.ofLines lines, other.index ≠ gone →
      search' (other.without gone) = (search other).map (without gone)) :
    (Outline.ofLines (lines.eraseIdx gone)).filterMap search' =
      (((Outline.ofLines lines).filterMap search).filter (· != removal gone)).map (without gone) := by
  have own : ∀ opportunity ∈ (Outline.ofLines lines).filterMap search, opportunity.kind ≠ .removeBlankOrComment := by
    intro opportunity member
    obtain ⟨line, -, found⟩ := List.mem_filterMap.mp member
    exact kinds line opportunity found
  rw [filter_ne_removal own, ofLines_eraseIdx here bare, List.filterMap_map, List.filterMap_filter, List.map_filterMap]
  refine List.filterMap_congr fun other member => ?_
  by_cases same : other.index = gone
  · simp [same, nothing other member same]
  · simpa [same] using alike other member same

/-- Renaming goes by the first line of each name, and a bare line declares none. -/
theorem renames_eraseIdx (outputs : List Text) (seen : List Text) :
    renames outputs (Outline.ofLines (lines.eraseIdx gone)) seen =
      ((renames outputs (Outline.ofLines lines) seen).filter (· != removal gone)).map (without gone) := by
  have own : ∀ opportunity ∈ renames outputs (Outline.ofLines lines) seen, opportunity.kind ≠ .removeBlankOrComment := by
    intro opportunity member
    obtain ⟨line, -, name, -, rfl⟩ := exists_of_mem_renames member
    exact fun same => nomatch same
  have nothing : ∀ bareLine ∈ Outline.ofLines lines, bareLine.index = gone → renamableAt? outputs bareLine = none := by
    intro bareLine member same
    rw [renamableAt?, code_of_mem here bare member same]
    split_ifs <;> rfl
  rw [filter_ne_removal own, ofLines_eraseIdx here bare]
  clear own
  generalize Outline.ofLines lines = outline at nothing
  induction outline generalizing seen with
  | nil => rfl
  | cons line rest ih =>
    have ih := fun seen => ih seen fun other member => nothing other (List.mem_cons_of_mem line member)
    by_cases same : line.index = gone
    · rw [List.filter_cons_of_neg (by simpa using same), ih, renames, nothing line List.mem_cons_self same]
    · have alike : renamableAt? outputs (line.without gone) = renamableAt? outputs line := rfl
      rw [List.filter_cons_of_pos (by simpa using same), List.map_cons, renames, renames, alike]
      cases renamableAt? outputs line with
      | none => exact ih seen
      | some name =>
        dsimp only
        split_ifs
        · exact ih seen
        · rw [ih, List.map_cons]
          rfl

end Without

theorem blankLines_eraseIdx (lines : List Text) (gone : Nat) :
    blankLines (lines.eraseIdx gone) = ((blankLines lines).filter (· != removal gone)).map (without gone) := by
  rw [blankLines, zipIdx_eraseIdx, blankLines, List.filterMap_map, List.filterMap_filter, List.filter_filterMap,
    List.map_filterMap, Nat.zero_add]
  refine List.filterMap_congr fun item _ => ?_
  by_cases same : item.2 = gone
  · by_cases found : isBlankOrComment item.1 = true <;> simp [same, found, removal, Option.filter]
  · by_cases found : isBlankOrComment item.1 = true <;> simp [same, found, removal, without, Option.filter]

theorem lines_eraseIdx (shader : Shader) (index : Nat) :
    (shader.withLines (shader.lines.eraseIdx index)).lines = shader.lines.eraseIdx index :=
  lines_unlines fun _ member => unbroken_of_mem_lines (List.mem_of_mem_eraseIdx member)

section Invisible

variable {shader : Shader} {index : Nat} {line : Text} (here : shader.lines[index]? = some line)
  (bare : isBare line = true)

include here

/-- Taking a line away can always be done. -/
theorem apply_removal (context : Context) :
    (removal index).apply shader context = .ok (shader.withLines (shader.lines.eraseIdx index), context) := by
  have inside := (List.getElem?_eq_some_iff.mp here).1
  change Edit.apply (.removeLines index index) shader context = _
  rw [Edit.apply, Edit.withoutLines_natCast (Nat.le_refl _) inside, List.eraseIdx_eq_take_drop_succ]

include bare

/-- The opportunities of a shader without a bare line. -/
theorem opportunities_eraseIdx (rules : Rules) :
    (shader.withLines (shader.lines.eraseIdx index)).opportunities rules =
      ((shader.opportunities rules).filter (· != removal index)).map (without index) := by
  have code : ∀ bareLine ∈ Outline.ofLines shader.lines, bareLine.index = index → bareLine.code = [] :=
    fun _ => code_of_mem here bare
  have blocks := filterMap_eraseIdx here bare
    (blockAt? rules (Code.outputs shader.lines) (Outline.ofLines shader.lines))
    (blockAt? rules (Code.outputs shader.lines) (Outline.ofLines (shader.lines.eraseIdx index)))
    (fun line opportunity found => by rw [(blockAt?_some found).1]; decide)
    (fun bareLine member same => by simp [blockAt?, code bareLine member same, endsWith])
    (fun other member apart => blockAt?_eraseIdx here bare rules member apart)
  have statements := filterMap_eraseIdx here bare
    (statementAt? rules (Code.outputs shader.lines) (Outline.ofLines shader.lines))
    (statementAt? rules (Code.outputs shader.lines) (Outline.ofLines (shader.lines.eraseIdx index)))
    (fun line opportunity found => by rw [(statementAt?_some found).1]; decide)
    (fun bareLine member same => by simp [statementAt?, code bareLine member same, endsWith, trim, trimLeft, trimRight])
    (fun other member apart => statementAt?_eraseIdx here bare rules apart)
  have initializers := filterMap_eraseIdx here bare (initializerAt? rules) (initializerAt? rules)
    (fun line opportunity found => by rw [(initializerAt?_some found).1]; decide)
    (fun bareLine member same => by rw [initializerAt?_eq, code bareLine member same]; rfl)
    (fun other member apart => by
      rw [initializerAt?_eq, initializerAt?_eq, Option.map_map]
      rfl)
  unfold Shader.opportunities ofLines
  rw [lines_eraseIdx]
  dsimp only
  rw [outputs_eraseIdx here bare, blankLines_eraseIdx, blocks, statements, initializers, renames_eraseIdx here bare]
  simp only [List.filter_append, List.map_append]

end Invisible

/-- A blank line, or one with nothing but a comment behind two slashes, can be taken away, and that takes away no other
opportunity and adds none: the others stay in their order, and those behind the line move up by one.  Two such lines may
go in either order. -/
theorem bare_line_invisible {shader : Shader} {index : Nat} {line : Text} (here : shader.lines[index]? = some line)
    (bare : isBare line = true) (context : Context) :
    removal index ∈ shader.opportunities context.rules ∧
      ∃ candidate, (removal index).apply shader context = .ok (candidate, context) ∧
        candidate.opportunities context.rules =
          ((shader.opportunities context.rules).filter (· != removal index)).map (without index) ∧
        ∀ other otherLine, other ≠ index → shader.lines[other]? = some otherLine → isBare otherLine = true →
          ∃ candidate' final, (removal other).apply shader context = .ok (candidate', context) ∧
            (removal (placeWithout index other)).apply candidate context = .ok (final, context) ∧
            (removal (placeWithout other index)).apply candidate' context = .ok (final, context) := by
  have found : removal index ∈ shader.opportunities context.rules := by
    unfold Shader.opportunities ofLines
    simp only [List.mem_append, or_assoc]
    refine .inl (List.mem_filterMap.mpr ⟨(line, index), List.mem_zipIdx_iff_getElem?.mpr here, ?_⟩)
    simp only [isBlankOrComment_of_isBare bare, ↓reduceIte, removal]
  refine ⟨found, _, apply_removal here context, opportunities_eraseIdx here bare context.rules, ?_⟩
  intro other otherLine apart there otherBare
  have front : (shader.withLines (shader.lines.eraseIdx index)).lines[placeWithout index other]? = some otherLine := by
    rw [lines_eraseIdx, getElem?_eraseIdx_placeWithout _ apart, there]
  have back : (shader.withLines (shader.lines.eraseIdx other)).lines[placeWithout other index]? = some line := by
    rw [lines_eraseIdx, getElem?_eraseIdx_placeWithout _ apart.symm, here]
  refine ⟨_, _, apply_removal there context, apply_removal front context, ?_⟩
  rw [apply_removal back context, lines_eraseIdx, lines_eraseIdx, eraseIdx_placeWithout]
  rfl

/-- A shader with a comment in a block and a blank line behind it. -/
def commentInBlock : Shader :=
  ⟨"void main() \x7b\n  if (x) \x7b\n    // c\n    y;\n  \x7d\n\n\x7d\n".toList, [], .default⟩

/-- Without the comment the block ends one line further up, and the blank line can go before or after it. -/
theorem bare_line_invisible_commentInBlock :
    ∃ candidate, (removal 2).apply commentInBlock (.create 0 ⟨false, .default⟩) =
        .ok (candidate, .create 0 ⟨false, .default⟩) ∧
      ⟨.removeBlock, 1, 4, []⟩ ∈ commentInBlock.opportunities ⟨false, .default⟩ ∧
      ⟨.removeBlock, 1, 3, []⟩ ∈ candidate.opportunities ⟨false, .default⟩ ∧
      ∃ candidate' final, (removal 5).apply commentInBlock (.create 0 ⟨false, .default⟩) =
          .ok (candidate', .create 0 ⟨false, .default⟩) ∧
        (removal 4).apply candidate (.create 0 ⟨false, .default⟩) = .ok (final, .create 0 ⟨false, .default⟩) ∧
        (removal 2).apply candidate' (.create 0 ⟨false, .default⟩) = .ok (final, .create 0 ⟨false, .default⟩) := by
  have comment : commentInBlock.lines[2]? = some "    // c".toList := by decide +kernel
  have blank : commentInBlock.lines[5]? = some [] := by decide +kernel
  have block : ⟨.removeBlock, 1, 4, []⟩ ∈ commentInBlock.opportunities ⟨false, .default⟩ := by decide +kernel
  obtain ⟨-, candidate, applied, opportunities, commutes⟩ :=
    bare_line_invisible comment (by decide +kernel) (.create 0 ⟨false, .default⟩)
  obtain ⟨candidate', final, other⟩ := commutes 5 [] (by decide) blank (by decide +kernel)
  refine ⟨candidate, applied, block, ?_, candidate', final, other⟩
  have opportunities : candidate.opportunities ⟨false, .default⟩ = _ := opportunities
  rw [opportunities]
  exact List.mem_map.mpr ⟨_, List.mem_filter.mpr ⟨block, by decide⟩, rfl⟩

end Opportunity

end ShaderShrink
