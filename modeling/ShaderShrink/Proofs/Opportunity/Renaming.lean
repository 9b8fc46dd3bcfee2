import ShaderShrink.Proofs.Opportunity.Candidate
import ShaderShrink.Proofs.Opportunity.FreshName

/-!
# Renaming and back

A fresh name is no word of the shader, so that giving it to an identifier mixes up no two names: the fresh name stands
exactly where the old one stood, and putting the old one back restores every line.  Names of outputs and built-in names
are never the old one, and stay where they are.
-/

namespace ShaderShrink

open Text

/-- Where a name stands on a line as a whole word: what is in front of it and what is behind it. -/
structure Text.Occurs (line front name back : Text) : Prop where
  whole : line = front ++ (name ++ back)
  word : IsWord name
  stop : front.getLast?.any isWord = false
  gap : Gap back

/-- Whether a shader is another one with a fresh name in the place of one of its names. -/
structure Shader.Renamed (shader : Shader) (name fresh : Text) (candidate : Shader) : Prop where
  numbered : ∃ digits : Text, digits ≠ [] ∧ (∀ c ∈ digits, c.isDigit = true) ∧ fresh = "_v".toList ++ digits
  free : fresh ∉ identifiers shader.text
  length : candidate.lines.length = shader.lines.length
  identifiers : ∀ other, other ∈ identifiers candidate.text ↔
    (other ∈ identifiers shader.text ∧ other ≠ name) ∨ other = fresh
  reverses : candidate.lines.map (replaceWord fresh name) = shader.lines
  spares : ∀ {index : Nat} {line front other back : Text}, shader.lines[index]? = some line →
    line.Occurs front other back → other ∈ Code.outputs shader.lines ∨ startsWith other "gl_".toList = true →
    ∃ line', candidate.lines[index]? = some line' ∧
      line'.Occurs (replaceWord name fresh front) other (replaceWord name fresh back)

namespace Text

theorem mem_identifiers {t name : Text} : name ∈ identifiers t ↔ name ∈ words t ∧ isIdentifier name = true := by
  rw [identifiers, List.mem_filter]

/-- Another word than the replaced one stays where it is. -/
theorem Occurs.replaceWord {line front other back name new : Text} (occurs : line.Occurs front other back)
    (isName : IsWord name) (isNew : IsWord new) (differs : other ≠ name) :
    (replaceWord name new line).Occurs (replaceWord name new front) other (replaceWord name new back) := by
  have keeps : KeepsWords (replacing name new) := keepsWords_replacing isNew
  refine ⟨?_, occurs.word, ?_, ?_⟩
  · rw [occurs.whole, replaceWord_append_word isName occurs.word differs occurs.stop occurs.gap]
  · rw [replaceWord_eq isName]
    exact getLast?_mapWords_of_end keeps occurs.stop
  · rw [replaceWord_eq isName]
    exact gap_mapWords _ occurs.gap

end Text

/-- The words of a shader whose lines are changed word by word. -/
theorem Shader.words_of_lines {shader candidate : Shader} {name new : Text} (isName : IsWord name) (isNew : IsWord new)
    (lines : candidate.lines = shader.lines.map (replaceWord name new)) :
    words candidate.text = (words shader.text).map (replacing name new) := by
  have keeps : KeepsWords (replacing name new) := keepsWords_replacing isNew
  have each : ∀ line, words (replaceWord name new line) = (words line).map (replacing name new) := fun line => by
    rw [replaceWord_eq isName, words_mapWords keeps]
  rw [words_eq_flatMap, words_eq_flatMap shader.text, List.map_flatMap]
  change candidate.lines.flatMap words = shader.lines.flatMap _
  rw [lines, List.flatMap_map]
  exact congrArg (List.flatMap · shader.lines) (funext each)

namespace Opportunity

variable {rules : Rules} {shader : Shader} {opportunity : Opportunity}

/-- A name that is offered for renaming is declared on some line, and is neither the name of an output nor built in. -/
theorem declaresName_of_mem (member : opportunity ∈ shader.opportunities rules) (kind : opportunity.kind = .renameIdentifier) :
    ∃ line ∈ Outline.ofLines shader.lines, DeclaresName (Code.outputs shader.lines) line opportunity.detail := by
  cases origin_of_mem member with
  | name listed declares => exact ⟨_, listed, declares⟩
  | blank | block | statement | initializer => cases kind

/-- A name that is offered for renaming is one of the identifiers of the shader. -/
theorem detail_mem_identifiers (member : opportunity ∈ shader.opportunities rules)
    (kind : opportunity.kind = .renameIdentifier) : opportunity.detail ∈ identifiers shader.text := by
  obtain ⟨line, listed, declares⟩ := declaresName_of_mem member kind
  obtain ⟨declaration, declared, named⟩ := declares.declared
  obtain ⟨identifier, occurs⟩ := Code.name_mem_words declared
  obtain ⟨-, text, here, code⟩ := Outline.of_mem_ofLines listed
  rw [code] at occurs
  rw [← named, mem_identifiers, words_eq_flatMap, List.mem_flatMap]
  exact ⟨⟨text, List.mem_of_getElem? here, Code.words_ofLine_subset text occurs⟩, identifier⟩

/-- A renaming can be followed, and gives every occurrence of the name the fresh one. -/
theorem exists_renamed (member : opportunity ∈ shader.opportunities rules) (kind : opportunity.kind = .renameIdentifier)
    (context : Context) :
    ∃ candidate, opportunity.apply shader context = .ok (candidate, (context.freshName (identifiers shader.text)).2) ∧
      candidate.lines = shader.lines.map (replaceWord opportunity.detail (context.freshName (identifiers shader.text)).1) := by
  obtain ⟨lines, context', applied, change⟩ := exists_change member context
  have lines_eq := change.lines_eq
  cases change with
  | removed dispensable => exact absurd kind dispensable.removes.2
  | simplified => cases kind
  | renamed => exact ⟨_, applied, lines_eq⟩

/-- Renaming replaces a name by a fresh one that is no identifier of the shader, everywhere and nothing else, so that it
can be taken back. -/
theorem rename_reversible (member : opportunity ∈ shader.opportunities rules)
    (kind : opportunity.kind = .renameIdentifier) (context : Context) :
    ∃ candidate, opportunity.apply shader context = .ok (candidate, (context.freshName (identifiers shader.text)).2) ∧
      shader.Renamed opportunity.detail (context.freshName (identifiers shader.text)).1 candidate := by
  obtain ⟨candidate, applied, lines⟩ := exists_renamed member kind context
  refine ⟨candidate, applied, ?_⟩
  obtain ⟨ownWord, identifier⟩ := mem_identifiers.mp (detail_mem_identifiers member kind)
  obtain ⟨line, -, declares⟩ := declaresName_of_mem member kind
  have isName := isWord_of_isIdentifier identifier
  obtain ⟨n, drawn, -, free, -⟩ := context.exists_freshName (identifiers shader.text)
  rw [drawn] at lines ⊢
  have freshIdentifier := Context.isIdentifier_nameOf n
  have isNew := isWord_of_isIdentifier freshIdentifier
  have notWord : Context.nameOf n ∉ words shader.text := fun occurs => free (mem_identifiers.mpr ⟨occurs, freshIdentifier⟩)
  refine ⟨⟨_, Nat.toDigits_ne_nil, fun c => Nat.isDigit_of_mem_toDigits (by decide) (by decide), rfl⟩, free, ?_, ?_, ?_, ?_⟩
  · rw [lines, List.length_map]
  · intro other
    rw [mem_identifiers, mem_identifiers, Shader.words_of_lines isName isNew lines, List.mem_map]
    constructor
    · rintro ⟨⟨w, occurs, rfl⟩, identifier⟩
      unfold replacing at identifier ⊢
      split_ifs at identifier ⊢ with same
      · exact .inr rfl
      · exact .inl ⟨⟨occurs, identifier⟩, same⟩
    · rintro (⟨⟨occurs, identifier⟩, differs⟩ | rfl)
      · exact ⟨⟨other, occurs, if_neg differs⟩, identifier⟩
      · exact ⟨⟨_, ownWord, if_pos rfl⟩, freshIdentifier⟩
  · rw [lines, List.map_map]
    refine (List.map_congr_left fun line inside => ?_).trans (List.map_id _)
    refine replaceWord_replaceWord isName isNew fun occurs => notWord ?_
    rw [words_eq_flatMap, List.mem_flatMap]
    exact ⟨line, inside, occurs⟩
  · intro index line front other back here occurs spared
    have differs : other ≠ opportunity.detail := by
      rintro rfl
      rcases spared with output | builtin
      · exact declares.notOutput output
      · rw [declares.notBuiltin] at builtin
        cases builtin
    exact ⟨_, by rw [lines, List.getElem?_map, here]; rfl, occurs.replaceWord isName isNew differs⟩

/-- A shader in which the first fresh name is taken, and the name to rename stands beside that of an output. -/
def takenNumber : Shader :=
  ⟨"out vec4 color;\nvoid main() \x7b\n  float _v0 = 1.0;\n  float shade = _v0; // shade\n  color = vec4(shade);\n\x7d\n".toList,
    [], .default⟩

/-- The name becomes the second fresh one, and can be taken back. -/
theorem rename_reversible_takenNumber :
    ∃ candidate context', (⟨.renameIdentifier, 3, 3, "shade".toList⟩ : Opportunity).apply takenNumber (.create 0 ⟨false, .default⟩) =
        .ok (candidate, context') ∧
      takenNumber.Renamed "shade".toList "_v1".toList candidate := by
  have member : ⟨.renameIdentifier, 3, 3, "shade".toList⟩ ∈ takenNumber.opportunities ⟨false, .default⟩ := by decide +kernel
  have drawn : (Context.freshName (.create 0 ⟨false, .default⟩) (identifiers takenNumber.text)).1 = "_v1".toList := by
    decide +kernel
  obtain ⟨candidate, applied, renamed⟩ := rename_reversible member rfl (.create 0 ⟨false, .default⟩)
  exact ⟨candidate, _, applied, drawn ▸ renamed⟩

end Opportunity

end ShaderShrink
