import Mathlib.Data.Finset.Card
import Mathlib.Data.Finset.Dedup
import Mathlib.Data.List.Flatten
import ShaderShrink.Proofs.Opportunity.Candidate
import ShaderShrink.Proofs.Reduction.StepName

/-!
# The effort that a shader is worth

A shader can be changed at most as often as it has lines, names that are not fresh yet, and initial values that
are not simple yet.  Taking lines away leaves fewer of them, a simplified value is simple from then on, and a
fresh name is never renamed again; and no change makes more of the other two.
-/

namespace ShaderShrink

open Text

/-! ## Fresh names and constants -/

namespace Context

theorem isFreshName_nameOf (n : Nat) : Code.isFreshName (nameOf n) = true := by
  have digits : (Nat.toDigits 10 n).all isDigit = true := List.all_eq_true.mpr fun c member =>
    isDigit_of_isDigit (Nat.isDigit_of_mem_toDigits (by decide) (by decide) member)
  have behind : drop? "_v".toList (nameOf n) = some (Nat.toDigits 10 n) := by
    simp [drop?, nameOf, startsWith]
  have filled : (Nat.toDigits 10 n).isEmpty = false := List.isEmpty_eq_false_iff.mpr Nat.toDigits_ne_nil
  rw [Code.isFreshName, behind]
  simp [digits, filled]

end Context

namespace Opportunity

/-- Renaming keeps declarations, as long as the name is no keyword and the new one is fresh. -/
theorem faithful_replacing {name : Text} {n : Nat} (identifier : isIdentifier name = true)
    (other : name ∉ Code.keywords) : Code.Faithful (replacing name (Context.nameOf n)) := by
  have fresh := Context.isFreshName_nameOf n
  have apart : ∀ w ∈ Code.qualifiers ++ Code.declarableTypes, Code.isFreshName w = false := by decide
  have keyword : ∀ w ∈ Code.qualifiers, w ∈ Code.keywords := by decide
  refine ⟨keepsWords_replacing (isWord_of_isIdentifier (Context.isIdentifier_nameOf n)), ?_, ?_, ?_⟩
  · intro w _
    unfold replacing
    split_ifs with same
    · subst same
      refine ⟨fun member => ?_, fun member => absurd (keyword w member) other⟩
      rw [apart _ (List.mem_append_left _ member)] at fresh
      cases fresh
    · rfl
  · intro w _ member
    unfold replacing at member ⊢
    split_ifs at member ⊢ with same
    · rw [apart _ (List.mem_append_right _ member)] at fresh
      cases fresh
    · rfl
  · intro w _
    unfold replacing
    split_ifs with same
    · rw [same, identifier, Context.isIdentifier_nameOf]
    · rfl

/-- Renaming makes no new initial value that can be simplified. -/
theorem newInitial?_replaceWord {version : Version} {name line constant : Text} {n : Nat}
    (identifier : isIdentifier name = true) (other : name ∉ Code.keywords)
    (offered : newInitial? version (Code.ofLine (replaceWord name (Context.nameOf n) line)) = some constant) :
    newInitial? version (Code.ofLine line) = some constant := by
  have faithful := faithful_replacing (n := n) identifier other
  have isConstant := constant_of_offered offered
  obtain ⟨declaration, initial, declared, valued, plain, single, chosen, complex⟩ := newInitial?_some offered
  rw [replaceWord_eq (isWord_of_isIdentifier identifier), Code.ofLine_mapWords faithful.keeps] at declared
  obtain ⟨declaration', initial', declared', type, valued', rfl⟩ := Code.declaration?_mapWords faithful declared valued
  rw [Code.declaresMore_mapWords faithful] at single
  rw [trim_mapWords faithful.keeps] at complex
  have complex' : trim initial' ≠ constant := by
    rintro rfl
    refine complex (mapWords_id_of fun w member => if_neg ?_)
    rintro rfl
    exact other (isConstant.keywords w member identifier)
  rw [← type] at plain chosen
  simp only [newInitial?, declared', valued', plain, single, chosen, complex', Option.bind_eq_bind, Option.bind_some,
    Bool.or_self, Bool.false_eq_true, ↓reduceIte]

/-- An initial value that was simplified cannot be simplified any more. -/
theorem newInitial?_simplified {version : Version} {line constant initial : Text} {declaration : Code.Declaration}
    (offered : newInitial? version (Code.ofLine line) = some constant)
    (declared : Code.declaration? (Code.ofLine line) = some declaration) (valued : declaration.initial = some initial) :
    newInitial? version (Code.ofLine (declaration.lead ++ constant ++ [';'])) = none := by
  have isConstant := constant_of_offered offered
  obtain ⟨declaration', declared', type, valued'⟩ := Code.declaration?_lead declared valued isConstant.tight
  obtain ⟨_, _, declared'', -, -, -, chosen, -⟩ := newInitial?_some offered
  rw [declared] at declared''
  cases declared''
  rw [← type] at chosen
  simp only [newInitial?, declared', valued', chosen, isConstant.tight.trim_eq, Option.bind_eq_bind, Option.bind_some, ↓reduceIte,
    ite_self]

end Opportunity

/-! ## The measure -/

namespace Shader

/-- The names in a shader that are neither keywords nor fresh. -/
def namesLeft (shader : Shader) : Finset Text :=
  ((identifiers shader.text).filter fun name => !Code.keywords.contains name && !Code.isFreshName name).toFinset

/-- The number of lines on which an opportunity to simplify an initial value is found. -/
def valuesLeft (version : Version) (shader : Shader) : Nat :=
  (List.range shader.lines.length).countP fun index =>
    (shader.opportunities ⟨false, version⟩).any fun opportunity =>
      opportunity.kind = .simplifyInitializer && opportunity.first = index

/-- The lines, the names and the initial values of a shader that can still be changed. -/
def effort (version : Version) (shader : Shader) : Nat :=
  shader.lines.length + shader.namesLeft.card + shader.valuesLeft version

theorem mem_namesLeft {shader : Shader} {name : Text} :
    name ∈ shader.namesLeft ↔ (∃ line ∈ shader.lines, name ∈ words line) ∧ isIdentifier name = true ∧
      name ∉ Code.keywords ∧ Code.isFreshName name = false := by
  unfold namesLeft identifiers lines
  rw [List.mem_toFinset, List.mem_filter, List.mem_filter, words_eq_flatMap, List.mem_flatMap]
  simp only [Bool.and_eq_true, Bool.not_eq_true', List.contains_eq_mem, decide_eq_false_iff_not, and_assoc]

theorem valuesLeft_eq (version : Version) (shader : Shader) :
    shader.valuesLeft version =
      shader.lines.countP fun line => (Opportunity.newInitial? version (Code.ofLine line)).isSome := by
  have listed : shader.lines = (List.range shader.lines.length).map fun index => shader.lines.getD index [] := by
    refine List.ext_getElem (by simp) fun i inside inside' => ?_
    simp [List.getElem?_eq_getElem inside]
  unfold valuesLeft
  conv_rhs => rw [listed, List.countP_map]
  refine List.countP_congr fun index member => ?_
  have inside := List.mem_range.mp member
  have here : shader.lines[index]? = some (shader.lines.getD index []) := by
    rw [List.getElem?_eq_getElem inside, List.getD_eq_getElem _ _ inside]
  simp only [List.any_eq_true, Bool.and_eq_true, decide_eq_true_eq, Function.comp_apply, Option.isSome_iff_exists]
  constructor
  · rintro ⟨⟨kind, first, last, detail⟩, found, rfl, rfl⟩
    cases Opportunity.found_of_mem found with
    | removal dispensable => exact absurd rfl dispensable.removes.1
    | initializer here' offered =>
      rw [here] at here'
      cases here'
      exact ⟨_, offered⟩
  · rintro ⟨constant, offered⟩
    exact ⟨_, (Opportunity.mem_opportunities_simplify here).mpr offered, rfl, rfl⟩

end Shader

namespace Opportunity

variable {rules : Rules} {shader : Shader} {context context' : Context} {opportunity : Opportunity} {lines : List Text}

/-- Taking lines away leaves fewer lines, and no more of anything else. -/
private theorem effort_lt_of_removed {version : Version} {first last : Nat} (ordered : first ≤ last)
    (inside : last < shader.lines.length)
    (kept : (shader.withLines lines).lines = shader.lines.take first ++ shader.lines.drop (last + 1)) :
    (shader.withLines lines).effort version < shader.effort version := by
  have part : List.Sublist (shader.lines.take first ++ shader.lines.drop (last + 1)) shader.lines := by
    have rest := (List.Sublist.refl (shader.lines.take first)).append
      (List.drop_sublist_drop_left shader.lines (show first ≤ last + 1 by omega))
    rwa [List.take_append_drop] at rest
  have fewer : (shader.withLines lines).lines.length < shader.lines.length := by
    rw [kept, List.length_append, List.length_take, List.length_drop]
    omega
  have names : (shader.withLines lines).namesLeft ⊆ shader.namesLeft := by
    intro name member
    obtain ⟨⟨line, inside, part'⟩, rest⟩ := Shader.mem_namesLeft.mp member
    exact Shader.mem_namesLeft.mpr ⟨⟨line, part.subset (kept ▸ inside), part'⟩, rest⟩
  have values : (shader.withLines lines).valuesLeft version ≤ shader.valuesLeft version := by
    rw [Shader.valuesLeft_eq, Shader.valuesLeft_eq, kept]
    exact part.countP_le
  have card := Finset.card_le_card names
  unfold Shader.effort
  omega

/-- A simplified initial value is simple, and brings nothing but keywords. -/
private theorem effort_lt_of_simplified {version : Version} {index : Nat} {line constant initial : Text}
    {declaration : Code.Declaration} (here : shader.lines[index]? = some line)
    (offered : newInitial? version (Code.ofLine line) = some constant)
    (declared : Code.declaration? (Code.ofLine line) = some declaration) (valued : declaration.initial = some initial)
    (set : (shader.withLines lines).lines = shader.lines.set index (declaration.lead ++ constant ++ [';'])) :
    (shader.withLines lines).effort version < shader.effort version := by
  obtain ⟨inside, here⟩ := List.getElem?_eq_some_iff.mp here
  have same : (shader.withLines lines).lines.length = shader.lines.length := by rw [set, List.length_set]
  have names : (shader.withLines lines).namesLeft ⊆ shader.namesLeft := by
    intro name member
    obtain ⟨⟨other, member, part⟩, identifier, notKeyword, notFresh⟩ := Shader.mem_namesLeft.mp member
    refine Shader.mem_namesLeft.mpr ⟨?_, identifier, notKeyword, notFresh⟩
    rcases List.mem_or_eq_of_mem_set (set ▸ member) with old | rfl
    · exact ⟨other, old, part⟩
    · rcases List.mem_append.mp (Code.words_lead_subset declared valued constant part) with code | new
      · exact ⟨line, here ▸ List.getElem_mem inside, Code.words_ofLine_subset line code⟩
      · exact absurd ((constant_of_offered offered).keywords name new identifier) notKeyword
  have values : (shader.withLines lines).valuesLeft version < shader.valuesLeft version := by
    have positive : 0 < shader.lines.countP fun line => (newInitial? version (Code.ofLine line)).isSome :=
      List.countP_pos_iff.mpr ⟨line, here ▸ List.getElem_mem inside, by rw [offered]; rfl⟩
    rw [Shader.valuesLeft_eq, Shader.valuesLeft_eq, set, List.countP_set inside, here, offered,
      newInitial?_simplified offered declared valued]
    simp only [Option.isSome_some, Option.isSome_none, ↓reduceIte, Bool.false_eq_true]
    omega
  have card := Finset.card_le_card names
  unfold Shader.effort
  omega

/-- A renamed name does not come back, and a fresh one is not renamed. -/
private theorem effort_lt_of_renamed {version : Version} {line name : Text} {n : Nat} (here : line ∈ shader.lines)
    (renamable : Renamable (Code.outputs shader.lines) (Code.ofLine line) name)
    (mapped : (shader.withLines lines).lines = shader.lines.map (replaceWord name (Context.nameOf n))) :
    (shader.withLines lines).effort version < shader.effort version := by
  obtain ⟨declaration, declared, rfl⟩ := renamable.declared
  obtain ⟨identifier, occurs⟩ := Code.name_mem_words declared
  have wordy := isWord_of_isIdentifier identifier
  have keeps : KeepsWords (replacing declaration.name (Context.nameOf n)) :=
    keepsWords_replacing (isWord_of_isIdentifier (Context.isIdentifier_nameOf n))
  have same : (shader.withLines lines).lines.length = shader.lines.length := by rw [mapped, List.length_map]
  have own : declaration.name ∈ shader.namesLeft := Shader.mem_namesLeft.mpr
    ⟨⟨line, here, Code.words_ofLine_subset line occurs⟩, identifier, renamable.notKeyword, renamable.notFresh⟩
  have names : (shader.withLines lines).namesLeft ⊆ shader.namesLeft.erase declaration.name := by
    intro other member
    obtain ⟨⟨new, member, part⟩, rest⟩ := Shader.mem_namesLeft.mp member
    rw [mapped] at member
    obtain ⟨old, inside, rfl⟩ := List.mem_map.mp member
    rw [replaceWord_eq wordy, words_mapWords keeps] at part
    obtain ⟨w, before, rfl⟩ := List.mem_map.mp part
    unfold replacing at rest ⊢
    split_ifs at rest ⊢ with replaced
    · rw [Context.isFreshName_nameOf] at rest
      exact absurd rest.2.2 (by decide)
    · exact Finset.mem_erase.mpr ⟨replaced, Shader.mem_namesLeft.mpr ⟨⟨old, inside, before⟩, rest⟩⟩
  have values : (shader.withLines lines).valuesLeft version ≤ shader.valuesLeft version := by
    rw [Shader.valuesLeft_eq, Shader.valuesLeft_eq, mapped, List.countP_map]
    refine List.countP_mono_left fun old _ found => ?_
    obtain ⟨constant, offered⟩ := Option.isSome_iff_exists.mp found
    rw [newInitial?_replaceWord identifier renamable.notKeyword offered]
    rfl
  have card := Finset.card_le_card names
  rw [Finset.card_erase_of_mem own] at card
  have positive := Finset.card_pos.mpr ⟨_, own⟩
  unfold Shader.effort
  omega

/-- Every change takes away from what can still be changed. -/
theorem Change.effort_lt (change : Change rules shader context opportunity lines context') :
    (shader.withLines lines).effort rules.version < shader.effort rules.version := by
  have now := change.lines_eq
  cases change with
  | removed _ ordered inside => exact effort_lt_of_removed ordered inside now
  | simplified here offered declared valued => exact effort_lt_of_simplified here offered declared valued now
  | renamed here renamable => exact effort_lt_of_renamed (List.mem_of_getElem? here) renamable now

end Opportunity

namespace Shader

/-- Whether a shader comes of another one by following an opportunity that is found there. -/
def Follows (version : Version) (a b : Shader) : Prop :=
  ∃ rules opportunity context context', rules.version = version ∧ opportunity ∈ a.opportunities rules ∧
    opportunity.apply a context = .ok (b, context')

theorem Follows.effort_lt {version : Version} {a b : Shader} (follows : Follows version a b) :
    b.effort version < a.effort version := by
  obtain ⟨rules, opportunity, context, context', rfl, member, applied⟩ := follows
  obtain ⟨lines, rfl, change⟩ := Opportunity.change_of_apply member applied
  exact change.effort_lt

/-- Opportunities can be followed one after another only as often as a shader is worth. -/
theorem length_le_effort {version : Version} {shader : Shader} {later : List Shader}
    (chain : (shader :: later).IsChain (Follows version)) : later.length ≤ shader.effort version := by
  induction later generalizing shader with
  | nil => exact Nat.zero_le _
  | cons next rest ih =>
    obtain ⟨follows, chain⟩ := List.isChain_cons_cons.mp chain
    have shorter := ih chain
    have less := follows.effort_lt
    rw [List.length_cons]
    omega

private theorem length_renames_le (outputs : List Text) (outline : List OutlineLine) (seen : List Text) :
    (Opportunity.renames outputs outline seen).length ≤ outline.length := by
  fun_induction Opportunity.renames outputs outline seen <;> simp only [List.length_nil, List.length_cons] <;> omega

/-- On each line there are at most five opportunities. -/
theorem length_opportunities_le (rules : Rules) (shader : Shader) :
    (shader.opportunities rules).length ≤ 5 * shader.lines.length := by
  unfold opportunities Opportunity.ofLines Opportunity.blankLines
  have outline := Outline.length_ofLines shader.lines
  have blocks := List.length_filterMap_le
    (Opportunity.blockAt? rules (Code.outputs shader.lines) (Outline.ofLines shader.lines)) (Outline.ofLines shader.lines)
  have statements := List.length_filterMap_le
    (Opportunity.statementAt? rules (Code.outputs shader.lines) (Outline.ofLines shader.lines)) (Outline.ofLines shader.lines)
  have initializers := List.length_filterMap_le (Opportunity.initializerAt? rules) (Outline.ofLines shader.lines)
  have names := length_renames_le (Code.outputs shader.lines) (Outline.ofLines shader.lines) []
  simp only [List.length_append]
  refine Nat.le_trans (Nat.add_le_add_right (Nat.add_le_add_right (Nat.add_le_add_right
    (Nat.add_le_add_right (List.length_filterMap_le _ _) _) _) _) _) ?_
  rw [List.length_zipIdx]
  omega

end Shader

end ShaderShrink
