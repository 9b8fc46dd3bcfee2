import Mathlib.Tactic.SplitIfs
import ShaderShrink.Opportunity.Search
import ShaderShrink.Proofs.Opportunity.Choice
import ShaderShrink.Proofs.Opportunity.Origin
import ShaderShrink.Proofs.Shader.Output

/-!
# What the opportunities of a shader do

Every opportunity that is found in a shader does one of three things to its lines: it takes a stretch of them
away, puts a constant in the place of an initial value, or gives a declared name a fresh one.  What is known of
the lines concerned is gathered here, so that nothing else has to look at how opportunities are found.
-/

namespace ShaderShrink

open Text (words)

namespace Opportunity

/-- Whether some lines can go: they are one blank line or comment, or they lie behind the first line and write no
output unless that is allowed. -/
inductive Dispensable (rules : Rules) (lines : List Text) : OpportunityKind → Nat → Nat → Prop
  | blank {index : Nat} {line : Text} : lines[index]? = some line → isBlankOrComment line = true →
      Dispensable rules lines .removeBlankOrComment index index
  | code {kind : OpportunityKind} {first last : Nat} : kind = .removeBlock ∨ kind = .removeStatement → 0 < first →
      (rules.reduceEverywhere = false → ∀ index line, first ≤ index → index ≤ last → lines[index]? = some line →
        Code.writesOutput (Code.outputs lines) (Code.ofLine line) = false) →
      Dispensable rules lines kind first last

/-- What takes lines away changes none. -/
theorem Dispensable.removes {rules : Rules} {lines : List Text} {kind : OpportunityKind} {first last : Nat}
    (dispensable : Dispensable rules lines kind first last) : kind ≠ .simplifyInitializer ∧ kind ≠ .renameIdentifier := by
  cases dispensable with
  | blank => decide
  | code kinds => rcases kinds with rfl | rfl <;> decide

/-- Whether a name that a line of code declares may be renamed. -/
structure Renamable (outputs : List Text) (code name : Text) : Prop where
  declared : ∃ declaration, Code.declaration? code = some declaration ∧ declaration.name = name
  notOutput : name ∉ outputs
  notKeyword : name ∉ Code.keywords
  notFresh : Code.isFreshName name = false

/-- Where an opportunity comes from. -/
inductive Found (rules : Rules) (lines : List Text) : Opportunity → Prop
  | removal {kind : OpportunityKind} {first last : Nat} : Dispensable rules lines kind first last → first ≤ last →
      last < lines.length → Found rules lines ⟨kind, first, last, []⟩
  | initializer {index : Nat} {line constant : Text} : lines[index]? = some line →
      newInitial? rules.version (Code.ofLine line) = some constant →
      Found rules lines ⟨.simplifyInitializer, index, index, constant⟩
  | name {index : Nat} {line name : Text} : lines[index]? = some line →
      Renamable (Code.outputs lines) (Code.ofLine line) name →
      Found rules lines ⟨.renameIdentifier, index, index, name⟩

section Found

variable {rules : Rules} {lines : List Text} {opportunity : Opportunity}

private theorem Dispensable.of_opensBlock {line : OutlineLine} {last : Nat} (block : OpensBlock rules lines line last) :
    Dispensable rules lines .removeBlock line.index last := by
  refine .code (.inl rfl) (Outline.pos_of_inFunction block.listed block.inFunction) ?_
  intro protects index text fromFirst toLast here
  obtain ⟨other, listed, placed, code⟩ := Outline.exists_of_getElem? here
  have within : other ∈ ((Outline.ofLines lines).take (last + 1)).drop line.index := by
    refine List.mem_iff_getElem?.mpr ⟨other.index - line.index, ?_⟩
    rw [List.getElem?_drop, List.getElem?_take, show line.index + (other.index - line.index) = other.index by omega,
      if_pos (by omega), (Outline.of_mem_ofLines listed).1]
  rw [← code]
  exact block.spares protects other within

private theorem Dispensable.of_holdsStatement {line : OutlineLine} (statement : HoldsStatement rules lines line) :
    Dispensable rules lines .removeStatement line.index line.index := by
  obtain ⟨-, text, here, code⟩ := Outline.of_mem_ofLines statement.listed
  refine .code (.inr rfl) (Outline.pos_of_inFunction statement.listed statement.inFunction) ?_
  intro protects index other first last found
  obtain rfl : index = line.index := by omega
  rw [here] at found
  cases found
  rw [← Code.writesOutput_trim, ← code]
  exact (statement.spares protects).2

/-- Every opportunity of a shader comes from somewhere. -/
theorem found_of_mem {shader : Shader} (member : opportunity ∈ shader.opportunities rules) :
    Found rules shader.lines opportunity := by
  cases origin_of_mem member with
  | blank here blank => exact .removal (.blank here blank) (Nat.le_refl _) (List.getElem?_eq_some_iff.mp here).1
  | block block =>
    obtain ⟨before, inside⟩ := Outline.blockEnd?_some block.closes
    exact .removal (.of_opensBlock block) (Nat.le_of_lt before) inside
  | statement statement =>
    obtain ⟨-, text, here, -⟩ := Outline.of_mem_ofLines statement.listed
    exact .removal (.of_holdsStatement statement) (Nat.le_refl _) (List.getElem?_eq_some_iff.mp here).1
  | initializer listed offered =>
    obtain ⟨-, text, here, code⟩ := Outline.of_mem_ofLines listed
    exact .initializer here (code ▸ offered)
  | name listed declares =>
    obtain ⟨-, text, here, code⟩ := Outline.of_mem_ofLines listed
    exact .name here (code ▸ ⟨declares.declared, declares.notOutput, declares.notKeyword, declares.notFresh⟩)

/-- An initial value can be simplified exactly where that is offered. -/
theorem mem_opportunities_simplify {shader : Shader} {index : Nat} {line constant : Text}
    (here : shader.lines[index]? = some line) :
    (⟨.simplifyInitializer, index, index, constant⟩ : Opportunity) ∈ shader.opportunities rules ↔
      newInitial? rules.version (Code.ofLine line) = some constant := by
  constructor
  · intro member
    cases found_of_mem member with
    | removal dispensable => exact absurd rfl dispensable.removes.1
    | initializer here' offered =>
      rw [here] at here'
      cases here'
      exact offered
  · intro offered
    obtain ⟨other, member, placed, code⟩ := Outline.exists_of_getElem? here
    have found : initializerAt? rules other = some ⟨.simplifyInitializer, index, index, constant⟩ := by
      rw [initializerAt?_eq, code, offered, placed]
      rfl
    unfold Shader.opportunities ofLines
    simp only [List.mem_append, List.mem_filterMap]
    exact .inl (.inr ⟨other, member, found⟩)

end Found

/-! ## Changes -/

/-- What an opportunity makes of the lines of a shader and of the context. -/
inductive Change (rules : Rules) (shader : Shader) (context : Context) : Opportunity → List Text → Context → Prop
  | removed {kind : OpportunityKind} {first last : Nat} : Dispensable rules shader.lines kind first last →
      first ≤ last → last < shader.lines.length →
      Change rules shader context ⟨kind, first, last, []⟩
        (shader.lines.take first ++ shader.lines.drop (last + 1)) context
  | simplified {index : Nat} {line constant initial : Text} {declaration : Code.Declaration} :
      shader.lines[index]? = some line → newInitial? rules.version (Code.ofLine line) = some constant →
      Code.declaration? (Code.ofLine line) = some declaration → declaration.initial = some initial →
      Change rules shader context ⟨.simplifyInitializer, index, index, constant⟩
        (shader.lines.set index (declaration.lead ++ constant ++ [';'])) context
  | renamed {index : Nat} {line name : Text} : shader.lines[index]? = some line →
      Renamable (Code.outputs shader.lines) (Code.ofLine line) name →
      Change rules shader context ⟨.renameIdentifier, index, index, name⟩
        (shader.lines.map (Text.replaceWord name (context.freshName (Text.identifiers shader.text)).1))
        (context.freshName (Text.identifiers shader.text)).2

end Opportunity

/-- Taking away lines that are there. -/
theorem Edit.withoutLines_natCast {lines : List Text} {first last : Nat} (ordered : first ≤ last) (inside : last < lines.length) :
    Edit.withoutLines lines first last = lines.take first ++ lines.drop (last + 1) := by
  have cuts : ∀ place : Nat, place ≤ lines.length → Edit.cut lines.length place = place := by
    intro place within
    rw [Edit.cut, if_neg (by omega), Int.toNat_natCast]
    exact Nat.min_eq_left within
  rw [Edit.withoutLines, cuts first (by omega), show (last : Int) + 1 = ((last + 1 : Nat) : Int) by omega,
    cuts (last + 1) (by omega)]

theorem Edit.position?_natCast {size place : Nat} (inside : place < size) : Edit.position? size place = some place := by
  have forward : ¬ (place : Int) < 0 := by omega
  simp [Edit.position?, forward, inside]

theorem Edit.simplified?_eq {line value initial : Text} {declaration : Code.Declaration}
    (declared : Code.declaration? (Code.ofLine line) = some declaration) (valued : declaration.initial = some initial) :
    Edit.simplified? line value = some (declaration.lead ++ value ++ [';']) := by
  obtain ⟨lead, type, name, _⟩ := declaration
  cases valued
  rw [Edit.simplified?, declared]

namespace Opportunity

/-- An opportunity that was found can be followed, and what it does is one of the changes. -/
theorem exists_change {rules : Rules} {shader : Shader} {opportunity : Opportunity}
    (member : opportunity ∈ shader.opportunities rules) (context : Context) :
    ∃ lines context', opportunity.apply shader context = .ok (shader.withLines lines, context') ∧
      Change rules shader context opportunity lines context' := by
  cases found_of_mem member with
  | @removal kind first last dispensable ordered inside =>
    refine ⟨_, _, ?_, .removed dispensable ordered inside⟩
    have removes : (⟨kind, first, last, []⟩ : Opportunity).edit = .removeLines first last := by
      cases dispensable with
      | blank => rfl
      | code kinds => rcases kinds with rfl | rfl <;> rfl
    rw [apply, removes, Edit.apply, Edit.withoutLines_natCast ordered inside]
  | @initializer index line constant here offered =>
    obtain ⟨declaration, declared, rest⟩ := Option.bind_eq_some_iff.mp offered
    obtain ⟨initial, valued, -⟩ := Option.bind_eq_some_iff.mp rest
    refine ⟨_, _, ?_, .simplified here offered declared valued⟩
    have line_eq : shader.lines.getD index [] = line := by
      rw [List.getD_eq_getElem?_getD, here, Option.getD_some]
    change Edit.apply (.simplifyInitializer index constant) shader context = _
    simp only [Edit.apply, Edit.position?_natCast (List.getElem?_eq_some_iff.mp here).1, line_eq,
      Edit.simplified?_eq declared valued]
  | name here renamable => exact ⟨_, _, rfl, .renamed here renamable⟩

/-- What an opportunity that was found does is one of the changes. -/
theorem change_of_apply {rules : Rules} {shader candidate : Shader} {opportunity : Opportunity} {context context' : Context}
    (member : opportunity ∈ shader.opportunities rules) (success : opportunity.apply shader context = .ok (candidate, context')) :
    ∃ lines, candidate = shader.withLines lines ∧ Change rules shader context opportunity lines context' := by
  obtain ⟨lines, context'', applied, change⟩ := exists_change member context
  rw [success] at applied
  cases applied
  exact ⟨lines, rfl, change⟩

end Opportunity

end ShaderShrink
