import ShaderShrink.Proofs.Opportunity.Catalogue
import ShaderShrink.Proofs.Shader.Declaration

/-!
# Candidates

What is put into a candidate are constants and fresh names.  A constant stands alone on its line and brings no other
identifiers than keywords, and a fresh name is a word.  So a candidate is made of lines: joining them and splitting the
text again gives them back, and no carriage return comes in, so that a stored candidate is read as it was written.
-/

namespace ShaderShrink

open Text

namespace Context

theorem isIdentifier_nameOf (n : Nat) : isIdentifier (nameOf n) = true := by
  have digits : ∀ c ∈ Nat.toDigits 10 n, isWord c = true := by
    intro c member
    have digit := Nat.isDigit_of_mem_toDigits (by decide) (by decide) member
    simp only [Char.isDigit, Bool.and_eq_true, decide_eq_true_eq, ge_iff_le, UInt32.le_iff_toNat_le] at digit
    have bounds : 48 ≤ c.toNat ∧ c.toNat ≤ 57 := digit
    simp only [isWord, isAsciiDigit, show c.toNat < 128 by omega, ↓reduceIte, Bool.or_eq_true, Bool.and_eq_true,
      decide_eq_true_eq]
    exact .inl (.inr bounds)
  change (startsIdentifier '_' && ('v' :: Nat.toDigits 10 n).all isWord) = true
  simp only [Bool.and_eq_true, List.all_eq_true]
  refine ⟨by decide, fun c member => ?_⟩
  rcases List.mem_cons.mp member with rfl | digit
  · decide
  · exact digits c digit

/-- A fresh name is a word. -/
theorem isWord_freshName (context : Context) (taken : List Text) : IsWord (context.freshName taken).1 :=
  isWord_of_isIdentifier (isIdentifier_nameOf _)

end Context

namespace Opportunity

variable {rules : Rules} {shader candidate : Shader} {context context' : Context} {opportunity : Opportunity}
  {lines : List Text}

/-! ## Constants -/

/-- What has to hold for a constant to be offered. -/
theorem newInitial?_some {version : Version} {code constant : Text} (offered : newInitial? version code = some constant) :
    ∃ declaration initial, Code.declaration? code = some declaration ∧ declaration.initial = some initial ∧
      startsWith declaration.type "mat".toList = false ∧ Code.declaresMore initial = false ∧
      constantOf? version declaration.type = some constant ∧ trim initial ≠ constant := by
  obtain ⟨declaration, declared, offered⟩ := Option.bind_eq_some_iff.mp offered
  obtain ⟨initial, valued, offered⟩ := Option.bind_eq_some_iff.mp offered
  split_ifs at offered with other
  obtain ⟨constant', chosen, offered⟩ := Option.bind_eq_some_iff.mp offered
  split_ifs at offered with simple
  cases offered
  simp only [Bool.or_eq_true, not_or, Bool.not_eq_true] at other
  exact ⟨declaration, initial, declared, valued, other.1, other.2, chosen, simple⟩

/-- What a constant is made of: it stands alone, in one line, and its identifiers are keywords. -/
structure Constant (constant : Text) : Prop where
  tight : Code.Tight constant
  unbroken : Unbroken constant
  keywords : ∀ w ∈ words constant, isIdentifier w = true → w ∈ Code.keywords

instance (constant : Text) : Decidable (Constant constant) :=
  decidable_of_iff (Code.Tight constant ∧ Unbroken constant ∧
      ∀ w ∈ words constant, isIdentifier w = true → w ∈ Code.keywords)
    ⟨fun ⟨a, b, c⟩ => ⟨a, b, c⟩, fun ⟨a, b, c⟩ => ⟨a, b, c⟩⟩

/-- A constant that is offered is that of a type other than a matrix, so that it has what all of these have. -/
theorem of_offered {p : Text → Prop} (all : ∀ type ∈ Code.declarableTypes, startsWith type "mat".toList = false →
      ∀ constant ∈ constantOf? ⟨130, .unspecified⟩ type, p constant) {version : Version} {code constant : Text}
    (offered : newInitial? version code = some constant) : p constant := by
  obtain ⟨declaration, initial, declared, -, other, -, chosen, -⟩ := newInitial?_some offered
  refine all declaration.type (Code.declaration?_some declared).1 other constant ?_
  unfold constantOf? at chosen ⊢
  split_ifs at chosen with missing <;> simp_all [Version.hasUnsigned]

theorem constant_of_offered {version : Version} {code constant : Text}
    (offered : newInitial? version code = some constant) : Constant constant :=
  of_offered (by decide) offered

/-- What a constant that is offered is made of. -/
theorem constant_chars_of_offered {version : Version} {code constant : Text}
    (offered : newInitial? version code = some constant) :
    ∀ c ∈ constant, isWord c = true ∨ c = '.' ∨ c = '(' ∨ c = ')' := by
  have all : (constant.all fun c => isWord c || c == '.' || c == '(' || c == ')') = true :=
    of_offered (p := fun constant => (constant.all fun c => isWord c || c == '.' || c == '(' || c == ')') = true)
      (by decide) offered
  simpa only [List.all_eq_true, Bool.or_eq_true, beq_iff_eq, or_assoc] using all

/-! ## Lines -/

private theorem mem_replaceWordAfter {name new t : Text} {before : Option Char} {skip : Nat} {c : Char}
    (member : c ∈ Text.replaceWordAfter name new before skip t) : c ∈ new ∨ c ∈ t := by
  fun_induction Text.replaceWordAfter name new before skip t with
  | case1 before skip found => exact .inl member
  | case2 before skip other => cases member
  | case3 before d rest skip ih => exact (ih member).imp_right (List.mem_cons_of_mem d)
  | case4 before d rest found empty ih =>
    rcases List.mem_append.mp member with new | member
    · exact .inl new
    · rcases List.mem_cons.mp member with rfl | later
      · exact .inr List.mem_cons_self
      · exact (ih (empty ▸ later)).imp_right (List.mem_cons_of_mem d)
  | case5 before d rest found head tail named ih =>
    rcases List.mem_append.mp member with new | later
    · exact .inl new
    · exact (ih (named ▸ later)).imp_right (List.mem_cons_of_mem d)
  | case6 before d rest other ih =>
    rcases List.mem_cons.mp member with rfl | later
    · exact .inr List.mem_cons_self
    · exact (ih later).imp_right (List.mem_cons_of_mem d)

/-- The lines that come of a change are lines. -/
theorem Change.unbroken (change : Change rules shader context opportunity lines context') :
    ∀ line ∈ lines, Unbroken line := by
  have own : ∀ line ∈ shader.lines, Unbroken line := fun line => unbroken_of_mem_lines
  cases change with
  | removed _ _ _ =>
    intro line member
    rcases List.mem_append.mp member with front | back
    · exact own line (List.mem_of_mem_take front)
    · exact own line (List.mem_of_mem_drop back)
  | @simplified index line constant initial declaration here offered declared valued =>
    intro other member
    rcases List.mem_or_eq_of_mem_set member with old | rfl
    · exact own other old
    · have front : declaration.lead ⊆ line :=
        List.Subset.trans (Code.declaration?_some declared).2 (Code.ofLine_subset line)
      exact (((own line (List.mem_of_getElem? here)).of_subset front).append
        (constant_of_offered offered).unbroken).append (by decide)
  | renamed _ _ =>
    intro line member
    obtain ⟨old, inside, rfl⟩ := List.mem_map.mp member
    intro c part
    rcases mem_replaceWordAfter part with new | kept
    · exact unbroken_of_isWord (Context.isWord_freshName _ _) c new
    · exact own old inside c kept

/-- After a change the shader has just the lines that come of it. -/
theorem Change.lines_eq (change : Change rules shader context opportunity lines context') :
    (shader.withLines lines).lines = lines := lines_unlines change.unbroken

/-- A candidate has no carriage returns. -/
theorem returnless (member : opportunity ∈ shader.opportunities rules)
    (success : opportunity.apply shader context = .ok (candidate, context')) : Returnless candidate.text := by
  obtain ⟨lines, rfl, change⟩ := change_of_apply member success
  exact returnless_unlines fun line inside => (change.unbroken line inside).returnless

end Opportunity

end ShaderShrink
