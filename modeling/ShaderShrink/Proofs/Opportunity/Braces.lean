import Mathlib.Data.List.Infix
import ShaderShrink.Proofs.Opportunity.Candidate
import ShaderShrink.Proofs.Shader.Nesting

/-!
# Braces under change

Where the braces of a shader match, a block that is found has as many opening as closing braces, a blank line or a
comment has none, and renaming touches none.  A statement that is taken away and a line whose initial value becomes a
constant are not looked at for braces: if they close what another line opens, as the last line of a `do` loop does, the
braces match no longer.
-/

namespace ShaderShrink

open Text

namespace Outline

/-! ## Matching braces -/

/-- Whether braces match: no prefix closes more than it opens, and as many are closed as opened. -/
structure Matched (braces : Text) : Prop where
  prefixes : ∀ front, front <+: braces → front.count '}' ≤ front.count '{'
  total : braces.count '}' = braces.count '{'

instance (braces : Text) : Decidable (Matched braces) :=
  decidable_of_iff ((∀ front ∈ braces.inits, front.count '}' ≤ front.count '{') ∧ braces.count '}' = braces.count '{')
    ⟨fun ⟨below, total⟩ => ⟨fun front first => below front ((List.mem_inits _ _).mpr first), total⟩,
      fun ⟨below, total⟩ => ⟨fun front member => below front ((List.mem_inits _ _).mp member), total⟩⟩

/-- Whether the braces of some lines match. -/
def BracesMatch (lines : List Text) : Prop := Matched (braces lines)

instance (lines : List Text) : Decidable (BracesMatch lines) := inferInstanceAs (Decidable (Matched _))

/-- Whether some braces open as many blocks as they close. -/
def Paired (braces : Text) : Prop := braces.count '}' = braces.count '{'

instance (braces : Text) : Decidable (Paired braces) := inferInstanceAs (Decidable (_ = _))

/-- What is taken out of matching braces leaves matching ones exactly if it is paired. -/
theorem Matched.append_iff {a b c : Text} (matched : Matched (a ++ (b ++ c))) : Matched (a ++ c) ↔ Paired b := by
  have total := matched.total
  unfold Paired
  constructor
  · intro left
    have total' := left.total
    simp only [List.count_append] at total total'
    omega
  · intro paired
    refine ⟨fun front first => ?_, ?_⟩
    · obtain ⟨back, whole⟩ := first
      rcases List.append_eq_append_iff.mp whole with ⟨rest, rfl, -⟩ | ⟨part, rfl, rfl⟩
      · exact matched.prefixes front ⟨rest ++ (b ++ c), by simp⟩
      · have below := matched.prefixes (a ++ (b ++ part)) ⟨back, by simp⟩
        simp only [List.count_append] at below ⊢
        omega
    · simp only [List.count_append] at total ⊢
      omega

/-- Where no prefix closes more than it opens, the open blocks are those that are opened and not closed. -/
theorem foldl_depthBehind {braces : Text} (below : ∀ front, front <+: braces → front.count '}' ≤ front.count '{') :
    braces.foldl depthBehind 0 + braces.count '}' = braces.count '{' := by
  -- From the back, since it is the brace behind a prefix that the prefix bounds.
  induction braces using List.reverseRecOn with
  | nil => rfl
  | append_singleton front c ih =>
    have before := ih fun first isFirst => below first (isFirst.trans (List.prefix_append front [c]))
    have all := below _ (List.prefix_refl _)
    rw [List.foldl_append, List.foldl_cons, List.foldl_nil, List.count_append, List.count_append]
    rw [List.count_append, List.count_append] at all
    by_cases opens : c = '{'
    · subst opens
      simp only [depthBehind, List.count_singleton_self, List.count_singleton, ↓reduceIte, Char.reduceBEq,
        Bool.false_eq_true] at all ⊢
      omega
    · by_cases closes : c = '}'
      · subst closes
        simp only [depthBehind, List.count_singleton_self, List.count_singleton, ↓reduceIte, Char.reduceBEq,
          Char.reduceEq, Bool.false_eq_true] at all ⊢
        omega
      · simp only [depthBehind, opens, closes, List.count_singleton, ↓reduceIte, beq_iff_eq]
        omega

/-- The braces in front of a line are those in front of an earlier line and those of the stretch in between. -/
theorem braces_take (lines : List Text) {first last : Nat} (ordered : first ≤ last) :
    braces (lines.take last) = braces (lines.take first) ++ braces ((lines.take last).drop first) := by
  have front : (lines.take last).take first = lines.take first := by rw [List.take_take, Nat.min_eq_left ordered]
  rw [← braces_append, ← front, List.take_append_drop]

/-- Lines that are taken away leave matching braces exactly if theirs are paired. -/
theorem BracesMatch.take_drop_iff {lines : List Text} (balanced : BracesMatch lines) {first last : Nat} (ordered : first ≤ last) :
    BracesMatch (lines.take first ++ lines.drop (last + 1)) ↔ Paired (braces ((lines.take (last + 1)).drop first)) := by
  have whole : braces lines = braces (lines.take first) ++
      (braces ((lines.take (last + 1)).drop first) ++ braces (lines.drop (last + 1))) := by
    rw [← List.append_assoc, ← braces_take lines (by omega), ← braces_append, List.take_append_drop]
  rw [BracesMatch, whole] at balanced
  rw [BracesMatch, braces_append]
  exact balanced.append_iff

/-- The braces of a block are paired. -/
theorem Block.paired {lines : List Text} {first last : Nat} (block : Block lines first last) (balanced : BracesMatch lines) :
    Paired (braces ((lines.take (last + 1)).drop first)) := by
  have counted : ∀ index, depthAt lines index + (braces (lines.take index)).count '}' = (braces (lines.take index)).count '{' := by
    intro index
    rw [depthAt_eq]
    refine foldl_depthBehind fun front first => balanced.prefixes front (first.trans ?_)
    exact ⟨braces (lines.drop index), by rw [← braces_append, List.take_append_drop]⟩
  have before := counted first
  have behind := counted (last + 1)
  have ordered := block.before
  rw [block.level, braces_take lines (show first ≤ last + 1 by omega), List.count_append, List.count_append] at behind
  unfold Paired
  omega

theorem braces_single {lines : List Text} {index : Nat} {line : Text} (here : lines[index]? = some line) :
    braces ((lines.take (index + 1)).drop index) = bracesOf line := by
  have inside := (List.getElem?_eq_some_iff.mp here).1
  rw [List.take_add_one, here, List.drop_append_of_le_length (by rw [List.length_take]; omega),
    List.drop_eq_nil_of_le (List.length_take_le _ _)]
  exact List.append_nil _

/-- A line without braces in the place of another is as good as none. -/
theorem braces_set {lines : List Text} {index : Nat} {new : Text} (inside : index < lines.length) (bare : bracesOf new = []) :
    braces (lines.set index new) = braces (lines.take index ++ lines.drop (index + 1)) := by
  rw [List.set_eq_take_append_cons_drop, if_pos inside, braces_append, braces_append, braces, braces, List.flatMap_cons, bare,
    List.nil_append]
  rfl

theorem braces_map {change : Text → Text} (kept : ∀ line, bracesOf (change line) = bracesOf line) (lines : List Text) :
    braces (lines.map change) = braces lines := by
  rw [braces, List.flatMap_map]
  exact congrArg (lines.flatMap ·) (funext kept)

/-! ## Lines without braces -/

theorem bracesOf_eq_nil {line : Text} (none : ∀ c ∈ Code.ofLine line, isBrace c = false) : bracesOf line = [] := by
  unfold bracesOf
  split_ifs
  · rfl
  · exact List.filter_eq_nil_iff.mpr fun c member brace => by simp [none c member] at brace

/-- Changing words changes no braces. -/
theorem bracesOf_mapWords {change : Text → Text} (keeps : KeepsWords change) (line : Text) :
    bracesOf (mapWords change line) = bracesOf line := by
  have first : ∀ t : Text, startsWith t ['#'] = t.head?.any (· == '#') := by
    intro t
    cases t with
    | nil => rfl
    | cons c rest => simp [startsWith, List.isPrefixOf, Bool.beq_comm]
  have outside : ∀ c : Char, (c == '#') = true → isWord c = false := by
    intro c same
    obtain rfl := beq_iff_eq.mp same
    decide
  have brace : ∀ c : Char, isBrace c = true → isWord c = false := by
    intro c brace
    cases inside : isWord c with
    | false => rfl
    | true => rw [isBrace_of_isWord inside] at brace; cases brace
  unfold bracesOf isDirective
  rw [Code.ofLine_mapWords keeps, trim_mapWords keeps, first, first, head?_mapWords keeps outside,
    filter_mapWords keeps brace]

end Outline

theorem Text.hasPart_append (front part back : Text) : hasPart part (front ++ (part ++ back)) = true := by
  induction front with
  | nil =>
    cases part with
    | nil => cases back <;> rfl
    | cons c rest =>
      have begins : startsWith (c :: (rest ++ back)) (c :: rest) = true := List.isPrefixOf_iff_prefix.mpr ⟨back, rfl⟩
      rw [List.nil_append, List.cons_append, hasPart, begins, Bool.true_or]
  | cons c rest ih => rw [List.cons_append, hasPart, ih, Bool.or_true]

/-- Whether no line of a shader begins a comment that may end on another line. -/
def Shader.Commentless (shader : Shader) : Prop :=
  ∀ line ∈ shader.lines, hasPart "/*".toList (Code.beforeComment line) = false

instance (shader : Shader) : Decidable shader.Commentless := by
  unfold Shader.Commentless
  infer_instance

namespace Opportunity

open Outline

/-- A blank line or a comment of one line has no braces. -/
theorem bracesOf_of_isBlankOrComment {line : Text} (found : isBlankOrComment line = true)
    (plain : hasPart "/*".toList (Code.beforeComment line) = false) : bracesOf line = [] := by
  obtain ⟨blanks, white, whole⟩ := exists_trimLeft line
  obtain ⟨behind, white', whole'⟩ := exists_trimRight (trimLeft line)
  have line_eq : line = blanks ++ (trim line ++ behind) := whole.trans (congrArg (blanks ++ ·) whole')
  have slashless : '/' ∉ blanks := fun member => absurd (white _ member) (by decide)
  have code_eq : Code.beforeComment line = blanks ++ Code.beforeComment (trim line ++ behind) := by
    conv_lhs => rw [line_eq]
    exact Code.beforeComment_append slashless _
  unfold isBlankOrComment at found
  dsimp only at found
  split_ifs at found with directive
  simp only [Bool.or_eq_true, Bool.and_eq_true, startsWith, List.isPrefixOf_iff_prefix] at found
  rcases found with (empty | ⟨rest, comment⟩) | ⟨⟨⟨rest, opens⟩, -⟩, -⟩
  · rw [List.isEmpty_iff.mp empty, List.nil_append] at line_eq
    refine bracesOf_eq_nil fun c member => isBrace_of_isBlank ?_
    have inside := Code.ofLine_subset line member
    rw [line_eq] at inside
    exact (List.mem_append.mp inside).elim (white c) (white' c)
  · rw [← comment] at code_eq
    refine bracesOf_eq_nil fun c member => isBrace_of_isBlank (white c ?_)
    obtain ⟨dropped, -, code⟩ := exists_trimRight (Code.beforeComment line)
    have inside : c ∈ Code.beforeComment line := by
      rw [code]
      exact List.mem_append_left _ member
    rw [code_eq] at inside
    exact (List.mem_append.mp inside).resolve_right fun later => (List.not_mem_nil later).elim
  · rw [← opens] at code_eq
    have code : Code.beforeComment line = blanks ++ ("/*".toList ++ Code.beforeComment (rest ++ behind)) := code_eq
    rw [code, hasPart_append] at plain
    cases plain

/-- With a constant in the place of its initial value, a line has no braces. -/
theorem bracesOf_simplified {version : Version} {line constant initial : Text} {declaration : Code.Declaration}
    (offered : newInitial? version (Code.ofLine line) = some constant)
    (declared : Code.declaration? (Code.ofLine line) = some declaration) (valued : declaration.initial = some initial) :
    bracesOf (declaration.lead ++ constant ++ [';']) = [] := by
  obtain ⟨front, blanks, rest, spaced, white, -, leads, -⟩ := Code.lead_eq declared valued
  refine bracesOf_eq_nil fun c member => ?_
  have inside := Code.ofLine_subset _ member
  rw [leads] at inside
  simp only [List.mem_append, List.mem_cons, List.not_mem_nil, or_false] at inside
  rcases inside with ((before | rfl | blank) | value) | rfl
  · exact (spaced c before).elim isBrace_of_isWord isBrace_of_isBlank
  · rfl
  · exact isBrace_of_isBlank (white c blank)
  · rcases constant_chars_of_offered offered c value with inside | rfl | rfl | rfl
    · exact isBrace_of_isWord inside
    · rfl
    · rfl
    · rfl
  · rfl

variable {rules : Rules} {shader : Shader} {opportunity : Opportunity}

/-- In a shader without comments of several lines, every change keeps matching braces, but for one: a statement that
goes, or a line whose initial value becomes a constant, takes its braces along, and these have to be paired. -/
theorem apply_keeps_braces (member : opportunity ∈ shader.opportunities rules) (balanced : BracesMatch shader.lines)
    (commentless : shader.Commentless) (context : Context) :
    ∃ candidate context', opportunity.apply shader context = .ok (candidate, context') ∧
      (BracesMatch candidate.lines ↔
        (opportunity.kind = .removeStatement ∨ opportunity.kind = .simplifyInitializer →
          ∀ line, shader.lines[opportunity.first]? = some line → Paired (bracesOf line))) := by
  obtain ⟨lines, context', applied, change⟩ := exists_change member context
  refine ⟨_, _, applied, ?_⟩
  rw [change.lines_eq]
  cases origin_of_mem member with
  | blank here blank =>
    cases change
    rw [balanced.take_drop_iff (Nat.le_refl _), braces_single here,
      bracesOf_of_isBlankOrComment blank (commentless _ (List.mem_of_getElem? here))]
    simp [Paired]
  | block block =>
    cases change
    have ordered := Nat.le_of_lt (Outline.blockEnd?_some block.closes).1
    simp [balanced.take_drop_iff ordered, (block_of_blockEnd? block.closes).paired balanced]
  | statement statement =>
    cases change
    obtain ⟨-, text, here, -⟩ := Outline.of_mem_ofLines statement.listed
    simp [balanced.take_drop_iff (Nat.le_refl _), braces_single here, here]
  | initializer listed _ =>
    cases change with
    | removed dispensable => exact absurd rfl dispensable.removes.1
    | simplified here offered declared valued =>
      rw [BracesMatch, braces_set (List.getElem?_eq_some_iff.mp here).1 (bracesOf_simplified offered declared valued)]
      refine (balanced.take_drop_iff (Nat.le_refl _)).trans ?_
      simp [braces_single here, here]
  | name listed declares =>
    cases change with
    | removed dispensable => exact absurd rfl dispensable.removes.2
    | renamed =>
      obtain ⟨declaration, declared, rfl⟩ := declares.declared
      have isName := isWord_of_isIdentifier (Code.name_mem_words declared).1
      have isNew := context.isWord_freshName (identifiers shader.text)
      rw [BracesMatch, braces_map fun line => by rw [replaceWord_eq isName, bracesOf_mapWords (keepsWords_replacing isNew)]]
      exact iff_of_true balanced fun kind => by rcases kind with kind | kind <;> cases kind

/-- A shader with a loop whose last line looks like a statement. -/
def untilLoop : Shader :=
  ⟨"void main() \x7b\n  do \x7b\n    x;\n  \x7d while (y);\n\x7d\n".toList, [], .default⟩

/-- Without the last line of the loop the braces match no longer. -/
theorem apply_keeps_braces_untilLoop :
    ∃ candidate context',
      (⟨.removeStatement, 3, 3, []⟩ : Opportunity).apply untilLoop (.create 0 ⟨false, .default⟩) = .ok (candidate, context') ∧
        ¬ BracesMatch candidate.lines := by
  have member : ⟨.removeStatement, 3, 3, []⟩ ∈ untilLoop.opportunities ⟨false, .default⟩ := by decide +kernel
  have here : untilLoop.lines[3]? = some "  \x7d while (y);".toList := by decide +kernel
  obtain ⟨candidate, context', applied, balanced⟩ :=
    apply_keeps_braces member (by decide +kernel) (by decide +kernel) (.create 0 ⟨false, .default⟩)
  refine ⟨candidate, context', applied, fun kept => ?_⟩
  have paired := balanced.mp kept (.inl rfl) _ here
  exact absurd paired (by decide +kernel)

end Opportunity

end ShaderShrink
