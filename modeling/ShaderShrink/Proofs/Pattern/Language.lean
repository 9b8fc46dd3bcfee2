import Mathlib.Data.List.Flatten
import Mathlib.Tactic.SplitIfs
import ShaderShrink.Pattern.Alternatives
import ShaderShrink.Pattern.Matching

/-!
# The texts of a pattern

A pattern is regular if it is put together from tests of single characters by sequence, alternatives, parentheses and
repetitions that may give back what they took.  Then it stands for a set of texts, whatever stands around them.
-/

namespace ShaderShrink.Pattern.Node

/-- Whether a pattern looks at nothing but the characters that it matches, and has no repetition that keeps what it took or
that may not make as many turns as it must. -/
def isRegular : Node → Bool
  | empty | one _ => true
  | seq first second | either first second => first.isRegular && second.isRegular
  | enclosed _ body | capture _ body => body.isRegular
  | loop eagerness least most body => eagerness != .possessive && most.all (least ≤ ·) && body.isRegular
  | anchor _ | again .. | ahead .. | behind .. | atomic _ | choice .. => false

/-- Whether a text is one of those that a regular pattern stands for. -/
def Matches : Node → Text → Prop
  | empty, t => t = []
  | one test, t => ∃ c, test.passes c = true ∧ t = [c]
  | seq first second, t => ∃ a b, first.Matches a ∧ second.Matches b ∧ t = a ++ b
  | either first second, t => first.Matches t ∨ second.Matches t
  | enclosed _ body, t | capture _ body, t => body.Matches t
  | loop _ least most body, t => ∃ turns : List Text, least ≤ turns.length ∧ (∀ bound ∈ most, turns.length ≤ bound) ∧
      (∀ turn ∈ turns, body.Matches turn) ∧ t = turns.flatten
  | anchor _, _ | again .., _ | ahead .., _ | behind .., _ | atomic _, _ | choice .., _ => False

theorem isRegular_loop {eagerness : Eagerness} {least : Nat} {most : Option Nat} {body : Node} :
    (loop eagerness least most body).isRegular = true ↔
      eagerness ≠ .possessive ∧ (∀ bound ∈ most, least ≤ bound) ∧ body.isRegular = true := by
  cases most <;> simp [isRegular, and_assoc]

/-- A regular pattern does not look back. -/
theorem looksBack_of_isRegular {node : Node} (regular : node.isRegular = true) :
    node.looksBackFixed = true ∧ node.looksBackNear = true := by
  induction node with
  | empty | one => exact ⟨rfl, rfl⟩
  | seq _ _ ih ih' | either _ _ ih ih' =>
    obtain ⟨left, right⟩ := Bool.and_eq_true_iff.mp regular
    simp [looksBackFixed, looksBackNear, ih left, ih' right]
  | enclosed _ _ ih | capture _ _ ih => exact ih regular
  | loop _ _ _ _ ih => exact ih (isRegular_loop.mp regular).2.2
  | anchor | again | ahead | behind | atomic | choice => cases regular

theorem mul_le_length_flatten {turns : List Text} {n : Nat} (each : ∀ turn ∈ turns, n ≤ turn.length) :
    turns.length * n ≤ turns.flatten.length := by
  induction turns with
  | nil => simp
  | cons turn rest ih =>
    have front := each turn List.mem_cons_self
    have back := ih fun other member => each other (List.mem_cons_of_mem turn member)
    rw [List.length_cons, List.flatten_cons, List.length_append, Nat.succ_mul]
    omega

/-- A text of a pattern is at least as long as the width of the pattern tells. -/
theorem Matches.least_le {node : Node} {t : Text} (found : node.Matches t) : node.width.least ≤ t.length := by
  induction node generalizing t with
  | empty => exact Nat.zero_le _
  | one test =>
    obtain ⟨c, -, rfl⟩ := found
    exact Nat.le_refl 1
  | seq first second ih ih' =>
    obtain ⟨a, b, front, back, rfl⟩ := found
    rw [List.length_append]
    exact Nat.le_trans (Nat.min_le_left _ _) (Nat.add_le_add (ih front) (ih' back))
  | either first second ih ih' =>
    rcases found with left | right
    · exact Nat.le_trans (Nat.min_le_left _ _) (ih left)
    · exact Nat.le_trans (Nat.min_le_right _ _) (ih' right)
  | enclosed _ body ih | capture _ body ih => exact ih found
  | loop eagerness least most body ih =>
    obtain ⟨turns, enough, -, each, rfl⟩ := found
    calc (loop eagerness least most body).width.least
        ≤ body.width.least * least := Nat.min_le_left _ _
      _ ≤ body.width.least * turns.length := Nat.mul_le_mul_left _ enough
      _ = turns.length * body.width.least := Nat.mul_comm _ _
      _ ≤ turns.flatten.length := mul_le_length_flatten fun turn member => ih (each turn member)
  | anchor | again | ahead | behind | atomic | choice => exact found.elim

/-! ## Sequences and alternatives -/

section Parts

variable {node : Node} {nodes front back first : List Node} {others : List (List Node)} {t : Text}

theorem matches_ofParts_cons :
    (ofParts (node :: nodes)).Matches t ↔ ∃ a b, node.Matches a ∧ (ofParts nodes).Matches b ∧ t = a ++ b := by
  cases nodes with
  | nil => simp [ofParts, Matches]
  | cons next nodes => rfl

/-- A sequence stands for what its parts stand for, one behind the other. -/
theorem matches_ofParts_append :
    (ofParts (front ++ back)).Matches t ↔ ∃ a b, (ofParts front).Matches a ∧ (ofParts back).Matches b ∧ t = a ++ b := by
  induction front generalizing t with
  | nil => simp [ofParts, Matches]
  | cons node front ih =>
    simp only [List.cons_append, matches_ofParts_cons, ih]
    constructor
    · rintro ⟨a, _, found, ⟨b, c, found', found'', rfl⟩, rfl⟩
      exact ⟨a ++ b, c, ⟨a, b, found, found', rfl⟩, found'', (List.append_assoc a b c).symm⟩
    · rintro ⟨_, c, ⟨a, b, found, found', rfl⟩, found'', rfl⟩
      exact ⟨a, b ++ c, found, ⟨b, c, found', found'', rfl⟩, List.append_assoc a b c⟩

theorem matches_eitherOf :
    (eitherOf first others).Matches t ↔ ∃ alternative ∈ first :: others, (ofParts alternative).Matches t := by
  induction others generalizing first with
  | nil =>
    rw [eitherOf]
    split_ifs <;> simp [Matches]
  | cons other others ih =>
    rw [eitherOf, Matches, ih]
    simp only [List.mem_cons, or_and_right, exists_or, exists_eq_left]

theorem isRegular_ofParts : (ofParts nodes).isRegular = true ↔ ∀ node ∈ nodes, node.isRegular = true := by
  induction nodes with
  | nil => simp [ofParts, isRegular]
  | cons node nodes ih =>
    rw [List.forall_mem_cons, ← ih]
    cases nodes <;> simp [ofParts, isRegular]

theorem isRegular_eitherOf : (eitherOf first others).isRegular = true ↔
    ∀ alternative ∈ first :: others, (ofParts alternative).isRegular = true := by
  induction others generalizing first with
  | nil =>
    rw [eitherOf]
    split_ifs <;> simp [isRegular]
  | cons other others ih =>
    rw [eitherOf, isRegular, Bool.and_eq_true, ih]
    simp only [List.forall_mem_cons]

/-- What is split off stands in front of all alternatives. -/
theorem splitFront_eq (first : List Node) (others : List (List Node)) :
    first = (splitFront first others).1 ++ (splitFront first others).2.1 ∧
      others = (splitFront first others).2.2.map ((splitFront first others).1 ++ ·) := by
  induction first generalizing others with
  | nil => simp [splitFront]
  | cons node first ih =>
    rw [splitFront]
    split_ifs with same
    · obtain ⟨-, heads⟩ := Bool.and_eq_true_iff.mp same
      obtain ⟨firstEq, othersEq⟩ := ih (others.map List.tail)
      refine ⟨congrArg (node :: ·) firstEq, ?_⟩
      have begins : ∀ other ∈ others, node :: other.tail = other := by
        intro other member
        obtain ⟨rest, rfl⟩ := List.head?_eq_some_iff.mp (eq_of_beq (List.all_eq_true.mp heads other member))
        rfl
      calc others = (others.map List.tail).map (node :: ·) := by
            rw [List.map_map]
            exact ((List.map_congr_left begins).trans (List.map_id others)).symm
        _ = _ := (congrArg (List.map (node :: ·)) othersEq).trans List.map_map
    · exact ⟨rfl, (List.map_id others).symm⟩

theorem exists_of_mapM_items? {alternatives : List (List Node)} {found : List (List SetItem)}
    (all : alternatives.mapM items? = some found) : ∀ alternative ∈ alternatives, ∃ items, items? alternative = some items := by
  induction alternatives generalizing found with
  | nil => exact fun _ => nofun
  | cons alternative alternatives ih =>
    rw [List.mapM_cons] at all
    obtain ⟨items, single, all⟩ := Option.bind_eq_some_iff.mp all
    obtain ⟨others, rest, -⟩ := Option.bind_eq_some_iff.mp all
    exact List.forall_mem_cons.mpr ⟨⟨items, single⟩, ih rest⟩

/-- A sequence of one test is regular. -/
theorem isRegular_of_items? {items : List SetItem} (single : items? nodes = some items) : (ofParts nodes).isRegular = true := by
  unfold items? at single
  split at single
  · rfl
  · rfl
  · cases single

/-- The alternatives of a regular pattern are regular. -/
theorem isRegular_of_ofAlternatives {rule : CaseRule} (regular : (ofAlternatives rule first others).isRegular = true) :
    ∀ alternative ∈ first :: others, (ofParts alternative).isRegular = true := by
  unfold ofAlternatives at regular
  split_ifs at regular with none
  · rw [List.isEmpty_iff.mp none]
    simpa using regular
  obtain ⟨firstEq, othersEq⟩ := splitFront_eq first others
  generalize splitFront first others = split at regular firstEq othersEq
  obtain ⟨front, first', others'⟩ := split
  dsimp only at regular firstEq othersEq
  have both : (∀ node ∈ front, node.isRegular = true) ∧
      ∀ alternative ∈ first' :: others', (ofParts alternative).isRegular = true := by
    split at regular
    · rename_i found
      refine ⟨fun node member => isRegular_ofParts.mp regular node (List.mem_append_left _ member), fun alternative member => ?_⟩
      obtain ⟨items, single⟩ := exists_of_mapM_items? found alternative member
      exact isRegular_of_items? single
    · refine ⟨fun node member => isRegular_ofParts.mp regular node (List.mem_append_left _ member), ?_⟩
      exact isRegular_eitherOf.mp (isRegular_ofParts.mp regular _ (by simp))
  have together : first :: others = (first' :: others').map (front ++ ·) := by rw [List.map_cons, ← firstEq, ← othersEq]
  rw [together]
  intro alternative member
  obtain ⟨rest, member', rfl⟩ := List.mem_map.mp member
  rw [isRegular_ofParts, List.forall_mem_append]
  exact ⟨both.1, isRegular_ofParts.mp (both.2 rest member')⟩

end Parts

end ShaderShrink.Pattern.Node
